/-!
# Symbols

Operators, brackets and punctuation: tokens with one fixed spelling of one or two characters.

- `Symbol.chars`: the spelling.
- `Symbol.ofChar?`, `Symbol.extend?`: a symbol is read from its first character and, if there is a symbol of two
  characters that goes on, from the next. `Symbol.ofChar?_eq_some_iff`, `Symbol.extend?_eq_some_iff`: they read the
  spellings and nothing else.
-/

namespace Formula

/-- Tokens with one fixed spelling. -/
inductive Symbol where
  | leftParen | rightParen | leftBracket | rightBracket | leftBrace | rightBrace
  | comma | dot | colon | semicolon
  | plus | minus | star | slash
  | bang | bangEqual | equal | equalEqual | greater | greaterEqual | less | lessEqual
  | ampersand | ampersandAmpersand | pipe | pipePipe
  deriving DecidableEq, Repr

namespace Symbol

/-- How the symbol is written. -/
def chars : Symbol → List Char
  | leftParen => ['('] | rightParen => [')']
  | leftBracket => ['['] | rightBracket => [']']
  | leftBrace => ['\x7b'] | rightBrace => ['\x7d']
  | comma => [','] | dot => ['.'] | colon => [':'] | semicolon => [';']
  | plus => ['+'] | minus => ['-'] | star => ['*'] | slash => ['/']
  | bang => ['!'] | bangEqual => ['!', '=']
  | equal => ['='] | equalEqual => ['=', '=']
  | greater => ['>'] | greaterEqual => ['>', '=']
  | less => ['<'] | lessEqual => ['<', '=']
  | ampersand => ['&'] | ampersandAmpersand => ['&', '&']
  | pipe => ['|'] | pipePipe => ['|', '|']

/-- How the symbol is called. -/
def name : Symbol → String
  | leftParen => "LeftParen" | rightParen => "RightParen"
  | leftBracket => "LeftBracket" | rightBracket => "RightBracket"
  | leftBrace => "LeftBrace" | rightBrace => "RightBrace"
  | comma => "Comma" | dot => "Dot" | colon => "Colon" | semicolon => "Semicolon"
  | plus => "Plus" | minus => "Minus" | star => "Star" | slash => "Slash"
  | bang => "Bang" | bangEqual => "BangEqual"
  | equal => "Equal" | equalEqual => "EqualEqual"
  | greater => "Greater" | greaterEqual => "GreaterEqual"
  | less => "Less" | lessEqual => "LessEqual"
  | ampersand => "Ampersand" | ampersandAmpersand => "AmpersandAmpersand"
  | pipe => "Pipe" | pipePipe => "PipePipe"

/-- The symbol of one character. -/
def ofChar? : Char → Option Symbol
  | '(' => leftParen | ')' => rightParen
  | '[' => leftBracket | ']' => rightBracket
  | '\x7b' => leftBrace | '\x7d' => rightBrace
  | ',' => comma | '.' => dot | ':' => colon | ';' => semicolon
  | '+' => plus | '-' => minus | '*' => star | '/' => slash
  | '!' => bang | '=' => equal | '>' => greater | '<' => less
  | '&' => ampersand | '|' => pipe
  | _ => none

/-- The symbol of two characters that starts like `s` and goes on with `c`. -/
def extend? (s : Symbol) (c : Char) : Option Symbol :=
  match s, c with
  | bang, '=' => bangEqual
  | equal, '=' => equalEqual
  | greater, '=' => greaterEqual
  | less, '=' => lessEqual
  | ampersand, '&' => ampersandAmpersand
  | pipe, '|' => pipePipe
  | _, _ => none

/-- Every symbol, in the order of its declaration. -/
def all : List Symbol :=
  [leftParen, rightParen, leftBracket, rightBracket, leftBrace, rightBrace, comma, dot, colon, semicolon, plus, minus,
    star, slash, bang, bangEqual, equal, equalEqual, greater, greaterEqual, less, lessEqual, ampersand,
    ampersandAmpersand, pipe, pipePipe]

/-! ## Reading and writing -/

theorem ofChar?_eq_some_iff {c : Char} {s : Symbol} : ofChar? c = some s ↔ s.chars = [c] := by
  constructor
  · intro h
    unfold ofChar? at h
    split at h <;> simp_all <;> subst h <;> rfl
  · intro h
    cases s <;> simp [chars] at h <;> subst h <;> rfl

theorem extend?_eq_some_iff {s t : Symbol} {c : Char} : s.extend? c = some t ↔ t.chars = s.chars ++ [c] := by
  constructor
  · intro h
    unfold extend? at h
    split at h <;> simp_all <;> subst h <;> rfl
  · intro h
    cases t <;> simp [chars] at h <;> cases s <;> simp at h <;> subst h <;> rfl

end Symbol

end Formula
