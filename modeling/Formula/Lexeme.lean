import Formula.Decimal
import Formula.Text.Letter
import Formula.Text.Numeral
import Formula.Token

/-!
# Lexemes outside string literals

The first character of a lexeme decides its form, and the form decides how far the lexeme reaches: numbers, names and
blanks go on as long as they can, symbols take a second character if that makes another symbol, and everything else
is one character. What a lexeme means depends on its characters alone.

- `Form.ofChar`: the form that a character starts.
- `Form.extent`: how many further characters belong to the lexeme; `Form.extent_le`: no more than there are.
- `Form.kind`: what the lexeme means.
- `Lexeme.first`, `Lexeme.after`: the first lexeme of a text and what is left; `Lexeme.first_append_after`: together
  they are the text.
-/

namespace Formula

/-- A stretch of the source and what it means. -/
structure Lexeme where
  kind : Kind
  chars : List Char
  deriving DecidableEq

/-- The shapes of lexemes outside string literals. -/
inductive Form where
  /-- Digits, with a fraction if a digit follows the point. -/
  | number
  /-- A letter, `_` or `·`, then letters, numerals, `_` and `·`. -/
  | name
  /-- Spaces, tabs, carriage returns and form feeds. -/
  | blank
  /-- A line end. -/
  | newline
  /-- A backslash. -/
  | backslash
  /-- A symbol that starts like `s`. -/
  | symbol (s : Symbol)
  /-- A character that starts no other form. -/
  | unknown
  deriving DecidableEq

/-! ## Classes of characters -/

/-- The dot that joins words, U+00B7. -/
def middleDot : Char := '·'

/-- Characters that start a name. -/
def isNameStart (c : Char) : Bool := Text.isLetter c || c = '_' || c = middleDot

/-- Characters that a name goes on with. -/
def isNameChar (c : Char) : Bool := isNameStart c || Text.isNumeral c

/-- Blanks within a line. -/
def isBlank (c : Char) : Bool := c = ' ' || c = '\t' || c = '\r' || c = '\x0c'

namespace Form

/-- The form of the lexemes that start with the character. -/
def ofChar (c : Char) : Form :=
  if c.isDigit then number
  else if isNameStart c then name
  else if isBlank c then blank
  else if c = '\n' then newline
  else if c = '\\' then backslash
  else match Symbol.ofChar? c with
    | some s => symbol s
    | none => unknown

/-- How far a number goes on after its first digit: over digits, and over a point and the digits behind it if there
are any. -/
def numberExtent (cs : List Char) : Nat :=
  let whole := (cs.takeWhile Char.isDigit).length
  match cs.dropWhile Char.isDigit with
  | '.' :: ds => match (ds.takeWhile Char.isDigit).length with
    | 0 => whole
    | n + 1 => whole + (n + 1) + 1
  | _ => whole

/-- How many of the characters that follow the first one belong to the lexeme. -/
def extent : Form → List Char → Nat
  | number, cs => numberExtent cs
  | name, cs => (cs.takeWhile isNameChar).length
  | blank, cs => (cs.takeWhile isBlank).length
  | symbol s, c :: _ => if (s.extend? c).isSome then 1 else 0
  | _, _ => 0

/-- The value of a number literal. -/
def numberValue (chars : List Char) : Float :=
  (Decimal.ofParts (chars.takeWhile Char.isDigit) ((chars.dropWhile Char.isDigit).drop 1)).toFloat

/-- The symbol that starts like `s` and is written `chars`. -/
def symbolOf (s : Symbol) : List Char → Symbol
  | [_, c] => (s.extend? c).getD s
  | _ => s

/-- What a lexeme of this form means. -/
def kind : Form → List Char → Kind
  | number, chars => .number (numberValue chars)
  | name, chars => .ofName (String.ofList chars)
  | blank, _ => .whitespace
  | newline, _ => .newline
  | backslash, _ => .backslash
  | symbol s, chars => .symbol (symbolOf s chars)
  | unknown, _ => .trivia

/-! ## A lexeme stays within the text -/

theorem length_takeWhile_le (p : Char → Bool) (cs : List Char) : (cs.takeWhile p).length ≤ cs.length :=
  (List.takeWhile_sublist p).length_le

theorem numberExtent_le (cs : List Char) : numberExtent cs ≤ cs.length := by
  have h : (cs.takeWhile Char.isDigit).length + (cs.dropWhile Char.isDigit).length = cs.length := by
    rw [← List.length_append, List.takeWhile_append_dropWhile]
  simp only [numberExtent]
  split
  · rename_i ds hd
    have := length_takeWhile_le Char.isDigit ds
    rw [hd] at h
    simp only [List.length_cons] at h
    split <;> omega
  · omega

theorem extent_le (f : Form) (cs : List Char) : f.extent cs ≤ cs.length := by
  cases f with
  | number => exact numberExtent_le cs
  | name => exact length_takeWhile_le _ cs
  | blank => exact length_takeWhile_le _ cs
  | symbol s => cases cs <;> simp [extent]; split <;> omega
  | newline | backslash | unknown => cases cs <;> simp [extent]

end Form

namespace Lexeme

/-- How many characters of `cs` belong to the lexeme that starts with `c`. -/
def extent (c : Char) (cs : List Char) : Nat := (Form.ofChar c).extent cs

/-- The lexeme at the front of `c :: cs`, where `c` is no quote. -/
def first (c : Char) (cs : List Char) : Lexeme :=
  let chars := c :: cs.take (extent c cs)
  ⟨(Form.ofChar c).kind chars, chars⟩

/-- What is left of `c :: cs` behind its first lexeme. -/
def after (c : Char) (cs : List Char) : List Char := cs.drop (extent c cs)

theorem first_append_after (c : Char) (cs : List Char) : (first c cs).chars ++ after c cs = c :: cs := by
  simp [first, after]

theorem length_after_le (c : Char) (cs : List Char) : (after c cs).length ≤ cs.length := by
  simp [after]

end Lexeme

end Formula
