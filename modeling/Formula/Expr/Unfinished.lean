import Formula.Expr
import Formula.Expr.ParseError

/-!
# Unfinished expressions

An expression that was read in part: what is expected next, the operators that wait for their right operand, and the
brackets that are still open, each with the operators that wait outside it. Every token changes an unfinished
expression at one place, so an expression is read in one pass over the tokens and the first token that fits nowhere is
the one that is blamed.

The grammar, from loose to tight:

- `equality := order (("==" | "!=") order)*`
- `order := sum ((">" | ">=" | "<" | "<=") sum)*`
- `sum := product (("+" | "-") product)*`
- `product := prefixed (("*" | "/") prefixed)*`
- `prefixed := ("-" | "!") prefixed | applied`
- `applied := atom ("(" (equality ("," equality)*)? ")" | "." NAME)*`
- `atom := "true" | "false" | "nil" | NUMBER | NAME | "(" equality ")" | string`
- `string := START (PLAINTEXT | INTERPOLATION_START equality INTERPOLATION_END)* END`

`Unfinished.step` takes one token and `Unfinished.read` as many as belong to the expression.
-/

namespace Formula

/-- An operator that waits for its right operand. -/
inductive Pending where
  | unary (op : UnaryOperator) (offset : Nat)
  | binary (left : Expr) (op : BinaryOperator) (offset : Nat)

namespace Pending

/-- Gives the operator its operand. -/
def apply : Pending → Expr → Expr
  | unary op o, e => .unary op e o
  | binary left op o, e => .binary left op e o

/-- The operator takes its operand before `next` does: it stands in front of one operand or binds at least as
tightly. -/
def precedes (next : BinaryOperator) : Pending → Bool
  | unary _ _ => true
  | binary _ op _ => next.level ≤ op.level

/-- Gives an operand to the innermost of some operators, the result to the next one, and so on. -/
def applyAll (operators : List Pending) (e : Expr) : Expr := operators.foldl (fun e p => p.apply e) e

end Pending

/-- An open bracket, with what was read of it so far. -/
inductive Enclosure where
  /-- A parenthesis around an expression. -/
  | grouping
  /-- An argument list with its complete arguments. -/
  | call (callee : Expr) (arguments : List Expr) (offset : Nat)
  /-- An interpolation in a string literal with its complete pieces. -/
  | interpolation (segments : List Expr) (quote : Nat) (offset : Nat)

/-- What is expected next. -/
inductive Focus where
  /-- An operand. -/
  | operand
  /-- The first argument of a call, or the end of its empty argument list. -/
  | firstArgument (callee : Expr) (offset : Nat)
  /-- The name of a method. -/
  | methodName (receiver : Expr)
  /-- Anything that goes on behind a complete operand. -/
  | operator (operand : Expr)
  /-- A piece of a string literal, or its closing quote. -/
  | segment (segments : List Expr) (quote : Nat)

/-- An expression that was read in part. -/
structure Unfinished where
  /-- What is expected next. -/
  focus : Focus
  /-- The operators that wait within the innermost bracket, innermost first. -/
  pending : List Pending
  /-- The open brackets, innermost first, each with the operators that wait outside it. -/
  outer : List (Enclosure × List Pending)

namespace Unfinished

/-- Nothing was read yet. -/
def start : Unfinished := ⟨.operand, [], []⟩

/-- What a token does to an unfinished expression. -/
inductive Step where
  /-- The token belongs to the expression. -/
  | more (u : Unfinished)
  /-- The expression was complete before the token. -/
  | done (e : Expr)
  /-- The token fits nowhere. -/
  | failed (err : ParseError)

/-- The error for a token in the wrong place: the end of the input is always reported as such. -/
def misplaced (t : Token) (err : String → Nat → ParseError) : Step :=
  .failed (if t.kind = .eof then .unexpectedEndOfInput t.offset else err t.describe t.offset)

/-! ## One token -/

/-- An operand that is a single token. -/
def atom? (t : Token) : Option Expr :=
  match t.kind with
  | .bool b => some (.bool b)
  | .nil => some .nil
  | .number x => some (.number x)
  | .identifier name => some (.identifier name t.offset)
  | _ => none

/-- A token where an operand is expected. -/
def stepOperand (pending : List Pending) (outer : List (Enclosure × List Pending)) (t : Token) : Step :=
  match atom? t with
  | some e => .more ⟨.operator e, pending, outer⟩
  | none =>
    match UnaryOperator.ofKind? t.kind with
    | some op => .more ⟨.operand, .unary op t.offset :: pending, outer⟩
    | none =>
      match t.kind with
      | .symbol .leftParen => .more ⟨.operand, [], (.grouping, pending) :: outer⟩
      | .stringStart => .more ⟨.segment [] t.offset, pending, outer⟩
      | _ => misplaced t .unexpectedToken

/-- A token behind an expression that no operator and no suffix continues. -/
def stepClose (e : Expr) (outer : List (Enclosure × List Pending)) (t : Token) : Step :=
  match outer with
  | [] => .done e
  | (.grouping, pending) :: rest =>
    match t.kind with
    | .symbol .rightParen => .more ⟨.operator (.grouping e), pending, rest⟩
    | _ => misplaced t .expectedClosingParen
  | (.call callee arguments offset, pending) :: rest =>
    match t.kind with
    | .symbol .comma => .more ⟨.operand, [], (.call callee (arguments ++ [e]) offset, pending) :: rest⟩
    | .symbol .rightParen => .more ⟨.operator (.call callee (arguments ++ [e]) offset), pending, rest⟩
    | _ => misplaced t .expectedClosingParen
  | (.interpolation segments quote offset, pending) :: rest =>
    match t.kind with
    | .interpolationEnd => .more ⟨.segment (segments ++ [.interpolation e offset]) quote, pending, rest⟩
    | _ => misplaced t .expectedInterpolationEnd

/-- A token behind a complete operand. -/
def stepOperator (e : Expr) (pending : List Pending) (outer : List (Enclosure × List Pending)) (t : Token) : Step :=
  match BinaryOperator.ofKind? t.kind with
  | some op =>
    let left := Pending.applyAll (pending.takeWhile (·.precedes op)) e
    .more ⟨.operand, .binary left op t.offset :: pending.dropWhile (·.precedes op), outer⟩
  | none =>
    match t.kind with
    | .symbol .leftParen => .more ⟨.firstArgument e t.offset, pending, outer⟩
    | .symbol .dot => .more ⟨.methodName e, pending, outer⟩
    | _ => stepClose (Pending.applyAll pending e) outer t

/-- A token inside a string literal. -/
def stepSegment (segments : List Expr) (quote : Nat) (pending : List Pending) (outer : List (Enclosure × List Pending))
    (t : Token) : Step :=
  match t.kind with
  | .plaintext s => .more ⟨.segment (segments ++ [.string s]) quote, pending, outer⟩
  | .interpolationStart => .more ⟨.operand, [], (.interpolation segments quote t.offset, pending) :: outer⟩
  | .stringEnd => .more ⟨.operator (.ofSegments segments quote), pending, outer⟩
  | .eof => .failed (.unterminatedString quote)
  | _ => .failed (.unexpectedToken t.describe t.offset)

/-- The unfinished expression after one more token. -/
def step (u : Unfinished) (t : Token) : Step :=
  match u.focus with
  | .operand => stepOperand u.pending u.outer t
  | .firstArgument callee offset =>
    match t.kind with
    | .symbol .rightParen => .more ⟨.operator (.call callee [] offset), u.pending, u.outer⟩
    | _ => stepOperand [] ((.call callee [] offset, u.pending) :: u.outer) t
  | .methodName receiver =>
    match t.kind with
    | .identifier name => .more ⟨.operator (.method receiver name t.offset), u.pending, u.outer⟩
    | _ => misplaced t .expectedMethodName
  | .operator e => stepOperator e u.pending u.outer t
  | .segment segments quote => stepSegment segments quote u.pending u.outer t

/-! ## All tokens -/

/-- The expression, if no token follows. -/
def finish (u : Unfinished) : Except ParseError Expr :=
  match u.focus, u.outer with
  | .operator e, [] => .ok (Pending.applyAll u.pending e)
  | .segment _ quote, _ => .error (.unterminatedString quote)
  | _, _ => .error (.unexpectedEndOfInput 0)

/-- Reads the expression to its end: the expression, and the tokens from the first that does not belong to it. -/
def read (u : Unfinished) : List Token → Except ParseError (Expr × List Token)
  | [] => u.finish.map fun e => (e, [])
  | t :: ts =>
    match u.step t with
    | .more u' => u'.read ts
    | .done e => .ok (e, t :: ts)
    | .failed err => .error err

end Unfinished

end Formula
