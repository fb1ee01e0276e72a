import Formula.Token

/-!
# Expressions

Trees as the grammar builds them. A node whose evaluation can fail, or that stands for a name, carries the offset of
the token that introduced it; literals carry none. Parentheses are kept as nodes of their own.

- `BinaryOperator.level`: how tightly an operator binds; all are left-associative.
- `Expr.offset`: where errors about an expression point.
- `Expr.ofSegments`: the pieces of a string literal, joined by `+`.
-/

namespace Formula

/-- The operators in front of one operand. -/
inductive UnaryOperator where
  | negate
  | not
  deriving DecidableEq, Repr

/-- The operators between two operands. -/
inductive BinaryOperator where
  | add | sub | mul | div
  | equal | notEqual
  | greater | greaterEqual | less | lessEqual
  deriving DecidableEq, Repr

namespace UnaryOperator

/-- How the operator is written. -/
def symbol : UnaryOperator → String
  | negate => "-"
  | not => "!"

/-- The operator that a kind of token stands for in front of an operand. -/
def ofKind? : Kind → Option UnaryOperator
  | .symbol .minus => some negate
  | .symbol .bang => some not
  | _ => none

end UnaryOperator

namespace BinaryOperator

/-- How the operator is written. -/
def symbol : BinaryOperator → String
  | add => "+"
  | sub => "-"
  | mul => "*"
  | div => "/"
  | equal => "=="
  | notEqual => "!="
  | greater => ">"
  | greaterEqual => ">="
  | less => "<"
  | lessEqual => "<="

/-- The operator that a kind of token stands for between operands. -/
def ofKind? : Kind → Option BinaryOperator
  | .symbol .plus => some add
  | .symbol .minus => some sub
  | .symbol .star => some mul
  | .symbol .slash => some div
  | .symbol .equalEqual => some equal
  | .symbol .bangEqual => some notEqual
  | .symbol .greater => some greater
  | .symbol .greaterEqual => some greaterEqual
  | .symbol .less => some less
  | .symbol .lessEqual => some lessEqual
  | _ => none

/-- How tightly the operator binds: equality least, then order, then sums, then products. -/
def level : BinaryOperator → Nat
  | equal | notEqual => 0
  | greater | greaterEqual | less | lessEqual => 1
  | add | sub => 2
  | mul | div => 3

end BinaryOperator

/-- An expression. -/
inductive Expr where
  /-- A number literal. -/
  | number (value : Float)
  /-- A string literal, or one run of plain text in it. -/
  | string (value : String)
  /-- `true` or `false`. -/
  | bool (value : Bool)
  /-- `nil`. -/
  | nil
  /-- The name of a variable or a function. -/
  | identifier (name : String) (offset : Nat)
  /-- An operator in front of its operand. -/
  | unary (op : UnaryOperator) (operand : Expr) (offset : Nat)
  /-- An operator between its operands. -/
  | binary (left : Expr) (op : BinaryOperator) (right : Expr) (offset : Nat)
  /-- An expression in parentheses. -/
  | grouping (inner : Expr)
  /-- A call; the offset is that of the opening parenthesis. -/
  | call (callee : Expr) (arguments : List Expr) (offset : Nat)
  /-- A function taken as a method of a receiver; the offset is that of the method's name. -/
  | method (receiver : Expr) (name : String) (offset : Nat)
  /-- An expression inside a string literal; the offset is that of the `\(`. -/
  | interpolation (inner : Expr) (offset : Nat)

namespace Expr

/-- Where errors about the expression point: zero for literals, the inner expression for a grouping. -/
def offset : Expr → Nat
  | number _ | string _ | bool _ | nil => 0
  | identifier _ o | unary _ _ o | binary _ _ _ o | call _ _ o | method _ _ o | interpolation _ o => o
  | grouping inner => inner.offset

/-- Joins the pieces of a string literal by `+` from left to right, the sums standing at its opening quote: no piece
is the empty text and a single piece stands alone. -/
def ofSegments (segments : List Expr) (quote : Nat) : Expr :=
  match segments with
  | [] => string ""
  | e :: es => es.foldl (fun left right => binary left .add right quote) e

@[simp] theorem ofSegments_nil (quote : Nat) : ofSegments [] quote = string "" := rfl

@[simp] theorem ofSegments_singleton (e : Expr) (quote : Nat) : ofSegments [e] quote = e := rfl

theorem ofSegments_append_singleton {es : List Expr} (h : es ≠ []) (e : Expr) (quote : Nat) :
    ofSegments (es ++ [e]) quote = binary (ofSegments es quote) .add e quote := by
  cases es with
  | nil => exact absurd rfl h
  | cons d ds => simp [ofSegments]

end Expr

end Formula
