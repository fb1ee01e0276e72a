import Formula.EvalError

/-!
# Operators on values

- `UnaryOperator.apply`: negation of numbers and of truth values.
- `BinaryOperator.apply`: sums of numbers and of texts, arithmetic, order and equality.
- `Value.interpolate`: a value inside a string literal.
-/

namespace Formula

variable {φ : Type}

/-- The result of an operator in front of a value. -/
def UnaryOperator.apply (op : UnaryOperator) (v : Value φ) (offset : Nat) : Except EvalError (Value φ) :=
  match op, v with
  | .negate, .number x => .ok (.number (-x))
  | .negate, _ => .error (.operandMustBeNumber .negate offset)
  | .not, v => .ok (.bool (!v.isTruthy))

namespace BinaryOperator

/-- The sum of two numbers, or two texts one after the other; a number beside a text is taken in its plain form. -/
def applySum (left right : Value φ) (offset : Nat) : Except EvalError (Value φ) :=
  match left, right with
  | .number x, .number y => .ok (.number (x + y))
  | .text s, .text t => .ok (.text (s ++ t))
  | .number x, .text t => .ok (.text (Number.plain x ++ t))
  | .text s, .number y => .ok (.text (s ++ Number.plain y))
  | l, r => .error (.invalidAddition l.type r.type offset)

/-- Difference, product and quotient of two numbers. No number is divided by a zero of either sign. -/
def applyArithmetic (op : BinaryOperator) (left right : Value φ) (offset : Nat) : Except EvalError (Value φ) :=
  match left, right with
  | .number x, .number y =>
    match op with
    | .sub => .ok (.number (x - y))
    | .mul => .ok (.number (x * y))
    | .div => if y == 0 then .error (.divisionByZero offset) else .ok (.number (x / y))
    | op => .error (.operandsMustBeNumbers op offset)
  | _, _ => .error (.operandsMustBeNumbers op offset)

/-- The order of two numbers. -/
def applyOrder (op : BinaryOperator) (left right : Value φ) (offset : Nat) : Except EvalError (Value φ) :=
  match left, right with
  | .number x, .number y =>
    match op with
    | .greater => .ok (.bool (y < x))
    | .greaterEqual => .ok (.bool (y ≤ x))
    | .less => .ok (.bool (x < y))
    | .lessEqual => .ok (.bool (x ≤ y))
    | op => .error (.operandsMustBeNumbers op offset)
  | _, _ => .error (.operandsMustBeNumbers op offset)

/-- Equality of any two values, and the order of two numbers. -/
def applyComparison (op : BinaryOperator) (left right : Value φ) (offset : Nat) : Except EvalError (Value φ) :=
  match op with
  | .equal => .ok (.bool (left.equals right))
  | .notEqual => .ok (.bool (!left.equals right))
  | op => applyOrder op left right offset

/-- The result of an operator between two values. -/
def apply (op : BinaryOperator) (left right : Value φ) (offset : Nat) : Except EvalError (Value φ) :=
  match op with
  | .add => applySum left right offset
  | .sub | .mul | .div => applyArithmetic op left right offset
  | _ => applyComparison op left right offset

end BinaryOperator

/-- A value inside a string literal: its text, but `nil` stays `nil`. -/
def Value.interpolate : Value φ → Value φ
  | .nil => .nil
  | v => .text v.toText

end Formula
