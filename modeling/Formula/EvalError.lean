import Formula.Expr
import Formula.Value

/-!
# Evaluation errors

What can go wrong when an expression is evaluated. Each error carries the offset of the operator, call or name that
failed.
-/

namespace Formula

/-- Why an expression has no value. -/
inductive EvalError where
  /-- A sign before something that is no number. -/
  | operandMustBeNumber (op : UnaryOperator) (offset : Nat)
  /-- Arithmetic or order on something that is no number. -/
  | operandsMustBeNumbers (op : BinaryOperator) (offset : Nat)
  /-- A sum that is neither of numbers nor of texts. -/
  | invalidAddition (left right : ValueType) (offset : Nat)
  /-- A division by zero. -/
  | divisionByZero (offset : Nat)
  /-- A call of a name that stands for nothing. -/
  | unknownFunction (name : String) (offset : Nat)
  /-- A method that no function provides. -/
  | unknownMethod (name : String) (offset : Nat)
  /-- A call of something that is no function. -/
  | notCallable (found : ValueType) (offset : Nat)
  /-- A function that failed. -/
  | callFailed (selector : String) (message : String) (offset : Nat)
  deriving DecidableEq, Repr

namespace EvalError

/-- The offset of what failed. -/
def offset : EvalError → Nat
  | operandMustBeNumber _ o | operandsMustBeNumbers _ o | invalidAddition _ _ o | divisionByZero o
  | unknownFunction _ o | unknownMethod _ o | notCallable _ o | callFailed _ _ o => o

/-- What went wrong, without the place. -/
def reason : EvalError → String
  | operandMustBeNumber op _ => "Operand of '" ++ op.symbol ++ "' must be a number."
  | operandsMustBeNumbers op _ => "Operands of '" ++ op.symbol ++ "' must be numbers."
  | invalidAddition left right _ =>
    "Cannot add " ++ left.name ++ " and " ++ right.name ++ "; operands must be numbers or strings."
  | divisionByZero _ => "Division by zero."
  | unknownFunction name _ => "Unknown function '" ++ name ++ "'."
  | unknownMethod name _ => "Unknown method '" ++ name ++ "'."
  | notCallable found _ => "Can only call functions and methods, found " ++ found.name ++ "."
  | callFailed selector message _ => "Call to '" ++ selector ++ "' failed: " ++ message ++ "."

/-- The error as it is reported. -/
def message (e : EvalError) : String := "Error at offset " ++ toString e.offset ++ ": " ++ e.reason

end EvalError

end Formula
