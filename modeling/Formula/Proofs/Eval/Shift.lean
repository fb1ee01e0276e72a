import Formula.Proofs.Eval.Relocate
import Formula.Proofs.Expr.Shift

/-!
# Evaluation further on in a source

- `EvalError.shift`: an error some bytes further on; `EvalError.shift_eq_relocate`: it is moved by that many bytes.
- `Environment.eval_shift`: the value of an expression further on.
-/

namespace Formula

namespace EvalError

/-- The error `n` bytes further on. -/
def shift (n : Nat) : EvalError → EvalError
  | operandMustBeNumber op o => operandMustBeNumber op (o + n)
  | operandsMustBeNumbers op o => operandsMustBeNumbers op (o + n)
  | invalidAddition left right o => invalidAddition left right (o + n)
  | divisionByZero o => divisionByZero (o + n)
  | unknownFunction name o => unknownFunction name (o + n)
  | unknownMethod name o => unknownMethod name (o + n)
  | notCallable found o => notCallable found (o + n)
  | callFailed selector message o => callFailed selector message (o + n)

theorem shift_eq_relocate (n : Nat) (err : EvalError) : err.shift n = err.relocate (· + n) := by
  cases err <;> rfl

theorem shift_shift (m n : Nat) (err : EvalError) : (err.shift m).shift n = err.shift (m + n) := by
  cases err <;> simp [shift, Nat.add_assoc]

end EvalError

/-- An expression further on has the same value, or fails in the same way further on. -/
theorem Environment.eval_shift {φ : Type} (env : Environment φ) (n : Nat) (e : Expr) :
    env.eval (e.shift n) = (env.eval e).mapError (·.shift n) := by
  rw [Expr.shift_eq_relocate, env.eval_relocate]
  exact congrArg (fun f => (env.eval e).mapError f) (funext fun err => (err.shift_eq_relocate n).symm)

end Formula
