import Formula.Eval
import Formula.Proofs.Expr.Relocate
import Formula.Proofs.Token.Partition

/-!
# Evaluation elsewhere in a source

An expression elsewhere in a source has the same value, or fails in the same way elsewhere: offsets are carried into
errors and never looked at.

- `EvalError.relocate`, `Error.relocate`: an error elsewhere.
- `Environment.eval_relocate`: the value of an expression elsewhere.
- `Environment.interpret_relocate`: the value of a source whose tokens are those of another source, moved.
-/

namespace Formula

/-- The error, moved. -/
def EvalError.relocate (g : Nat → Nat) : EvalError → EvalError
  | operandMustBeNumber op o => operandMustBeNumber op (g o)
  | operandsMustBeNumbers op o => operandsMustBeNumbers op (g o)
  | invalidAddition left right o => invalidAddition left right (g o)
  | divisionByZero o => divisionByZero (g o)
  | unknownFunction name o => unknownFunction name (g o)
  | unknownMethod name o => unknownMethod name (g o)
  | notCallable found o => notCallable found (g o)
  | callFailed selector message o => callFailed selector message (g o)

/-- The error of a source, moved. -/
def Error.relocate (g : Nat → Nat) : Error → Error
  | parse err => parse (err.relocate g)
  | eval err => eval (err.relocate g)

/-! ## Failures -/

/-- A failure of either part is changed where it happens. -/
theorem mapError_bind {ε ε' α β : Type} (x : Except ε α) (f : α → Except ε β) (g : ε → ε') :
    (x >>= f).mapError g = x.mapError g >>= fun a => (f a).mapError g := by
  cases x <;> rfl

theorem mapError_mapError {ε ε' ε'' α : Type} (x : Except ε α) (f : ε → ε') (g : ε' → ε'') :
    (x.mapError f).mapError g = x.mapError fun err => g (f err) := by
  cases x <;> rfl

variable {φ : Type} (g : Nat → Nat)

/-! ## Operators -/

theorem UnaryOperator.apply_relocate (op : UnaryOperator) (v : Value φ) (o : Nat) :
    op.apply v (g o) = (op.apply v o).mapError (·.relocate g) := by
  cases op <;> cases v <;> rfl

namespace BinaryOperator

variable (op : BinaryOperator) (l r : Value φ) (o : Nat)

theorem applySum_relocate : applySum l r (g o) = (applySum l r o).mapError (·.relocate g) := by
  cases l <;> cases r <;> rfl

theorem applyArithmetic_relocate :
    op.applyArithmetic l r (g o) = (op.applyArithmetic l r o).mapError (·.relocate g) := by
  unfold applyArithmetic
  split
  · split
    · rfl
    · rfl
    · split <;> rfl
    · rfl
  · rfl

theorem applyComparison_relocate :
    op.applyComparison l r (g o) = (op.applyComparison l r o).mapError (·.relocate g) := by
  unfold applyComparison
  split
  · rfl
  · rfl
  · unfold applyOrder
    split
    · split <;> rfl
    · rfl

theorem apply_relocate : op.apply l r (g o) = (op.apply l r o).mapError (·.relocate g) := by
  unfold apply
  split
  · exact applySum_relocate g l r o
  · exact applyArithmetic_relocate g _ l r o
  · exact applyArithmetic_relocate g _ l r o
  · exact applyArithmetic_relocate g _ l r o
  · exact applyComparison_relocate g op l r o

end BinaryOperator

/-! ## Calls and methods -/

namespace Environment

variable (env : Environment φ)

theorem callError_relocate (callee : Expr) (v : Value φ) (o : Nat) :
    callError (callee.relocate g) v (g o) = (callError callee v o).relocate g := by
  cases v with
  | nil => cases callee <;> rfl
  | _ => rfl

theorem apply_relocate (callee : Expr) (v : Value φ) (vs : List (Value φ)) (o : Nat) :
    env.apply (callee.relocate g) v vs (g o) = (env.apply callee v vs o).mapError (·.relocate g) := by
  cases v with
  | function f =>
    have hcall : ∀ callee o, env.apply callee (.function f) vs o =
        (env.call f vs).mapError fun message => .callFailed f.selector message o := fun _ _ => rfl
    rw [hcall, hcall, mapError_mapError]
    rfl
  | _ => exact congrArg Except.error (callError_relocate g callee _ o)

theorem bindMethod_relocate (v : Value φ) (name : String) (o : Nat) :
    env.bindMethod v name (g o) = (env.bindMethod v name o).mapError (·.relocate g) := by
  unfold bindMethod
  split <;> rfl

/-! ## Expressions -/

mutual

/-- An expression elsewhere has the same value, or fails in the same way elsewhere. -/
theorem eval_relocate : ∀ e : Expr, env.eval (e.relocate g) = (env.eval e).mapError (·.relocate g)
  | .number _ | .string _ | .bool _ | .nil | .identifier _ _ => rfl
  | .unary op operand o => by
    rw [Expr.relocate, eval, eval, eval_relocate operand, mapError_bind]
    exact congrArg _ (funext fun v => op.apply_relocate g v o)
  | .binary left op right o => by
    rw [Expr.relocate, eval, eval, eval_relocate left, mapError_bind]
    refine congrArg _ (funext fun l => ?_)
    rw [eval_relocate right, mapError_bind]
    exact congrArg _ (funext fun r => op.apply_relocate g l r o)
  | .grouping inner => eval_relocate inner
  | .call callee arguments o => by
    rw [Expr.relocate, eval, eval, eval_relocate callee, mapError_bind]
    refine congrArg _ (funext fun target => ?_)
    rw [evalAll_relocate arguments, mapError_bind]
    exact congrArg _ (funext fun vs => env.apply_relocate g callee target vs o)
  | .method receiver name o => by
    rw [Expr.relocate, eval, eval, eval_relocate receiver, mapError_bind]
    exact congrArg _ (funext fun v => env.bindMethod_relocate g v name o)
  | .interpolation inner _ => by
    rw [Expr.relocate, eval, eval, eval_relocate inner, mapError_bind]
    rfl

theorem evalAll_relocate : ∀ es : List Expr,
    env.evalAll (Expr.relocateAll g es) = (env.evalAll es).mapError (·.relocate g)
  | [] => rfl
  | e :: es => by
    rw [Expr.relocateAll, evalAll, evalAll, eval_relocate e, mapError_bind]
    refine congrArg _ (funext fun v => ?_)
    rw [evalAll_relocate es, mapError_bind]
    rfl

end

/-! ## Sources -/

theorem execute_relocate (e : Option Expr) :
    env.execute (e.map (·.relocate g)).toList = (env.execute e.toList).mapError (·.relocate g) := by
  cases e with
  | none => rfl
  | some e =>
    have hall : env.evalAll [e.relocate g] = (env.evalAll [e]).mapError (·.relocate g) := env.evalAll_relocate g [e]
    dsimp only [Option.map_some, Option.toList_some, execute]
    rw [hall, mapError_bind]
    refine congrArg _ (funext fun vs => ?_)
    split <;> rfl

/-- What the grammar sees of a source decides its value, and where it is seen decides where an error points. -/
theorem interpret_relocate {s s' : String}
    (h : Expr.significant (Token.scan s') = (Expr.significant (Token.scan s)).map (·.relocate g)) :
    env.interpret s' = (env.interpret s).mapError (·.relocate g) := by
  have heof : ∃ t ∈ Token.scan s, t.kind = .eof := by
    rw [Token.scan_eq_place]
    exact ⟨_, List.mem_append_right _ List.mem_cons_self, rfl⟩
  have hexpr := Expr.ofTokens_relocate g heof h
  simp only [interpret, Expr.ofSource, hexpr]
  cases Expr.ofTokens (Token.scan s) with
  | error err => rfl
  | ok e =>
    have hvalue := env.execute_relocate g e
    dsimp only [Except.map, Except.mapError]
    rw [hvalue]
    cases env.execute e.toList <;> rfl

end Environment

end Formula
