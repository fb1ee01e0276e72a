import Mathlib.Data.List.Induction
import Formula.Eval

/-!
# How evaluation fails

Each construct fails in few ways of its own, at its own offset; every other failure is that of a part.

- `bind_eq_error_iff`, `bind_eq_ok_iff`: a sequence fails in its first part or in its second, or has a value in both.
- `error?`: the error of a failure.
- `UnaryOperator.eq_of_apply_error`, `BinaryOperator.cases_of_apply_error`: the failures of operators.
- `Environment.cases_of_apply_error`, `Environment.eq_of_bindMethod_error`: the failures of calls and methods.
- `Environment.cases_of_eval_ofSegments_error`: a string literal fails in a piece or where it joins two.
-/

namespace Formula

theorem bind_eq_error_iff {ε α β : Type} {x : Except ε α} {f : α → Except ε β} {err : ε} :
    x >>= f = .error err ↔ x = .error err ∨ ∃ a, x = .ok a ∧ f a = .error err := by
  cases x with
  | error => simp [bind, Except.bind]
  | ok a => simp [bind, Except.bind]

theorem bind_eq_ok_iff {ε α β : Type} {x : Except ε α} {f : α → Except ε β} {b : β} :
    x >>= f = .ok b ↔ ∃ a, x = .ok a ∧ f a = .ok b := by
  cases x with
  | error => simp [bind, Except.bind]
  | ok a => simp [bind, Except.bind]

theorem mapError_eq_error_iff {ε ε' α : Type} {x : Except ε α} {f : ε → ε'} {err : ε'} :
    x.mapError f = .error err ↔ ∃ err', x = .error err' ∧ f err' = err := by
  cases x <;> simp [Except.mapError]

/-- The error of a failure. -/
def error? {ε α : Type} : Except ε α → Option ε
  | .error err => some err
  | .ok _ => none

theorem error?_eq_some_iff {ε α : Type} {x : Except ε α} {err : ε} : error? x = some err ↔ x = .error err := by
  cases x <;> simp [error?]

theorem error?_eq_none_iff {ε α : Type} {x : Except ε α} : error? x = none ↔ ∃ a, x = .ok a := by
  cases x <;> simp [error?]

variable {φ : Type} {err : EvalError} {o : Nat}

/-! ## Operators -/

theorem UnaryOperator.eq_of_apply_error {op : UnaryOperator} {v : Value φ} (h : op.apply v o = .error err) :
    op = .negate ∧ err = .operandMustBeNumber .negate o := by
  unfold apply at h
  split at h <;> cases h
  exact ⟨rfl, rfl⟩

namespace BinaryOperator

variable {op : BinaryOperator} {l r : Value φ}

theorem eq_of_applySum_error (h : applySum l r o = .error err) : err = .invalidAddition l.type r.type o := by
  unfold applySum at h
  split at h <;> cases h
  rfl

theorem cases_of_applyArithmetic_error (h : op.applyArithmetic l r o = .error err) :
    err = .operandsMustBeNumbers op o ∨ op = .div ∧ err = .divisionByZero o := by
  unfold applyArithmetic at h
  split at h
  · split at h
    · cases h
    · cases h
    · split at h <;> cases h
      exact .inr ⟨rfl, rfl⟩
    · cases h
      exact .inl rfl
  · cases h
    exact .inl rfl

theorem eq_of_applyComparison_error (h : op.applyComparison l r o = .error err) :
    err = .operandsMustBeNumbers op o := by
  unfold applyComparison at h
  split at h
  · cases h
  · cases h
  · unfold applyOrder at h
    split at h
    · split at h <;> cases h
      rfl
    · cases h
      rfl

/-- A sum fails by its types, a quotient by its divisor, and all but sums for want of numbers. -/
theorem cases_of_apply_error (h : op.apply l r o = .error err) :
    err = .operandsMustBeNumbers op o ∨ op = .div ∧ err = .divisionByZero o ∨
      op = .add ∧ err = .invalidAddition l.type r.type o := by
  unfold apply at h
  split at h
  · exact .inr (.inr ⟨rfl, eq_of_applySum_error h⟩)
  · exact (cases_of_applyArithmetic_error h).imp_right .inl
  · exact (cases_of_applyArithmetic_error h).imp_right .inl
  · exact (cases_of_applyArithmetic_error h).imp_right .inl
  · exact .inl (eq_of_applyComparison_error h)

end BinaryOperator

/-! ## Calls and methods -/

namespace Environment

variable {env : Environment φ}

/-- A call fails in the function, or there is none: then a bare name is unknown, and anything else is no function. -/
theorem cases_of_apply_error {callee : Expr} {target : Value φ} {vs : List (Value φ)}
    (h : env.apply callee target vs o = .error err) :
    (∃ selector message, err = .callFailed selector message o) ∨
      (∃ name o', callee = .identifier name o' ∧ err = .unknownFunction name o) ∨
        ∃ found, err = .notCallable found o := by
  unfold apply at h
  split at h
  · obtain ⟨message, -, rfl⟩ := mapError_eq_error_iff.mp h
    exact .inl ⟨_, message, rfl⟩
  · cases h
    unfold callError
    split
    · exact .inr (.inl ⟨_, _, rfl, rfl⟩)
    · exact .inr (.inr ⟨_, rfl⟩)

theorem eq_of_bindMethod_error {v : Value φ} {name : String} (h : env.bindMethod v name o = .error err) :
    err = .unknownMethod name o := by
  unfold bindMethod at h
  split at h <;> cases h
  rfl

/-! ## Expressions -/

/-- Some expressions fail where the first of them fails. -/
theorem exists_of_evalAll_error {es : List Expr} (h : env.evalAll es = .error err) :
    ∃ e ∈ es, env.eval e = .error err := by
  induction es with
  | nil => cases h
  | cons e es ih =>
    rw [evalAll] at h
    rcases bind_eq_error_iff.mp h with he | ⟨v, -, h⟩
    · exact ⟨e, List.mem_cons_self, he⟩
    · rcases bind_eq_error_iff.mp h with hes | ⟨vs, -, h⟩
      · obtain ⟨d, hd, he⟩ := ih hes
        exact ⟨d, List.mem_cons_of_mem e hd, he⟩
      · cases h

/-- A string literal fails in a piece, or where it joins one to those in front of it. -/
theorem cases_of_eval_ofSegments_error {es : List Expr} (h : env.eval (.ofSegments es o) = .error err) :
    (∃ e ∈ es, env.eval e = .error err) ∨ 2 ≤ es.length ∧ ∃ l r, err = .invalidAddition l r o := by
  induction es using List.reverseRecOn with
  | nil => cases h
  | append_singleton es e ih =>
    by_cases hne : es = []
    · subst hne
      exact .inl ⟨e, List.mem_cons_self, h⟩
    rw [Expr.ofSegments_append_singleton hne, eval] at h
    rcases bind_eq_error_iff.mp h with hl | ⟨l, -, h⟩
    · rcases ih hl with ⟨d, hd, he⟩ | ⟨hlen, hadd⟩
      · exact .inl ⟨d, List.mem_append_left _ hd, he⟩
      · exact .inr ⟨by simp; omega, hadd⟩
    rcases bind_eq_error_iff.mp h with hr | ⟨r, -, h⟩
    · exact .inl ⟨e, by simp, hr⟩
    · refine .inr ⟨?_, _, _, BinaryOperator.eq_of_applySum_error h⟩
      have := List.length_pos_iff.mpr hne
      simp
      omega

end Environment

end Formula
