import Formula.Proofs.Eval.Failure
import Formula.Proofs.Expr.Parts

/-!
# Evaluation is strict

The parts of an expression stand in the order in which they are evaluated, and each is evaluated as it is on its own. So
an expression has a value if all its parts have one, and otherwise fails as the first of them that fails.

- `error?_bind_or`, `error?_bind₂_or`: what is done with a value fails no earlier than what gives the value.
- `Environment.findSome?_parts`: the first error among the parts is that of the expression.
- `Environment.eval_strict`: all of it about one expression, with calls.
-/

namespace Formula

/-! ## The first failure of a sequence -/

section Sequence

variable {ε α β γ : Type} (x : Except ε α) (y : Except ε β)

theorem error?_bind_or (f : α → Except ε β) : (error? x).or (error? (x >>= f)) = error? (x >>= f) := by
  cases x <;> rfl

theorem error?_bind₂_or (f : α → β → Except ε γ) :
    ((error? x).or (error? y)).or (error? (x >>= fun a => y >>= f a)) = error? (x >>= fun a => y >>= f a) := by
  cases x with
  | error => rfl
  | ok a => exact error?_bind_or y (f a)

/-- A pair of values fails where one of them does. -/
theorem error?_bind₂_ok (f : α → β → γ) :
    error? (x >>= fun a => y >>= fun b => .ok (f a b)) = (error? x).or (error? y) := by
  cases x with
  | error => rfl
  | ok a => cases y <;> rfl

end Sequence

namespace Environment

variable {φ : Type} (env : Environment φ)

/-! ## Parts -/

mutual

/-- The first error among the parts of an expression is its own, -/
theorem findSome?_parts : ∀ e : Expr, e.parts.findSome? (fun d => error? (env.eval d)) = error? (env.eval e)
  | .number _ | .string _ | .bool _ | .nil | .identifier _ _ => rfl
  | .unary op operand o => by
    rw [Expr.parts, List.findSome?_append, findSome?_parts operand, List.findSome?_singleton, eval]
    exact error?_bind_or _ _
  | .binary left op right o => by
    rw [Expr.parts, List.findSome?_append, List.findSome?_append, findSome?_parts left, findSome?_parts right,
      List.findSome?_singleton, eval]
    exact error?_bind₂_or _ _ _
  | .grouping inner => by
    rw [Expr.parts, List.findSome?_append, findSome?_parts inner, List.findSome?_singleton, eval, Option.or_self]
  | .call callee arguments o => by
    rw [Expr.parts, List.findSome?_append, List.findSome?_append, findSome?_parts callee, findSome?_partsAll arguments,
      List.findSome?_singleton, eval]
    exact error?_bind₂_or _ _ _
  | .method receiver name o => by
    rw [Expr.parts, List.findSome?_append, findSome?_parts receiver, List.findSome?_singleton, eval]
    exact error?_bind_or _ _
  | .interpolation inner _ => by
    rw [Expr.parts, List.findSome?_append, findSome?_parts inner, List.findSome?_singleton, eval]
    exact error?_bind_or _ _

/-- and so it is of some expressions. -/
theorem findSome?_partsAll : ∀ es : List Expr,
    (Expr.partsAll es).findSome? (fun d => error? (env.eval d)) = error? (env.evalAll es)
  | [] => rfl
  | e :: es => by
    rw [Expr.partsAll, List.findSome?_append, findSome?_parts e, findSome?_partsAll es, evalAll]
    exact (error?_bind₂_ok _ _ _).symm

end

/-- An expression has a value if all its parts have one. -/
theorem exists_eval_ok_iff (e : Expr) : (∃ v, env.eval e = .ok v) ↔ ∀ d ∈ e.parts, ∃ v, env.eval d = .ok v := by
  rw [← error?_eq_none_iff, ← findSome?_parts, List.findSome?_eq_none_iff]
  simp only [error?_eq_none_iff]

/-- An expression fails as the first of its parts that fails. -/
theorem eval_eq_error_iff (e : Expr) (err : EvalError) : env.eval e = .error err ↔
    ∃ pre d post, e.parts = pre ++ d :: post ∧ (∀ c ∈ pre, ∃ v, env.eval c = .ok v) ∧ env.eval d = .error err := by
  rw [← error?_eq_some_iff, ← findSome?_parts, List.findSome?_eq_some_iff]
  simp only [error?_eq_some_iff, error?_eq_none_iff]
  constructor
  · rintro ⟨pre, d, post, hparts, herr, hpre⟩
    exact ⟨pre, d, post, hparts, hpre, herr⟩
  · rintro ⟨pre, d, post, hparts, hpre, herr⟩
    exact ⟨pre, d, post, hparts, herr, hpre⟩

/-! ## Calls -/

variable {env}

/-- Some expressions fail as the first of them that fails. -/
theorem evalAll_append_error {pre post : List Expr} {a : Expr} {err : EvalError}
    (hpre : ∀ c ∈ pre, ∃ v, env.eval c = .ok v) (ha : env.eval a = .error err) :
    env.evalAll (pre ++ a :: post) = .error err := by
  induction pre with
  | nil =>
    rw [List.nil_append, evalAll, ha]
    rfl
  | cons c pre ih =>
    obtain ⟨⟨v, hc⟩, hpre⟩ := List.forall_mem_cons.mp hpre
    rw [List.cons_append, evalAll, hc, ih hpre]
    rfl

/-- A call fails as its first argument that fails, whatever is called. -/
theorem eval_call_of_argument_error {callee a : Expr} {pre post : List Expr} {v : Value φ} {err : EvalError} (o : Nat)
    (hcallee : env.eval callee = .ok v) (hpre : ∀ c ∈ pre, ∃ v, env.eval c = .ok v) (ha : env.eval a = .error err) :
    env.eval (.call callee (pre ++ a :: post) o) = .error err := by
  rw [eval, hcallee, evalAll_append_error hpre ha]
  rfl

/-- A call of a method that no function provides fails for that, whatever the arguments are. -/
theorem eval_call_of_unknown_method {receiver : Expr} {name : String} {v : Value φ} (arguments : List Expr) (o o' : Nat)
    (hreceiver : env.eval receiver = .ok v) (hname : env.lookup? name = none) :
    env.eval (.call (.method receiver name o) arguments o') = .error (.unknownMethod name o) := by
  have hmethod : env.eval (.method receiver name o) = .error (.unknownMethod name o) := by
    rw [eval, hreceiver]
    change env.bindMethod v name o = _
    rw [bindMethod, hname]
  rw [eval, hmethod]
  rfl

/-- **Evaluation is strict and reports the first failure.** An expression has a value if each of its parts has one on
its own, and otherwise fails as the first part that fails, the parts being ordered from left to right, each behind its
own. So a failing argument wins over a callee that is no function, and a method that is not there over a failing
argument. -/
theorem eval_strict (env : Environment φ) (e : Expr) :
    ((∃ v, env.eval e = .ok v) ↔ ∀ d ∈ e.parts, ∃ v, env.eval d = .ok v) ∧
    (∀ err, env.eval e = .error err ↔
      ∃ pre d post, e.parts = pre ++ d :: post ∧ (∀ c ∈ pre, ∃ v, env.eval c = .ok v) ∧ env.eval d = .error err) ∧
    (∀ callee pre a post o v err, e = .call callee (pre ++ a :: post) o → env.eval callee = .ok v →
      (∀ c ∈ pre, ∃ v, env.eval c = .ok v) → env.eval a = .error err → env.eval e = .error err) ∧
    ∀ receiver name o arguments o' v, e = .call (.method receiver name o) arguments o' → env.eval receiver = .ok v →
      env.lookup? name = none → env.eval e = .error (.unknownMethod name o) := by
  refine ⟨env.exists_eval_ok_iff e, env.eval_eq_error_iff e, ?_, ?_⟩
  · rintro callee pre a post o v err rfl hcallee hpre ha
    exact eval_call_of_argument_error o hcallee hpre ha
  · rintro receiver name o arguments o' v rfl hreceiver hname
    exact eval_call_of_unknown_method arguments o o' hreceiver hname

end Environment

end Formula
