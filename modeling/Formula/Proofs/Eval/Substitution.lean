import Formula.Proofs.Eval.Outcomes
import Formula.Proofs.Eval.Provenance
import Formula.Proofs.Expr.Parts

/-!
# Substitution

A variable in front of all others may be replaced by an expression of its value. Only calls look at more than the value
of a part: the error of calling `nil` names what is called, if that is a bare name. So where the variable is `nil`,
that error can be another one, and nothing else is.

- `Expr.subst`: an expression with a name replaced by another expression.
- `EvalError.MayDiffer`: the errors that can stand for each other.
- `Environment.outcomes_subst`: an expression and its substitution side by side.
- `Environment.eval_subst`: the value of a substitution.
-/

namespace Formula

namespace Expr

mutual

/-- The expression with every name `x` that is looked up replaced by `s`. -/
def subst : Expr → (x : String) → (s : Expr) → Expr
  | number v, _, _ => number v
  | string t, _, _ => string t
  | bool b, _, _ => bool b
  | nil, _, _ => nil
  | identifier name o, x, s => if name = x then s else identifier name o
  | unary op operand o, x, s => unary op (operand.subst x s) o
  | binary left op right o, x, s => binary (left.subst x s) op (right.subst x s) o
  | grouping inner, x, s => grouping (inner.subst x s)
  | call callee arguments o, x, s => call (callee.subst x s) (substAll arguments x s) o
  | method receiver name o, x, s => method (receiver.subst x s) name o
  | interpolation inner o, x, s => interpolation (inner.subst x s) o

/-- Some expressions with every name `x` that is looked up replaced by `s`. -/
def substAll : List Expr → (x : String) → (s : Expr) → List Expr
  | [], _, _ => []
  | e :: es, x, s => e.subst x s :: substAll es x s

end

@[simp] theorem subst_identifier_self (x : String) (o : Nat) (s : Expr) : (identifier x o).subst x s = s := if_pos rfl

theorem subst_identifier_of_ne {name x : String} (h : name ≠ x) (o : Nat) (s : Expr) :
    (identifier name o).subst x s = identifier name o := if_neg h

/-- What is no name stays none. -/
theorem subst_ne_identifier {x : String} {s e : Expr} (h : ∀ name o, e ≠ identifier name o) (name : String) (o : Nat) :
    e.subst x s ≠ identifier name o := by
  cases e with
  | identifier name o => exact absurd rfl (h name o)
  | _ => exact nofun

end Expr

/-- With `x` replaced by `s`, whose value is `v`, the error may be the other one: they are the same, or `x` stands for
`nil` and is called in one of the expressions, and both say so. -/
def EvalError.MayDiffer {φ : Type} (x : String) (s : Expr) (v : Value φ) (ps : List Expr) (err err' : EvalError) : Prop :=
  err = err' ∨ v = .nil ∧ ∃ o o' arguments, .call (.identifier x o') arguments o ∈ ps ∧ err = .unknownFunction x o ∧
    (err' = .notCallable .nil o ∨ ∃ y o'', s = .identifier y o'' ∧ err' = .unknownFunction y o)

namespace Environment

variable {φ : Type} {env : Environment φ} {x : String} {s : Expr} {v : Value φ} {ps : List Expr}

/-- What no longer depends on the expression has one outcome for both. -/
theorem outcomes_self {α : Type} (out : Except EvalError α) : Outcomes (EvalError.MayDiffer x s v ps) Eq out out :=
  .refl (fun _ => .inl rfl) (fun _ => rfl) out

/-- Calling what is no name is not told apart from calling what it is replaced by. -/
theorem callError_subst {callee : Expr} (h : ∀ name o, callee ≠ .identifier name o) (t : Value φ) (o : Nat) :
    callError (callee.subst x s) t o = callError callee t o := by
  have hsame : ∀ e : Expr, (∀ name o, e ≠ .identifier name o) → callError e t o = .notCallable t.type o := by
    intro e he
    unfold callError
    split
    · exact absurd rfl (he _ _)
    · rfl
  rw [hsame callee h, hsame _ (Expr.subst_ne_identifier h)]

/-- Calling `nil` is an error whatever is called. -/
theorem callError_nil (callee : Expr) (o : Nat) : callError callee (.nil : Value φ) o = .notCallable .nil o ∨
    ∃ y o', callee = .identifier y o' ∧ callError callee (.nil : Value φ) o = .unknownFunction y o := by
  cases callee with
  | identifier y o' => exact .inr ⟨y, o', rfl, rfl⟩
  | _ => exact .inl rfl

/-- A call of a replaced name fails alike, or its errors may differ. -/
theorem mayDiffer_callError {callee : Expr} {arguments : List Expr} {o : Nat} {t : Value φ}
    (hmem : .call callee arguments o ∈ ps) (ht : ∀ o', callee = .identifier x o' → t = v) :
    EvalError.MayDiffer x s v ps (callError callee t o) (callError (callee.subst x s) t o) := by
  by_cases hname : ∃ o', callee = .identifier x o'
  · obtain ⟨o', rfl⟩ := hname
    obtain rfl := ht o' rfl
    rw [Expr.subst_identifier_self]
    cases t with
    | nil => exact .inr ⟨rfl, o, o', arguments, hmem, rfl, callError_nil s o⟩
    | _ => exact .inl rfl
  · cases callee with
    | identifier name o' =>
      have hne : name ≠ x := fun h => hname ⟨o', h ▸ rfl⟩
      rw [Expr.subst_identifier_of_ne hne]
      exact .inl rfl
    | _ =>
      refine .inl (callError_subst ?_ t o).symm
      exact nofun

theorem outcomes_apply {callee : Expr} {arguments : List Expr} {o : Nat} {t : Value φ}
    (hmem : .call callee arguments o ∈ ps) (ht : ∀ o', callee = .identifier x o' → t = v) (vs : List (Value φ)) :
    Outcomes (EvalError.MayDiffer x s v ps) Eq ((env.bind x v).apply callee t vs o)
      (env.apply (callee.subst x s) t vs o) := by
  cases t with
  | function f => exact outcomes_self _
  | _ => exact .error (mayDiffer_callError hmem ht)

mutual

/-- With `x` bound in front of all other variables to the value of `s`, an expression fares as with `x` replaced by
`s`. -/
theorem outcomes_subst (hs : env.eval s = .ok v) : ∀ {e : Expr}, e.parts ⊆ ps →
    Outcomes (EvalError.MayDiffer x s v ps) Eq ((env.bind x v).eval e) (env.eval (e.subst x s))
  | .number _, _ | .string _, _ | .bool _, _ | .nil, _ => .ok rfl
  | .identifier name o, _ => by
    rw [eval, resolve_bind]
    by_cases h : x = name
    · subst h
      rw [if_pos rfl, Expr.subst_identifier_self, hs]
      exact .ok rfl
    · rw [if_neg h, Expr.subst_identifier_of_ne (Ne.symm h)]
      exact .ok rfl
  | .unary op operand o, h => by
    rw [Expr.parts, List.append_subset] at h
    rw [Expr.subst, eval, eval]
    refine (outcomes_subst hs h.1).bind_of_eq fun v _ _ => ?_
    exact outcomes_self _
  | .binary left op right o, h => by
    rw [Expr.parts, List.append_subset, List.append_subset] at h
    rw [Expr.subst, eval, eval]
    refine (outcomes_subst hs h.1.1).bind_of_eq fun l _ _ => ?_
    refine (outcomes_subst hs h.1.2).bind_of_eq fun r _ _ => ?_
    exact outcomes_self _
  | .grouping inner, h => by
    rw [Expr.parts, List.append_subset] at h
    rw [Expr.subst, eval, eval]
    exact outcomes_subst hs h.1
  | .call callee arguments o, h => by
    have hmem : .call callee arguments o ∈ ps := h (Expr.mem_parts_self _)
    rw [Expr.parts, List.append_subset, List.append_subset] at h
    rw [Expr.subst, eval, eval]
    refine (outcomes_subst hs h.1.1).bind_of_eq fun t hcallee _ => ?_
    refine (outcomes_substAll hs h.1.2).bind_of_eq fun vs _ _ => ?_
    refine outcomes_apply hmem (fun o' hname => ?_) vs
    -- the name that is replaced has the value that it is bound to
    subst hname
    rw [eval, resolve_bind, if_pos rfl] at hcallee
    exact (Except.ok.inj hcallee).symm
  | .method receiver name o, h => by
    rw [Expr.parts, List.append_subset] at h
    rw [Expr.subst, eval, eval]
    refine (outcomes_subst hs h.1).bind_of_eq fun v _ _ => ?_
    exact outcomes_self _
  | .interpolation inner o, h => by
    rw [Expr.parts, List.append_subset] at h
    rw [Expr.subst, eval, eval]
    exact (outcomes_subst hs h.1).bind_of_eq fun v _ _ => .ok rfl

theorem outcomes_substAll (hs : env.eval s = .ok v) : ∀ {es : List Expr}, Expr.partsAll es ⊆ ps →
    Outcomes (EvalError.MayDiffer x s v ps) Eq ((env.bind x v).evalAll es) (env.evalAll (Expr.substAll es x s))
  | [], _ => .ok rfl
  | e :: es, h => by
    rw [Expr.partsAll, List.append_subset] at h
    rw [Expr.substAll, evalAll, evalAll]
    refine (outcomes_subst hs h.1).bind_of_eq fun v _ _ => ?_
    exact (outcomes_substAll hs h.2).bind_of_eq fun vs _ _ => .ok rfl

end

/-- **Substitution.** A variable in front of all others that has the value of an expression may be replaced by that
expression: the whole has the same value or fails alike. If the value is `nil`, the whole still has the same values, and
its errors differ at most where the variable is called: the call names the variable, and names what replaced it, or says
that `nil` is no function. -/
theorem eval_subst (hs : env.eval s = .ok v) (e : Expr) :
    (v ≠ .nil → (env.bind x v).eval e = env.eval (e.subst x s)) ∧
    (v = .nil → (∀ w, (env.bind x v).eval e = .ok w ↔ env.eval (e.subst x s) = .ok w) ∧
      ∀ err err', (env.bind x v).eval e = .error err → env.eval (e.subst x s) = .error err' → err ≠ err' →
        ∃ o o' arguments, .call (.identifier x o') arguments o ∈ e.parts ∧ err = .unknownFunction x o ∧
          (err' = .notCallable .nil o ∨ ∃ y o'', s = .identifier y o'' ∧ err' = .unknownFunction y o)) := by
  have h := outcomes_subst (x := x) hs (List.Subset.refl e.parts)
  refine ⟨fun hv => ?_, fun _ => ⟨h.ok_iff, fun err err' herr herr' hne => ?_⟩⟩
  · exact h.eq fun err err' hdiffer => hdiffer.resolve_right fun hnil => hv hnil.1
  · exact ((h.of_error herr herr').resolve_left hne).2

/-- What is bound is a method's receiver, and called as a function: the one is alike, and the errors of the other differ
where it is `nil`. -/
theorem eval_subst_call :
    bare.eval (.grouping (.bool true)) = .ok (.bool true) ∧
    (bare.bind "x" (.bool true)).eval (.call (.method (.identifier "x" 0) "rounded" 2) [] 9) =
      bare.eval (.call (.method (.grouping (.bool true)) "rounded" 2) [] 9) ∧
    bare.eval (.grouping .nil) = .ok .nil ∧
    (bare.bind "x" .nil).eval (.call (.identifier "x" 0) [] 1) = .error (.unknownFunction "x" 1) ∧
    bare.eval (.call (.grouping .nil) [] 1) = .error (.notCallable .nil 1) ∧
    ∃ o o' arguments, .call (.identifier "x" o') arguments o ∈ (Expr.call (.identifier "x" 0) [] 1).parts ∧
      EvalError.unknownFunction "x" 1 = .unknownFunction "x" o := by
  have htrue : bare.eval (.grouping (.bool true)) = .ok (.bool true) := rfl
  have hnil : bare.eval (.grouping .nil) = .ok .nil := rfl
  have hbool := (eval_subst (x := "x") htrue (.call (.method (.identifier "x" 0) "rounded" 2) [] 9)).1 nofun
  obtain ⟨o, o', arguments, hmem, herr, -⟩ :=
    ((eval_subst (x := "x") hnil (.call (.identifier "x" 0) [] 1)).2 rfl).2 _ _ rfl rfl nofun
  exact ⟨htrue, hbool, hnil, rfl, rfl, o, o', arguments, hmem, herr⟩

end Environment

end Formula
