import Mathlib.Logic.Function.Iterate
import Formula.Proofs.Eval.Outcomes
import Formula.Proofs.Eval.Strict

/-!
# Parentheses only group

An expression has the same value without its parentheses. Only calls look at more than the value of a part: to call a
bare name that stands for nothing is an error of its own, and a name in parentheses is none. So there, and nowhere
else, an expression fails in other words without its parentheses.

- `Expr.strip`: an expression without parentheses.
- `EvalError.Regrouped`: the error of calling a name in parentheses, and that of calling the name.
- `Environment.outcomes_strip`: an expression has the same value without parentheses.
- `Environment.findSome?_parts_strip`: the part that fails first tells how it fails without parentheses.
- `Environment.eval_strip`: all of it about one expression.
-/

namespace Formula

namespace Expr

mutual

/-- The expression without parentheses. -/
def strip : Expr → Expr
  | number v => number v
  | string t => string t
  | bool b => bool b
  | nil => nil
  | identifier name o => identifier name o
  | unary op operand o => unary op operand.strip o
  | binary left op right o => binary left.strip op right.strip o
  | grouping inner => inner.strip
  | call callee arguments o => call callee.strip (stripAll arguments) o
  | method receiver name o => method receiver.strip name o
  | interpolation inner o => interpolation inner.strip o

/-- Some expressions without parentheses. -/
def stripAll : List Expr → List Expr
  | [] => []
  | e :: es => e.strip :: stripAll es

end

/-- A name in parentheses is the name, or something in parentheses. -/
theorem iterate_grouping (name : String) (o n : Nat) : grouping^[n] (identifier name o) = identifier name o ∨
    ∃ inner, grouping^[n] (identifier name o) = grouping inner := by
  cases n with
  | zero => exact .inl rfl
  | succ n => exact .inr ⟨_, Function.iterate_succ_apply' ..⟩

/-- What is a name without parentheses is a name in parentheses. -/
theorem strip_eq_identifier_iff {name : String} {o : Nat} :
    ∀ {e : Expr}, e.strip = identifier name o ↔ ∃ n, e = grouping^[n] (identifier name o)
  | .grouping inner => by
    rw [strip, strip_eq_identifier_iff]
    constructor
    · rintro ⟨n, rfl⟩
      exact ⟨n + 1, (Function.iterate_succ_apply' ..).symm⟩
    · rintro ⟨n, h⟩
      cases n with
      | zero => cases h
      | succ n =>
        rw [Function.iterate_succ_apply'] at h
        exact ⟨n, grouping.inj h⟩
  | .identifier name' o' => by
    constructor
    · intro h
      exact ⟨0, h⟩
    · rintro ⟨n, h⟩
      rcases iterate_grouping name o n with hn | ⟨inner, hn⟩
      · exact h.trans hn
      · cases h.trans hn
  | .number _ | .string _ | .bool _ | .nil | .unary .. | .binary .. | .call .. | .method .. | .interpolation .. => by
    constructor
    · nofun
    · rintro ⟨n, h⟩
      rcases iterate_grouping name o n with hn | ⟨inner, hn⟩ <;> cases h.trans hn

end Expr

/-! ## Errors without parentheses -/

namespace EvalError

/-- Calling a name in parentheses fails with the first error, and calling the name with the second. -/
inductive Regrouped : Expr → EvalError → EvalError → Prop
  | mk (name : String) (n o o' offset : Nat) (arguments : List Expr) :
    Regrouped (.call (Expr.grouping^[n + 1] (.identifier name o)) arguments o') (.notCallable .nil offset)
      (.unknownFunction name offset)

/-- How an expression fails without parentheses, if its parts have values. -/
def ungrouped : Expr → EvalError → EvalError
  | .call (.grouping inner) _ _, .notCallable .nil offset =>
    match inner.strip with
    | .identifier name _ => .unknownFunction name offset
    | _ => .notCallable .nil offset
  | _, err => err

/-- Only calls of names in parentheses fail in other words. -/
theorem regrouped_or (e : Expr) (err : EvalError) :
    Regrouped e err (ungrouped e err) ∨ (∀ err', ¬ Regrouped e err err') ∧ ungrouped e err = err := by
  by_cases h : ∃ err', Regrouped e err err'
  · obtain ⟨_, ⟨name, n, o, o', offset, arguments⟩⟩ := h
    have hstrip : (Expr.grouping^[n] (.identifier name o)).strip = .identifier name o :=
      Expr.strip_eq_identifier_iff.mpr ⟨n, rfl⟩
    left
    rw [Function.iterate_succ_apply', ungrouped, hstrip, ← Function.iterate_succ_apply' Expr.grouping]
    exact .mk ..
  · right
    refine ⟨fun err' h' => h ⟨err', h'⟩, ?_⟩
    unfold ungrouped
    split
    · rename_i inner arguments o' offset
      split
      · rename_i name o hname
        obtain ⟨n, rfl⟩ := Expr.strip_eq_identifier_iff.mp hname
        rw [← Function.iterate_succ_apply' Expr.grouping] at h
        exact absurd ⟨_, .mk ..⟩ h
      · rfl
    · rfl

end EvalError

/-! ## Sequences -/

namespace Outcomes

variable {E : EvalError → EvalError → Prop} {g : EvalError → EvalError} {α β γ : Type} {x x' : Except EvalError α}
  {y y' : Except EvalError β}

/-- Failures that are told in other words. -/
theorem error?_map (h : Outcomes (fun err err' => g err = err') Eq x x') : (error? x).map g = error? x' := by
  cases h with
  | ok => rfl
  | error h => exact congrArg some h

/-- The same failure twice is one. -/
theorem error?_or (h : Outcomes E Eq x x') : (error? x').or ((error? x).map g) = error? x' := by
  cases h with
  | ok => rfl
  | error => rfl

/-- What is done with a value fails no earlier than what gives the value. -/
theorem error?_or_bind (h : Outcomes E Eq x x') {f f' : α → Except EvalError β}
    (hf : ∀ a, Outcomes (fun err err' => g err = err') Eq (f a) (f' a)) :
    (error? x').or ((error? (x >>= f)).map g) = error? (x' >>= f') := by
  cases h with
  | error => rfl
  | ok h =>
    rw [h]
    exact (hf _).error?_map

theorem error?_or_bind₂ (h : Outcomes E Eq x x') (h' : Outcomes E Eq y y') {f f' : α → β → Except EvalError γ}
    (hf : ∀ a b, Outcomes (fun err err' => g err = err') Eq (f a b) (f' a b)) :
    ((error? x').or (error? y')).or ((error? (x >>= fun a => y >>= f a)).map g) =
      error? (x' >>= fun a => y' >>= f' a) := by
  cases h with
  | error => rfl
  | ok h =>
    rw [h]
    exact h'.error?_or_bind (hf _)

end Outcomes

/-! ## Values without parentheses -/

namespace Environment

variable {φ : Type} (env : Environment φ)

/-- A callee in parentheses matters where it is called and is no function, -/
theorem callError_strip (callee : Expr) (arguments : List Expr) (target : Value φ) (o o' : Nat) :
    (callError callee target o).ungrouped (.call callee arguments o') = callError callee.strip target o := by
  cases target with
  | nil =>
    cases callee with
    | grouping inner =>
      change EvalError.ungrouped _ (.notCallable .nil o) = callError inner.strip .nil o
      rw [EvalError.ungrouped]
      cases inner.strip <;> rfl
    | _ => rfl
  | _ => cases callee <;> rfl

/-- and for nothing else of a call. -/
theorem outcomes_apply_strip (callee : Expr) (arguments : List Expr) (target : Value φ) (vs : List (Value φ))
    (o : Nat) :
    Outcomes (fun err err' => err.ungrouped (.call callee arguments o) = err') Eq (env.apply callee target vs o)
      (env.apply callee.strip target vs o) := by
  cases target with
  | function f =>
    have hcall : Outcomes Eq Eq (env.call f vs) (env.call f vs) := .refl (fun _ => rfl) (fun _ => rfl) _
    refine hcall.mapError ?_
    rintro message _ rfl
    cases callee <;> rfl
  | _ => exact .error (callError_strip callee arguments _ o o)

mutual

/-- An expression has the same value without parentheses, -/
theorem outcomes_strip : ∀ e : Expr, Outcomes (fun _ _ => True) Eq (env.eval e) (env.eval e.strip)
  | .number _ | .string _ | .bool _ | .nil | .identifier _ _ => .ok rfl
  | .unary op operand o => by
    rw [Expr.strip, eval, eval]
    refine (outcomes_strip operand).bind_of_eq fun v _ _ => ?_
    exact .refl (fun _ => trivial) (fun _ => rfl) _
  | .binary left op right o => by
    rw [Expr.strip, eval, eval]
    refine (outcomes_strip left).bind_of_eq fun l _ _ => ?_
    refine (outcomes_strip right).bind_of_eq fun r _ _ => ?_
    exact .refl (fun _ => trivial) (fun _ => rfl) _
  | .grouping inner => by
    rw [Expr.strip, eval]
    exact outcomes_strip inner
  | .call callee arguments o => by
    rw [Expr.strip, eval, eval]
    refine (outcomes_strip callee).bind_of_eq fun target _ _ => ?_
    refine (outcomes_stripAll arguments).bind_of_eq fun vs _ _ => ?_
    exact (env.outcomes_apply_strip callee arguments target vs o).imp (fun _ _ _ => trivial) fun _ _ h => h
  | .method receiver name o => by
    rw [Expr.strip, eval, eval]
    refine (outcomes_strip receiver).bind_of_eq fun v _ _ => ?_
    exact .refl (fun _ => trivial) (fun _ => rfl) _
  | .interpolation inner o => by
    rw [Expr.strip, eval, eval]
    exact (outcomes_strip inner).bind_of_eq fun v _ _ => .ok rfl

/-- and so do some expressions. -/
theorem outcomes_stripAll : ∀ es : List Expr,
    Outcomes (fun _ _ => True) Eq (env.evalAll es) (env.evalAll (Expr.stripAll es))
  | [] => .ok rfl
  | e :: es => by
    rw [Expr.stripAll, evalAll, evalAll]
    refine (outcomes_strip e).bind_of_eq fun v _ _ => ?_
    exact (outcomes_stripAll es).bind_of_eq fun vs _ _ => .ok rfl

end

/-! ## Failures without parentheses -/

mutual

/-- The part that fails first tells how an expression fails without parentheses, -/
theorem findSome?_parts_strip : ∀ e : Expr,
    e.parts.findSome? (fun d => (error? (env.eval d)).map (EvalError.ungrouped d)) = error? (env.eval e.strip)
  | .number _ | .string _ | .bool _ | .nil | .identifier _ _ => rfl
  | .unary op operand o => by
    rw [Expr.parts, List.findSome?_append, findSome?_parts_strip operand, List.findSome?_singleton, Expr.strip, eval,
      eval]
    exact (env.outcomes_strip operand).error?_or_bind fun _ => .refl (fun _ => rfl) (fun _ => rfl) _
  | .binary left op right o => by
    rw [Expr.parts, List.findSome?_append, List.findSome?_append, findSome?_parts_strip left,
      findSome?_parts_strip right, List.findSome?_singleton, Expr.strip, eval, eval]
    exact (env.outcomes_strip left).error?_or_bind₂ (env.outcomes_strip right) fun _ _ =>
      .refl (fun _ => rfl) (fun _ => rfl) _
  | .grouping inner => by
    rw [Expr.parts, List.findSome?_append, findSome?_parts_strip inner, List.findSome?_singleton, Expr.strip, eval]
    exact (env.outcomes_strip inner).error?_or
  | .call callee arguments o => by
    rw [Expr.parts, List.findSome?_append, List.findSome?_append, findSome?_parts_strip callee,
      findSome?_partsAll_stripAll arguments, List.findSome?_singleton, Expr.strip, eval, eval]
    exact (env.outcomes_strip callee).error?_or_bind₂ (env.outcomes_stripAll arguments) fun target vs =>
      env.outcomes_apply_strip callee arguments target vs o
  | .method receiver name o => by
    rw [Expr.parts, List.findSome?_append, findSome?_parts_strip receiver, List.findSome?_singleton, Expr.strip, eval,
      eval]
    exact (env.outcomes_strip receiver).error?_or_bind fun _ => .refl (fun _ => rfl) (fun _ => rfl) _
  | .interpolation inner o => by
    rw [Expr.parts, List.findSome?_append, findSome?_parts_strip inner, List.findSome?_singleton, Expr.strip, eval,
      eval]
    exact (env.outcomes_strip inner).error?_or_bind fun _ => .refl (fun _ => rfl) (fun _ => rfl) _

/-- and so it does for some expressions. -/
theorem findSome?_partsAll_stripAll : ∀ es : List Expr,
    (Expr.partsAll es).findSome? (fun d => (error? (env.eval d)).map (EvalError.ungrouped d)) =
      error? (env.evalAll (Expr.stripAll es))
  | [] => rfl
  | e :: es => by
    rw [Expr.partsAll, List.findSome?_append, findSome?_parts_strip e, findSome?_partsAll_stripAll es, Expr.stripAll,
      evalAll]
    exact (error?_bind₂_ok _ _ _).symm

end

variable {env}

/-- An expression fails without parentheses as the part that fails first tells. -/
theorem eval_strip_of_error {d e : Expr} {pre post : List Expr} {err : EvalError} (hparts : e.parts = pre ++ d :: post)
    (hpre : ∀ c ∈ pre, ∃ v, env.eval c = .ok v) (hd : env.eval d = .error err) :
    env.eval e.strip = .error (err.ungrouped d) := by
  have hskip : pre.findSome? (fun c => (error? (env.eval c)).map (EvalError.ungrouped c)) = none := by
    rw [List.findSome?_eq_none_iff]
    intro c hc
    obtain ⟨v, hv⟩ := hpre c hc
    rw [hv]
    rfl
  rw [← error?_eq_some_iff, ← findSome?_parts_strip, hparts, List.findSome?_append, hskip, List.findSome?_cons, hd]
  rfl

/-- **Parentheses only group.** An expression has the same value without its parentheses. If it fails, it does so as the
first of its parts that fails, and fails in the same way without parentheses, unless that part is a call of a name in
parentheses that stands for nothing: then the name is an unknown function. -/
theorem eval_strip (env : Environment φ) (e : Expr) :
    (∀ v, env.eval e = .ok v ↔ env.eval e.strip = .ok v) ∧
    ∀ err, env.eval e = .error err →
      ∃ pre d post, e.parts = pre ++ d :: post ∧ (∀ c ∈ pre, ∃ v, env.eval c = .ok v) ∧ env.eval d = .error err ∧
        ((∃ err', EvalError.Regrouped d err err' ∧ env.eval e.strip = .error err') ∨
          (∀ err', ¬ EvalError.Regrouped d err err') ∧ env.eval e.strip = .error err) := by
  refine ⟨(env.outcomes_strip e).ok_iff, ?_⟩
  intro err herr
  obtain ⟨pre, d, post, hparts, hpre, hd⟩ := (env.eval_eq_error_iff e err).mp herr
  have hstrip := eval_strip_of_error hparts hpre hd
  refine ⟨pre, d, post, hparts, hpre, hd, ?_⟩
  rcases EvalError.regrouped_or d err with hregrouped | ⟨hnot, hsame⟩
  · exact .inl ⟨_, hregrouped, hstrip⟩
  · exact .inr ⟨hnot, hsame ▸ hstrip⟩

end Environment

end Formula
