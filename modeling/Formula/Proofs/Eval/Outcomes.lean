import Formula.Eval

/-!
# Two evaluations side by side

Two outcomes are compared as a whole: both are values, and those are related, or both are failures, and those are
related. What is done with related values one after the other is compared in its parts.

- `Outcomes`: two outcomes of the same kind, with related contents.
- `Outcomes.bind`: the comparison of sequences by their parts.
-/

namespace Formula

/-- Both outcomes are values that `R` relates, or both are failures that `E` relates. -/
inductive Outcomes {ε ε' α β : Type} (E : ε → ε' → Prop) (R : α → β → Prop) : Except ε α → Except ε' β → Prop
  | ok {a : α} {b : β} (h : R a b) : Outcomes E R (.ok a) (.ok b)
  | error {err : ε} {err' : ε'} (h : E err err') : Outcomes E R (.error err) (.error err')

namespace Outcomes

variable {ε ε' α β γ δ : Type} {E : ε → ε' → Prop} {R : α → β → Prop} {S : γ → δ → Prop} {x : Except ε α}
  {y : Except ε' β}

/-- Sequences are related if their first parts are, and their second parts on the related values of the first. -/
theorem bind (h : Outcomes E R x y) {f : α → Except ε γ} {g : β → Except ε' δ}
    (hfg : ∀ a b, x = .ok a → y = .ok b → R a b → Outcomes E S (f a) (g b)) : Outcomes E S (x >>= f) (y >>= g) := by
  cases h with
  | ok h => exact hfg _ _ rfl rfl h
  | error h => exact .error h

/-- Where related values are the same, the second parts are compared on one value. -/
theorem bind_of_eq {y : Except ε' α} (h : Outcomes E Eq x y) {f : α → Except ε γ} {g : α → Except ε' δ}
    (hfg : ∀ a, x = .ok a → y = .ok a → Outcomes E S (f a) (g a)) : Outcomes E S (x >>= f) (y >>= g) := by
  refine h.bind ?_
  rintro a _ hx hy rfl
  exact hfg a hx hy

/-- More can be related. -/
theorem imp {E' : ε → ε' → Prop} {R' : α → β → Prop} (hE : ∀ err err', E err err' → E' err err')
    (hR : ∀ a b, R a b → R' a b) (h : Outcomes E R x y) : Outcomes E' R' x y := by
  cases h with
  | ok h => exact .ok (hR _ _ h)
  | error h => exact .error (hE _ _ h)

/-- Failures may be told in other words on both sides. -/
theorem mapError {η η' : Type} {F : η → η' → Prop} {f : ε → η} {g : ε' → η'}
    (hfg : ∀ err err', E err err' → F (f err) (g err')) (h : Outcomes E R x y) :
    Outcomes F R (x.mapError f) (y.mapError g) := by
  cases h with
  | ok h => exact .ok h
  | error h => exact .error (hfg _ _ h)

/-- An outcome is related to itself, if all that it can be is. -/
theorem refl {E : ε → ε → Prop} {R : α → α → Prop} (hE : ∀ err, E err err) (hR : ∀ a, R a a) (x : Except ε α) :
    Outcomes E R x x := by
  cases x with
  | ok a => exact .ok (hR a)
  | error err => exact .error (hE err)

/-- Where related values are the same, either outcome is a value if the other is. -/
theorem ok_iff {y : Except ε' α} (h : Outcomes E Eq x y) (a : α) : x = .ok a ↔ y = .ok a := by
  cases h with
  | ok h => rw [h, Except.ok.injEq, Except.ok.injEq]
  | error => exact ⟨nofun, nofun⟩

/-- Where related failures are the same as well, the outcomes are. -/
theorem eq {E : ε → ε → Prop} {y : Except ε α} (h : Outcomes E Eq x y) (hE : ∀ err err', E err err' → err = err') :
    x = y := by
  cases h with
  | ok h => rw [h]
  | error h => rw [hE _ _ h]

theorem of_error (h : Outcomes E R x y) {err : ε} {err' : ε'} (hx : x = .error err) (hy : y = .error err') :
    E err err' := by
  subst hx hy
  cases h with
  | error h => exact h

end Outcomes

end Formula
