import Mathlib
import Formula.Number.Whole

/-!
# Numbers up to the sign of zero

Two numbers are alike if they are both zero, both not-a-number or the same. Arithmetic takes alike numbers to alike
numbers, as long as nothing is divided by zero, and whatever else is made of a number is the same for alike ones: the
sign of a zero cannot be told.

- `Number.Alike`: alike numbers; `Number.AlikeUnpacked`: what they are when they are unpacked.
- `Number.Alike.add`, `Number.Alike.div` and so on: arithmetic.
- `Number.Alike.lt`, `Number.Alike.le`, `Number.Alike.beq`: order and equality.
- `Number.Alike.plain`, `Number.Alike.fixed`, `Number.Alike.toCount?`, `Number.Alike.rounded`: texts and whole numbers.
-/

namespace Formula.Number

open Float.Model (UnpackedFloat Format)
open Float.Model.UnpackedFloat (Sign)

/-- The numbers are both zero, both not-a-number, or the same. -/
def Alike (x y : Float) : Prop :=
  (x == 0) = true ∧ (y == 0) = true ∨ x.isNaN = true ∧ y.isNaN = true ∨ x.toBits = y.toBits

/-- The same, or two zeros. -/
inductive AlikeUnpacked : UnpackedFloat → UnpackedFloat → Prop
  | refl (u : UnpackedFloat) : AlikeUnpacked u u
  | zero (s t : Sign) : AlikeUnpacked (.zero s) (.zero t)

/-! ## Unpacked numbers -/

namespace AlikeUnpacked

variable {spec : Format} {u u' v v' : UnpackedFloat}

theorem eq_or_zero (h : AlikeUnpacked u v) : u = v ∨ ∃ s t, u = .zero s ∧ v = .zero t := by
  cases h with
  | refl => exact .inl rfl
  | zero s t => exact .inr ⟨s, t, rfl, rfl⟩

theorem trans {w : UnpackedFloat} (h : AlikeUnpacked u v) (h' : AlikeUnpacked v w) : AlikeUnpacked u w := by
  cases h with
  | refl => exact h'
  | zero s t =>
    cases h' with
    | refl => exact .zero s t
    | zero _ t' => exact .zero s t'

theorem neg (h : AlikeUnpacked u u') : AlikeUnpacked u.neg u'.neg := by
  cases h with
  | refl => exact .refl _
  | zero s t => exact .zero _ _

/-- An operation that cannot tell the sign of a zero on either side takes alike numbers to alike numbers. -/
theorem map₂ {f : UnpackedFloat → UnpackedFloat → UnpackedFloat}
    (hl : ∀ w s t, AlikeUnpacked (f (.zero s) w) (f (.zero t) w))
    (hr : ∀ w s t, AlikeUnpacked (f w (.zero s)) (f w (.zero t)))
    (h : AlikeUnpacked u u') (h' : AlikeUnpacked v v') : AlikeUnpacked (f u v) (f u' v') := by
  have hleft : AlikeUnpacked (f u v) (f u' v) := by
    cases h with
    | refl => exact .refl _
    | zero s t => exact hl v s t
  have hright : AlikeUnpacked (f u' v) (f u' v') := by
    cases h' with
    | refl => exact .refl _
    | zero s t => exact hr u' s t
  exact hleft.trans hright

theorem add (h : AlikeUnpacked u u') (h' : AlikeUnpacked v v') : AlikeUnpacked (.add spec u v) (.add spec u' v') := by
  refine map₂ (fun w s t => ?_) (fun w s t => ?_) h h'
  · cases w with
    | zero r => cases r <;> cases s <;> cases t <;> constructor
    | _ => exact .refl _
  · cases w with
    | zero r => cases r <;> cases s <;> cases t <;> constructor
    | _ => exact .refl _

theorem sub (h : AlikeUnpacked u u') (h' : AlikeUnpacked v v') : AlikeUnpacked (.sub spec u v) (.sub spec u' v') := by
  refine map₂ (fun w s t => ?_) (fun w s t => ?_) h h'
  · cases w with
    | zero r => cases r <;> cases s <;> cases t <;> constructor
    | _ => exact .refl _
  · cases w with
    | zero r => cases r <;> cases s <;> cases t <;> constructor
    | _ => exact .refl _

theorem mul (h : AlikeUnpacked u u') (h' : AlikeUnpacked v v') : AlikeUnpacked (.mul spec u v) (.mul spec u' v') := by
  refine map₂ (fun w s t => ?_) (fun w s t => ?_) h h'
  · cases w with
    | zero | finite => exact .zero _ _
    | _ => exact .refl _
  · cases w with
    | zero | finite => exact .zero _ _
    | _ => exact .refl _

/-- A quotient by what is no zero. -/
theorem div (h : AlikeUnpacked u u') (h' : AlikeUnpacked v v') (hv : ∀ s, v ≠ .zero s) :
    AlikeUnpacked (.div spec u v) (.div spec u' v') := by
  cases h' with
  | zero s t => exact absurd rfl (hv s)
  | refl =>
    cases h with
    | refl => exact .refl _
    | zero s t =>
      cases v with
      | zero r => exact absurd rfl (hv r)
      | infinity | finite => exact .zero _ _
      | notANumber => exact .refl _

theorem zero_compare (s t : Sign) (w : UnpackedFloat) :
    UnpackedFloat.compare (.zero s) w = UnpackedFloat.compare (.zero t) w := by
  cases w with
  | infinity r | finite r => cases r <;> rfl
  | zero | notANumber => rfl

theorem compare_zero (s t : Sign) (w : UnpackedFloat) : w.compare (.zero s) = w.compare (.zero t) := by
  cases w with
  | infinity r | finite r => cases r <;> rfl
  | zero | notANumber => rfl

/-- Comparison cannot tell the sign of a zero. -/
theorem compare (h : AlikeUnpacked u u') (h' : AlikeUnpacked v v') : u.compare v = u'.compare v' := by
  have hleft : u.compare v = u'.compare v := by
    cases h with
    | refl => rfl
    | zero s t => exact zero_compare s t v
  have hright : u'.compare v = u'.compare v' := by
    cases h' with
    | refl => rfl
    | zero s t => exact compare_zero s t u'
  exact hleft.trans hright

end AlikeUnpacked

/-! ## Numbers -/

theorem beq_eq (x y : Float) : (x == y) = ((view x).compare (view y) == some .eq) := rfl

theorem lt_iff {x y : Float} : x < y ↔ (view x).lt (view y) = true := decide_eq_true_iff

theorem le_iff {x y : Float} : x ≤ y ↔ (view x).le (view y) = true := decide_eq_true_iff

theorem view_zero : view 0 = .zero .positive := rfl

/-- What equals zero is a zero. -/
theorem beq_zero_iff {x : Float} : (x == 0) = true ↔ ∃ s, view x = .zero s := by
  rw [beq_eq, view_zero]
  cases view x with
  | zero s => exact ⟨fun _ => ⟨s, rfl⟩, fun _ => rfl⟩
  | infinity s => cases s <;> exact ⟨nofun, nofun⟩
  | finite s => cases s <;> exact ⟨nofun, nofun⟩
  | notANumber => exact ⟨nofun, nofun⟩

namespace Alike

variable {x x' y y' : Float}

theorem refl (x : Float) : Alike x x := .inr (.inr rfl)

/-- Alike numbers are alike when they are unpacked, -/
theorem view (h : Alike x y) : AlikeUnpacked (view x) (view y) := by
  rcases h with ⟨hx, hy⟩ | ⟨hx, hy⟩ | hbits
  · obtain ⟨s, hs⟩ := beq_zero_iff.mp hx
    obtain ⟨t, ht⟩ := beq_zero_iff.mp hy
    rw [hs, ht]
    exact .zero s t
  · have hx' : Number.view x = .notANumber := UnpackedFloat.isNaN_iff.mp hx
    have hy' : Number.view y = .notANumber := UnpackedFloat.isNaN_iff.mp hy
    rw [hx', hy']
    exact .refl _
  · obtain rfl := Float.toBits_inj.mp hbits
    exact .refl _

theorem view_cases (h : Alike x y) :
    Number.view x = Number.view y ∨ ∃ s t, Number.view x = .zero s ∧ Number.view y = .zero t := h.view.eq_or_zero

/-- and what is packed alike is alike. -/
theorem of_pack {u v : UnpackedFloat} (h : AlikeUnpacked u v) : Alike (.ofModel (.pack u)) (.ofModel (.pack v)) := by
  have hzero : ∀ s : Sign, ((Float.ofModel (.pack (.zero s))) == 0) = true := by
    intro s
    cases s <;> rfl
  cases h with
  | refl => exact refl _
  | zero s t => exact .inl ⟨hzero s, hzero t⟩

theorem neg (h : Alike x x') : Alike (-x) (-x') := of_pack h.view.neg

theorem add (h : Alike x x') (h' : Alike y y') : Alike (x + y) (x' + y') := of_pack (h.view.add h'.view)

theorem sub (h : Alike x x') (h' : Alike y y') : Alike (x - y) (x' - y') := of_pack (h.view.sub h'.view)

theorem mul (h : Alike x x') (h' : Alike y y') : Alike (x * y) (x' * y') := of_pack (h.view.mul h'.view)

theorem div (h : Alike x x') (h' : Alike y y') (hy : (y == 0) = false) : Alike (x / y) (x' / y') := by
  refine of_pack (h.view.div h'.view fun s hs => ?_)
  rw [beq_zero_iff.mpr ⟨s, hs⟩] at hy
  cases hy

theorem beq (h : Alike x x') (h' : Alike y y') : (x == y) = (x' == y') := by
  rw [beq_eq, beq_eq, h.view.compare h'.view]

theorem lt (h : Alike x x') (h' : Alike y y') : x < y ↔ x' < y' := by
  rw [lt_iff, lt_iff, UnpackedFloat.lt, UnpackedFloat.lt, h.view.compare h'.view]

theorem le (h : Alike x x') (h' : Alike y y') : x ≤ y ↔ x' ≤ y' := by
  rw [le_iff, le_iff, UnpackedFloat.le, UnpackedFloat.le, h.view.compare h'.view]

/-! ## Texts and whole numbers -/

theorem plain (h : Alike x y) : Number.plain x = Number.plain y := by
  unfold Number.plain
  rcases h.view_cases with hview | ⟨s, t, hx, hy⟩
  · rw [hview]
  · rw [hx, hy]

theorem fixed (h : Alike x y) (places : Nat) : Number.fixed x places = Number.fixed y places := by
  unfold Number.fixed
  rcases h.view_cases with hview | ⟨s, t, hx, hy⟩
  · rw [hview]
  · rw [hx, hy]

theorem isWhole (h : Alike x y) : Number.isWhole x = Number.isWhole y := by
  unfold Number.isWhole
  rcases h.view_cases with hview | ⟨s, t, hx, hy⟩
  · rw [hview]
  · rw [hx, hy]

theorem isFinite (h : Alike x y) : x.isFinite = y.isFinite := by
  have hfinite : ∀ z : Float, z.isFinite = (Number.view z).isFinite := fun _ => rfl
  rw [hfinite, hfinite]
  rcases h.view_cases with hview | ⟨s, t, hx, hy⟩
  · rw [hview]
  · rw [hx, hy]
    rfl

theorem toUInt64 (h : Alike x y) : x.toUInt64 = y.toUInt64 := by
  have hcount : ∀ z : Float, z.toUInt64 = (Number.view z).toUInt64 := fun _ => rfl
  rw [hcount, hcount]
  rcases h.view_cases with hview | ⟨s, t, hx, hy⟩
  · rw [hview]
  · rw [hx, hy]
    rfl

/-- A zero of either sign is the count zero. -/
theorem toCount? (h : Alike x y) (max : UInt64) : Number.toCount? x max = Number.toCount? y max := by
  have hneg : decide (x < 0) = decide (y < 0) := decide_eq_decide.mpr (h.lt (refl 0))
  have hmax : decide (max.toFloat < x) = decide (max.toFloat < y) := decide_eq_decide.mpr ((refl _).lt h)
  rw [Number.toCount?, Number.toCount?, h.isFinite, h.isWhole, hneg, hmax, h.toUInt64]

/-- Rounding keeps zeros and rounds what is the same alike. -/
theorem rounded (h : Alike x y) : Alike (Number.rounded x) (Number.rounded y) := by
  unfold Number.rounded
  rcases h.view_cases with hview | ⟨s, t, hx, hy⟩
  · rw [hview]
    split
    · split
      · exact h
      · exact refl _
    · exact h
  · rw [hx, hy]
    exact h

end Alike

end Formula.Number
