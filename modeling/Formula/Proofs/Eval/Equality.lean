import Formula.Operator
import Formula.Proofs.Number.Alike
import Formula.Proofs.Number.Double

/-!
# Equality

Equality takes the two zeros for the same and tells not-a-number from everything, itself included. Functions are equal
if they have the same selector and equal callers, whatever they do. So equality is symmetric and transitive, a value
equals itself unless it is not-a-number or has it behind its callers, and equal values cannot be told apart by their
type, their truth or their text.

- `Number.beq_iff`: equal numbers are alike, and no not-a-number.
- `Value.Equal`: equal values; `Value.equals_iff`: they are what equality finds.
- `Value.Equal.symm`, `Value.Equal.trans`, `Value.equal_self_iff`: equality as a relation.
- `Value.Equal.toText`, `Value.Equal.interpolate`: the texts of equal values.
- `Value.equals_laws`: all of it about three values.
-/

namespace Formula

open Float.Model (UnpackedFloat)
open Float.Model.UnpackedFloat (Sign)

/-! ## Numbers -/

namespace Number

section Unpacked

variable {u v : UnpackedFloat}

theorem AlikeUnpacked.symm (h : AlikeUnpacked u v) : AlikeUnpacked v u := by
  cases h with
  | refl => exact .refl _
  | zero s t => exact .zero t s

/-- What compares as equal is alike. -/
theorem AlikeUnpacked.of_compare (h : u.compare v = some .eq) : AlikeUnpacked u v := by
  cases u with
  | notANumber => cases h
  | infinity s =>
    cases v with
    | infinity t =>
      cases s <;> cases t <;> cases h
      · exact .refl _
      · exact .refl _
    | _ => cases s <;> cases h
  | zero s =>
    cases v with
    | zero t => exact .zero s t
    | infinity t | finite t => cases t <;> cases h
    | notANumber => cases h
  | finite s m e hm =>
    cases v with
    | finite t m' e' hm' =>
      have hsame : s = t ∧ (Ord.compare e e').then (Ord.compare m m') = .eq := by
        cases s <;> cases t <;> simp_all [UnpackedFloat.compare]
      obtain ⟨rfl, hthen⟩ := hsame
      rw [Ordering.then_eq_eq, compare_eq_iff_eq, compare_eq_iff_eq] at hthen
      obtain ⟨rfl, rfl⟩ := hthen
      exact .refl _
    | infinity t => cases t <;> cases h
    | zero t => cases s <;> cases h
    | notANumber => cases h

/-- Only not-a-number does not compare as equal with itself. -/
theorem compare_self_iff : u.compare u = some .eq ↔ u ≠ .notANumber := by
  cases u with
  | notANumber => exact ⟨nofun, fun h => absurd rfl h⟩
  | infinity s => cases s <;> exact ⟨nofun, fun _ => rfl⟩
  | zero s => exact ⟨nofun, fun _ => rfl⟩
  | finite s m e hm => cases s <;> simp [UnpackedFloat.compare]

end Unpacked

variable {x y z : Float}

/-- Numbers are alike if they are when they are unpacked. -/
theorem alike_iff_view : Alike x y ↔ AlikeUnpacked (view x) (view y) := by
  refine ⟨Alike.view, fun h => ?_⟩
  have halike : Alike (ofView (view x)) (ofView (view y)) := .of_pack h
  rwa [ofView_view, ofView_view] at halike

theorem Alike.symm (h : Alike x y) : Alike y x := alike_iff_view.mpr h.view.symm

theorem Alike.trans (h : Alike x y) (h' : Alike y z) : Alike x z := alike_iff_view.mpr (h.view.trans h'.view)

/-- A number equals itself, unless it is not-a-number. -/
theorem beq_self_iff : (x == x) = true ↔ x.isNaN = false := by
  have hnan : x.isNaN = true ↔ view x = .notANumber := UnpackedFloat.isNaN_iff
  rw [beq_eq, beq_iff_eq, compare_self_iff, ne_eq, ← hnan, Bool.not_eq_true]

/-- Equal numbers are alike, and no not-a-number. -/
theorem beq_iff : (x == y) = true ↔ Alike x y ∧ x.isNaN = false := by
  have hself : Alike x y → (x == y) = (x == x) := fun h => h.symm.beq (.refl x) ▸ (Alike.refl x).beq h.symm
  constructor
  · intro h
    have halike : Alike x y := by
      rw [beq_eq, beq_iff_eq] at h
      exact alike_iff_view.mpr (.of_compare h)
    rw [hself halike] at h
    exact ⟨halike, beq_self_iff.mp h⟩
  · rintro ⟨halike, hnan⟩
    rw [hself halike]
    exact beq_self_iff.mpr hnan

theorem beq_symm (h : (x == y) = true) : (y == x) = true := by
  have halike := (beq_iff.mp h).1
  rw [halike.symm.beq halike]
  exact h

theorem beq_trans (h : (x == y) = true) (h' : (y == z) = true) : (x == z) = true :=
  beq_iff.mpr ⟨(beq_iff.mp h).1.trans (beq_iff.mp h').1, (beq_iff.mp h).2⟩

end Number

/-! ## Values -/

namespace Value

variable {φ : Type}

/-- The values are equal: equal numbers, the same text or truth value, twice `nil`, or functions of one selector with
equal callers or none. -/
inductive Equal : Value φ → Value φ → Prop
  | number {x y : Float} (h : (x == y) = true) : Equal (.number x) (.number y)
  | text (s : String) : Equal (.text s) (.text s)
  | bool (b : Bool) : Equal (.bool b) (.bool b)
  | nil : Equal .nil .nil
  | unbound (selector : String) (native native' : Native φ) :
      Equal (.function ⟨selector, none, native⟩) (.function ⟨selector, none, native'⟩)
  | bound (selector : String) {v w : Value φ} (native native' : Native φ) (h : Equal v w) :
      Equal (.function ⟨selector, some v, native⟩) (.function ⟨selector, some w, native'⟩)

/-- The value, its caller if it is a function taken as a method, and so on. -/
def chain : Value φ → List (Value φ)
  | function ⟨selector, some v, native⟩ => function ⟨selector, some v, native⟩ :: v.chain
  | v => [v]

variable {a b c : Value φ}

/-- Equality finds the equal values. -/
theorem equals_iff : a.equals b = true ↔ a.Equal b := by
  constructor
  · intro h
    fun_induction equals a b with
    | case1 x y => exact .number h
    | case2 s t =>
      obtain rfl := of_decide_eq_true h
      exact .text s
    | case3 b b' =>
      obtain rfl := of_decide_eq_true h
      exact .bool b
    | case4 => exact .nil
    | case5 s n t n' =>
      obtain rfl := of_decide_eq_true h
      exact .unbound s n n'
    | case6 s v n t w n' ih =>
      rw [Bool.and_eq_true, decide_eq_true_iff] at h
      obtain ⟨rfl, hcaller⟩ := h
      exact .bound s n n' (ih hcaller)
    | case7 => cases h
  · intro h
    induction h with
    | number h => exact h
    | text s => exact decide_eq_true rfl
    | bool b => exact decide_eq_true rfl
    | nil => rfl
    | unbound s n n' => exact decide_eq_true rfl
    | bound s n n' _ ih => rw [equals, ih, decide_eq_true rfl, Bool.and_self]

namespace Equal

theorem symm (h : a.Equal b) : b.Equal a := by
  induction h with
  | number h => exact .number (Number.beq_symm h)
  | text s => exact .text s
  | bool b => exact .bool b
  | nil => exact .nil
  | unbound s n n' => exact .unbound s n' n
  | bound s n n' _ ih => exact .bound s n' n ih

theorem trans (h : a.Equal b) (h' : b.Equal c) : a.Equal c := by
  induction h generalizing c with
  | number h =>
    cases h' with
    | number h' => exact .number (Number.beq_trans h h')
  | text s => exact h'
  | bool b => exact h'
  | nil => exact h'
  | unbound s n n' =>
    cases h' with
    | unbound _ _ n'' => exact .unbound s n n''
  | bound s n n' _ ih =>
    cases h' with
    | bound _ _ n'' h' => exact .bound s n n'' (ih h')

theorem type (h : a.Equal b) : a.type = b.type := by
  cases h <;> rfl

theorem isTruthy (h : a.Equal b) : a.isTruthy = b.isTruthy := by
  cases h <;> rfl

/-- Equal values have the same text: that of a zero shows no sign, and that of a function its selector only, -/
theorem toText (h : a.Equal b) : a.toText = b.toText := by
  cases h with
  | number h => exact (Number.beq_iff.mp h).1.plain
  | _ => rfl

/-- also within a string literal. -/
theorem interpolate (h : a.Equal b) : a.interpolate = b.interpolate := by
  have htext := h.toText
  cases h with
  | nil => rfl
  | _ => exact congrArg Value.text htext

end Equal

/-- A value equals itself, unless not-a-number stands in its chain of callers. -/
theorem equal_self_iff : a.Equal a ↔ ∀ x : Float, number x ∈ a.chain → x.isNaN = false := by
  fun_induction chain a with
  | case1 s v n ih =>
    -- a function equals itself if its caller does
    have hcaller : (function ⟨s, some v, n⟩).Equal (function ⟨s, some v, n⟩) ↔ v.Equal v := by
      refine ⟨fun h => ?_, .bound s n n⟩
      cases h with
      | bound _ _ _ h => exact h
    rw [hcaller, ih]
    simp
  | case2 v hv =>
    cases v with
    | number x =>
      have hnumber : (number x : Value φ).Equal (number x) ↔ (x == x) = true := by
        refine ⟨fun h => ?_, .number⟩
        cases h with
        | number h => exact h
      rw [hnumber, Number.beq_self_iff]
      simp
    | text s => simpa using .text s
    | bool b => simpa using .bool b
    | nil => simpa using .nil
    | function f =>
      obtain ⟨s, caller, n⟩ := f
      cases caller with
      | none => simpa using .unbound s n n
      | some v => exact absurd rfl (hv s v n)

/-- **Equality is a partial equivalence that the text respects.** Equality and its negation answer for any two values,
and answer the opposite. Equality is symmetric and transitive, and a value equals itself unless not-a-number stands in
its chain of callers. Equal values have the same type, the same truth and the same text, in a string literal and outside. -/
theorem equals_laws (a b c : Value φ) (o : Nat) :
    (BinaryOperator.equal.apply a b o = .ok (.bool (a.equals b)) ∧
      BinaryOperator.notEqual.apply a b o = .ok (.bool (!a.equals b))) ∧
    a.equals b = b.equals a ∧
    (a.equals b = true → b.equals c = true → a.equals c = true) ∧
    (a.equals a = true ↔ ∀ x : Float, number x ∈ a.chain → x.isNaN = false) ∧
    (a.equals b = true →
      a.type = b.type ∧ a.isTruthy = b.isTruthy ∧ a.toText = b.toText ∧ a.interpolate = b.interpolate) := by
  refine ⟨⟨rfl, rfl⟩, ?_, ?_, ?_, ?_⟩
  · rw [Bool.eq_iff_iff, equals_iff, equals_iff]
    exact ⟨Equal.symm, Equal.symm⟩
  · intro hab hbc
    exact equals_iff.mpr ((equals_iff.mp hab).trans (equals_iff.mp hbc))
  · rw [equals_iff]
    exact equal_self_iff
  · intro h
    have hequal := equals_iff.mp h
    exact ⟨hequal.type, hequal.isTruthy, hequal.toText, hequal.interpolate⟩

end Value

end Formula
