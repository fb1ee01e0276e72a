import Mathlib
import Formula.Number.Format

/-!
# Finite doubles

A finite double other than zero is `mantissa · 2 ^ exponent`, the mantissa having 53 bits, or fewer at the least
exponent. Taking a double apart and putting it together are inverse to each other.

- `Number.IsDouble`: the mantissas and exponents of doubles.
- `Number.isDouble_of_view`, `Number.ofView_view`: what is taken apart is a double, and the same when put together.
- `Number.view_ofView`: what is put together is taken apart into the same.
-/

namespace Formula.Number

open Float.Model (UnpackedFloat Format)
open Float.Model.UnpackedFloat

/-- The double with this sign and exact value. -/
abbrev ofView (u : UnpackedFloat) : Float := .ofModel (.pack u)

/-- `m · 2 ^ e` is a double with mantissa `m` and exponent `e`. -/
structure IsDouble (m : Nat) (e : Int) : Prop where
  pos : 0 < m
  lt : m < 2 ^ 53
  low : -1074 ≤ e
  high : e ≤ 971
  /-- The leading bit is there, unless the exponent is the least one. -/
  leading : 2 ^ 52 ≤ m ∨ e = -1074

/-! ## Bits -/

section Components

variable (s : Sign) {e : BitVec 11} {m : BitVec 52}

theorem finite_congr {s : Sign} {m m' : Nat} {e e' : Int} (hm : m = m') (he : e = e') (h : 0 < m) (h' : 0 < m') :
    UnpackedFloat.finite s m e h = .finite s m' e' h' := by
  subst hm he
  rfl

/-- The leading bit is in front of the others. -/
theorem toNat_leading (m : BitVec 52) : (1#1 ++ m).toNat = 2 ^ 52 + m.toNat := by
  rw [BitVec.toNat_append, ← Nat.shiftLeft_add_eq_or_of_lt m.isLt]
  rfl

theorem unpack_top : unpack .binary64 (packComponents .binary64 s (-1#11) m) =
    if m = 0#52 then .infinity s else .notANumber := by
  unfold unpack
  simp only [unpackExponent_packComponents, unpackMantissa_packComponents, unpackSign_packComponents,
    Sign.ofBitVec_toBitVec, if_true]

theorem unpack_normal (he : e ≠ -1#11) (he' : e ≠ 0#11) :
    unpack .binary64 (packComponents .binary64 s e m) =
      .finite s (2 ^ 52 + m.toNat) (e.toNat - 1075) (by omega) := by
  unfold unpack
  simp only [unpackExponent_packComponents, unpackMantissa_packComponents, unpackSign_packComponents,
    Sign.ofBitVec_toBitVec, if_neg he, if_neg he']
  exact finite_congr (toNat_leading m) rfl _ _

theorem unpack_subnormal (hm : m ≠ 0#52) :
    unpack .binary64 (packComponents .binary64 s 0#11 m) =
      .finite s m.toNat (-1074) (Nat.pos_of_ne_zero fun h => hm (BitVec.eq_of_toNat_eq h)) := by
  unfold unpack
  simp only [unpackExponent_packComponents, unpackMantissa_packComponents, unpackSign_packComponents,
    Sign.ofBitVec_toBitVec]
  rw [if_neg (by decide), if_pos trivial, dif_neg hm]
  rfl

theorem pack_normal {m : Nat} {e : Int} (h : 0 < m) (hm : 2 ^ 52 ≤ m) (hm' : m < 2 ^ 53) (he : e ≤ 971) :
    pack .binary64 (.finite s m e h) =
      packComponents .binary64 s (BitVec.ofNat 11 (e + 1075).toNat) (BitVec.ofNat 52 m) := by
  have hlog : m.log2 = 52 := (Nat.log2_eq_iff (Nat.ne_of_gt h)).mpr ⟨hm, hm'⟩
  have hexponent : (e + Format.binary64.exponentBias + Format.binary64.mantissaBitsWithoutImplicit).toNat =
      (e + 1075).toNat := by
    have hbias : ((Format.binary64.exponentBias : Nat) : Int) = 1023 := rfl
    have hbits : ((Format.binary64.mantissaBitsWithoutImplicit : Nat) : Int) = 52 := rfl
    rw [hbias, hbits]
    omega
  unfold pack
  simp only [hexponent]
  rw [if_neg, if_pos]
  · rw [hlog]
    rfl
  · have hfits : (e + 1075).toNat + 1 < 2 ^ 11 := by omega
    exact Nat.not_le.mpr hfits

theorem pack_subnormal {m : Nat} (h : 0 < m) (hm : m < 2 ^ 52) :
    pack .binary64 (.finite s m (-1074) h) = packComponents .binary64 s 0#11 (BitVec.ofNat 52 m) := by
  have hlog : m.log2 < 52 := (Nat.log2_lt (Nat.ne_of_gt h)).mpr hm
  unfold pack
  rw [if_neg (by decide), if_neg]
  have hbits : Format.binary64.mantissaBits = 53 := rfl
  rw [hbits]
  omega

end Components

/-! ## Apart and together -/

variable {x : Float} {s : Sign} {m : Nat} {e : Int}

/-- What is put together is taken apart into the same. -/
theorem view_ofView {h : 0 < m} (hd : IsDouble m e) : view (ofView (.finite s m e h)) = .finite s m e h := by
  have hbits : view (ofView (.finite s m e h)) = unpack .binary64 (pack .binary64 (.finite s m e h)) := rfl
  have hlt := hd.lt
  have hlow := hd.low
  have hhigh := hd.high
  rw [hbits]
  by_cases hm : 2 ^ 52 ≤ m
  · have hexponent : (BitVec.ofNat 11 (e + 1075).toNat).toNat = (e + 1075).toNat := by
      rw [BitVec.toNat_ofNat, Nat.mod_eq_of_lt (by omega)]
    have hmantissa : (BitVec.ofNat 52 m).toNat = m - 2 ^ 52 := by
      rw [BitVec.toNat_ofNat]
      omega
    have hne : ∀ k < 2048, k ≠ (e + 1075).toNat → BitVec.ofNat 11 (e + 1075).toNat ≠ BitVec.ofNat 11 k := by
      intro k hk hne heq
      have := congrArg BitVec.toNat heq
      rw [hexponent, BitVec.toNat_ofNat, Nat.mod_eq_of_lt hk] at this
      exact hne this.symm
    rw [pack_normal s h hm hlt hhigh, unpack_normal s (hne 2047 (by decide) (by omega)) (hne 0 (by decide) (by omega))]
    exact finite_congr (by omega) (by omega) _ _
  · obtain rfl : e = -1074 := hd.leading.resolve_left hm
    have hmantissa : (BitVec.ofNat 52 m).toNat = m := by
      rw [BitVec.toNat_ofNat]
      omega
    have hne : BitVec.ofNat 52 m ≠ 0#52 := by
      intro heq
      have := congrArg BitVec.toNat heq
      rw [hmantissa] at this
      exact Nat.ne_of_gt h this
    rw [pack_subnormal s h (by omega), unpack_subnormal s hne]
    exact finite_congr hmantissa rfl _ _

theorem isDouble_of_unpack {b : BitVec Format.binary64.numBits} {h : 0 < m}
    (hb : unpack .binary64 b = .finite s m e h) : IsDouble m e := by
  rw [← packComponents_unpackSign_unpackExponent_unpackMantissa b] at hb
  generalize unpackExponent b = k, unpackMantissa b = n at hb
  by_cases htop : k = -1#11
  · rw [htop, unpack_top] at hb
    split at hb <;> cases hb
  by_cases hzero : k = 0#11
  · by_cases hn : n = 0#52
    · rw [hzero, hn] at hb
      cases unpack_packedZero.symm.trans hb
    · rw [hzero, unpack_subnormal _ hn] at hb
      obtain ⟨-, rfl, rfl⟩ := UnpackedFloat.finite.inj hb
      exact ⟨h, by omega, by decide, by decide, .inr rfl⟩
  · rw [unpack_normal _ htop hzero] at hb
    obtain ⟨-, rfl, rfl⟩ := UnpackedFloat.finite.inj hb
    have hlow : k.toNat ≠ 0 := fun h => hzero (BitVec.eq_of_toNat_eq h)
    have hhigh : k.toNat ≠ 2047 := fun h => htop (BitVec.eq_of_toNat_eq h)
    exact ⟨h, by omega, by omega, by omega, .inl (by omega)⟩

/-- What is taken apart is a double, -/
theorem isDouble_of_view {h : 0 < m} (hx : view x = .finite s m e h) : IsDouble m e :=
  isDouble_of_unpack hx

/-- and the same when it is put together. -/
theorem ofView_view (x : Float) : ofView (view x) = x :=
  Float.toBits_inj.mp (UInt64.toBitVec_inj.mp (pack_unpack_of_valid x.toModel.valid))

end Formula.Number
