import Formula.Proofs.Lexeme.Word
import Formula.Proofs.Number.Alike
import Formula.Proofs.Number.Exact

/-!
# Numbers in plain form

A decimal in positional notation is a word, and means what it is read as. So the plain form of a finite double is the
word of its absolute value, with a minus in front if it is less than zero.

- `Decimal.Positional`: the digits before and after a point; `Decimal.positional_fixedChars`: a count of places.
- `Decimal.word_toChars`: positional notation is a word.
- `Number.plain_cases`: the plain form of a finite double.
- `Number.read?_plain`: the plain form is the numeral of its double.
-/

namespace Formula

open Float.Model.UnpackedFloat

/-! ## Positional notation -/

namespace Decimal

/-- Zeros at the end of the digits count in the exponent. -/
theorem toFloat_mul_ten_pow (n k : Nat) (e : Int) : toFloat ⟨n * 10 ^ k, e⟩ = toFloat ⟨n, e + k⟩ := by
  induction k generalizing e with
  | zero => rw [Nat.pow_zero, Nat.mul_one, Int.natCast_zero, Int.add_zero]
  | succ k ih =>
    rw [Nat.pow_succ, ← Nat.mul_assoc, toFloat_mul_ten, ih]
    congr 2
    omega

theorem isDigit_of_mem_toDigits (n : Nat) : ∀ d ∈ Nat.toDigits 10 n, d.isDigit = true := fun _ hd =>
  Nat.isDigit_of_mem_toDigits (by decide) (by decide) hd

theorem isDigit_of_mem_replicate (n : Nat) : ∀ d ∈ List.replicate n '0', d.isDigit = true := by
  intro d hd
  rw [List.eq_of_mem_replicate hd]
  rfl

/-- The digits `whole` before the point and `fraction` after it stand for `units / 10 ^ places`. No zero stands in front
that could be left out. -/
structure Positional (units places : Nat) (whole fraction : List Char) : Prop where
  isDigit_whole : ∀ c ∈ whole, c.isDigit = true
  isDigit_fraction : ∀ c ∈ fraction, c.isDigit = true
  ne_nil : whole ≠ []
  leading : whole.head? = some '0' → whole = ['0']
  length : fraction.length = places
  units_eq : Nat.ofDigitChars 10 (whole ++ fraction) 0 = units

/-- No digits in front of a number could be left out. -/
theorem toDigits_of_head_zero (n : Nat) (h : (Nat.toDigits 10 n).head? = some '0') : Nat.toDigits 10 n = ['0'] := by
  induction n using Nat.strongRecOn with
  | ind n ih =>
    rw [Nat.toDigits_eq_if (by decide)] at h ⊢
    split at h
    · rename_i hlt
      rw [if_pos hlt]
      exact congrArg (fun c => [c]) (Option.some.inj h)
    · rename_i hge
      rw [List.head?_append_of_ne_nil _ Nat.toDigits_ne_nil] at h
      have hzero : n / 10 = 0 := by
        rw [← Nat.ofDigitChars_ten_toDigits (n := n / 10), ih (n / 10) (by omega) h]
        rfl
      omega

/-- A single digit cannot be left out. -/
theorem head_zero_of_length {cs : List Char} (hlen : cs.length = 1) (h : cs.head? = some '0') : cs = ['0'] := by
  obtain ⟨c, rfl⟩ := List.length_eq_one_iff.mp hlen
  exact congrArg (fun c => [c]) (Option.some.inj h)

/-- A number with a point among its digits. -/
theorem positional_insertPoint (units places : Nat) : ∃ whole fraction, Positional units places whole fraction ∧
    insertPoint places (Nat.toDigits 10 units) = whole ++ '.' :: fraction := by
  obtain ⟨padded, hpadded⟩ : ∃ padded, List.replicate (places + 1 - (Nat.toDigits 10 units).length) '0' ++
      Nat.toDigits 10 units = padded := ⟨_, rfl⟩
  have hdigits : ∀ d ∈ padded, d.isDigit = true := by
    rw [← hpadded]
    exact List.forall_mem_append.mpr ⟨isDigit_of_mem_replicate _, isDigit_of_mem_toDigits units⟩
  have hlen : places + 1 ≤ padded.length := by
    rw [← hpadded, List.length_append, List.length_replicate]
    omega
  refine ⟨padded.take (padded.length - places), padded.drop (padded.length - places), ⟨?_, ?_, ?_, ?_, ?_, ?_⟩, ?_⟩
  · exact fun d hd => hdigits d (List.mem_of_mem_take hd)
  · exact fun d hd => hdigits d (List.mem_of_mem_drop hd)
  · rw [← List.length_pos_iff, List.length_take]
    omega
  · intro hhead
    by_cases hone : padded.length = places + 1
    · refine head_zero_of_length ?_ hhead
      rw [List.length_take]
      omega
    · -- nothing was filled in, so the digits are those of a number
      have hsame : padded = Nat.toDigits 10 units := by
        have hnone : places + 1 - (Nat.toDigits 10 units).length = 0 := by
          rw [← hpadded, List.length_append, List.length_replicate] at hone
          omega
        rw [← hpadded, hnone]
        rfl
      rw [List.head?_take, if_neg (by omega), hsame] at hhead
      rw [hsame, toDigits_of_head_zero units hhead, List.length_singleton] at hone hlen
      omega
  · rw [List.length_drop]
    omega
  · rw [List.take_append_drop, ← hpadded, Nat.ofDigitChars_append, Nat.ofDigitChars_replicate_zero, Nat.mul_zero,
      Nat.ofDigitChars_ten_toDigits]
  · rw [← hpadded]
    rfl

/-- The digits of a number with this many places. -/
theorem positional_fixedChars (units places : Nat) : ∃ whole fraction, Positional units places whole fraction ∧
    fixedChars units places = whole ++ if places = 0 then [] else '.' :: fraction := by
  by_cases hplaces : places = 0
  · subst hplaces
    refine ⟨Nat.toDigits 10 units, [], ⟨isDigit_of_mem_toDigits units, nofun, Nat.toDigits_ne_nil,
      toDigits_of_head_zero units, rfl, ?_⟩, (List.append_nil _).symm⟩
    rw [List.append_nil, Nat.ofDigitChars_ten_toDigits]
  · obtain ⟨whole, fraction, h, hchars⟩ := positional_insertPoint units places
    refine ⟨whole, fraction, h, ?_⟩
    rw [fixedChars, if_neg hplaces, if_neg hplaces, hchars]

/-- The digits stand for the number. -/
theorem Positional.ofParts_eq {units places : Nat} {whole fraction : List Char}
    (h : Positional units places whole fraction) : ofParts whole fraction = ⟨units, -(places : Int)⟩ := by
  rw [ofParts, h.units_eq, h.length]

/-- Positional notation is a word, and means the double that is nearest to the decimal. -/
theorem word_toChars (d : Decimal) : Word d.toChars (.number d.toFloat) := by
  obtain ⟨n, e⟩ := d
  cases e with
  | ofNat k =>
    have hdigits : ∀ d ∈ Nat.toDigits 10 n ++ List.replicate k '0', d.isDigit = true :=
      List.forall_mem_append.mpr ⟨isDigit_of_mem_toDigits n, isDigit_of_mem_replicate k⟩
    have hparts : ofParts (Nat.toDigits 10 n ++ List.replicate k '0') [] = ⟨n * 10 ^ k, 0⟩ := by
      rw [ofParts, List.append_nil, Nat.ofDigitChars_append, Nat.ofDigitChars_ten_toDigits,
        Nat.ofDigitChars_replicate_zero, Nat.mul_comm]
      rfl
    have hvalue : (ofParts (Nat.toDigits 10 n ++ List.replicate k '0') []).toFloat = toFloat ⟨n, .ofNat k⟩ := by
      rw [hparts, toFloat_mul_ten_pow, Int.zero_add]
      rfl
    rw [← hvalue]
    exact .whole (List.append_ne_nil_of_left_ne_nil Nat.toDigits_ne_nil _) hdigits
  | negSucc k =>
    obtain ⟨whole, fraction, h, hchars⟩ := positional_insertPoint n (k + 1)
    have hparts : ofParts whole fraction = ⟨n, .negSucc k⟩ := h.ofParts_eq
    have htext : toChars ⟨n, .negSucc k⟩ = whole ++ '.' :: fraction := hchars
    have hne : fraction ≠ [] := by
      rw [← List.length_pos_iff, h.length]
      omega
    rw [htext, ← hparts]
    exact .fraction h.ne_nil h.isDigit_whole hne h.isDigit_fraction

end Decimal

namespace Number

variable {x : Float}

/-! ## Absolute values -/

theorem abs_eq (x : Float) : x.abs = ofView (view x).abs := rfl

theorem neg_eq (x : Float) : -x = ofView (view x).neg := rfl

theorem word_zero : Word ['0'] (.number (ofView (.zero .positive))) := by
  have hzero : (Decimal.ofParts ['0'] []).toFloat = ofView (.zero .positive) := by
    have hparts : Decimal.ofParts ['0'] [] = ⟨0, 0⟩ := rfl
    rw [hparts, Decimal.toFloat, Decimal.normalize_zero]
    rfl
  rw [← hzero]
  exact .whole (List.cons_ne_nil _ _) (List.forall_mem_singleton.mpr rfl)

theorem plain_of_finite {s : Sign} {m : Nat} {e : Int} {h : 0 < m} (hx : view x = .finite s m e h) :
    plain x = String.ofList (signChars s ++ (shortest m e h).toChars) := by rw [plain, hx]

/-- The plain form of a finite double: that of its absolute value, which is a word, and with a minus in front if it is
less than zero. -/
theorem plain_cases (hx : x.isFinite = true) : ∃ w, Word w (.number x.abs) ∧ plain x.abs = String.ofList w ∧
    (plain x = String.ofList w ∧ Alike x x.abs ∨
      plain x = String.ofList ('-' :: w) ∧ x = -x.abs ∧ w ≠ ['0']) := by
  have hfinite : (view x).isFinite = true := hx
  cases hv : view x with
  | notANumber | infinity s =>
    rw [hv] at hfinite
    cases hfinite
  | zero s =>
    have habs : x.abs = ofView (.zero .positive) := by
      rw [abs_eq, hv]
      rfl
    have hzero : (x == 0) = true := beq_zero_iff.mpr ⟨s, hv⟩
    refine ⟨['0'], ?_, ?_, .inl ⟨?_, .inl ⟨hzero, ?_⟩⟩⟩
    · rw [habs]
      exact word_zero
    · rw [habs]
      rfl
    · rw [plain, hv]
    · rw [habs]
      rfl
  | finite s m e h =>
    have hd := isDouble_of_view hv
    have habs : x.abs = ofView (.finite .positive m e h) := by
      rw [abs_eq, hv]
      rfl
    have hview : view x.abs = .finite .positive m e h := by
      rw [habs]
      exact view_ofView hd
    have hword : Word (shortest m e h).toChars (.number x.abs) := by
      rw [habs, ← toFloat_shortest hd]
      exact Decimal.word_toChars _
    refine ⟨_, hword, plain_of_finite hview, ?_⟩
    cases s with
    | positive =>
      have hsame : x = x.abs := by rw [habs, ← hv, ofView_view]
      exact .inl ⟨plain_of_finite hv, by rw [← hsame]; exact Alike.refl x⟩
    | negative =>
      refine .inr ⟨plain_of_finite hv, ?_, fun hzero => ?_⟩
      · rw [neg_eq, hview, ← ofView_view x, hv]
        rfl
      · -- the word of zero means zero
        rw [hzero] at hword
        have hvalue := Kind.number.inj (hword.kind_eq word_zero)
        rw [hvalue] at hview
        cases hview

/-! ## Numerals -/

/-- What is not finite is written by its name. -/
theorem read?_plain_of_not_finite (hx : x.isFinite = false) : ∃ y, Numeral.read? (plain x) = some y ∧ Alike x y := by
  have hfinite : (view x).isFinite = false := hx
  cases hv : view x with
  | notANumber =>
    have hname : Numeral.read? nanText = some (0 / 0) := by decide
    have hnan : x.isNaN = true := by
      have hview : x.isNaN = (view x).isNaN := rfl
      rw [hview, hv]
      rfl
    exact ⟨0 / 0, by rw [plain, hv]; exact hname, .inr (.inl ⟨hnan, by decide⟩)⟩
  | infinity s =>
    have hname : Numeral.read? (infinityText s) = some (ofView (.infinity s)) := by cases s <;> decide
    exact ⟨x, by rw [plain, hv, ← ofView_view x, hv]; exact hname, Alike.refl x⟩
  | zero s | finite s m e h =>
    rw [hv] at hfinite
    cases hfinite

/-- The plain form is the numeral of its double. -/
theorem read?_plain (x : Float) : ∃ y, Numeral.read? (plain x) = some y ∧ Alike x y := by
  cases hx : x.isFinite with
  | false => exact read?_plain_of_not_finite hx
  | true =>
    obtain ⟨w, hword, -, ⟨hplain, halike⟩ | ⟨hplain, hneg, -⟩⟩ := plain_cases hx
    · exact ⟨x.abs, by rw [hplain]; exact hword.read?_eq, halike⟩
    · exact ⟨x, by rw [hplain, hword.read?_minus, ← hneg], Alike.refl x⟩

end Number

end Formula
