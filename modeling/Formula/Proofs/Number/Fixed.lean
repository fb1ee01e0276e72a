import Formula.Proofs.Number.Plain
import Formula.Proofs.Number.Value

/-!
# Numbers with fixed places

A finite double is written as the multiple of the last place that is nearest to its exact value, a tie going to the even
multiple. There is a minus before what is less than zero after rounding, and before nothing else, and rounding keeps
order.

- `Number.IsNearest`: the nearest integer to a rational number; `Number.isNearest_roundHalfEven`.
- `Number.IsNearest.mono`: rounding keeps order.
- `Number.denoted`: the number that a text stands for; `Number.FixedNumeral`: the text of a number with fixed places.
- `Number.signedFixed`, `Number.dropZeroSign`: the text with its sign, and the sign of zeros dropped;
  `Number.fixed_eq_dropZeroSign`: one after the other.
- `Number.fixed_of_value`: the text of a finite double.
- `Number.fixed_rounds`: all of it about one double.
-/

namespace Formula

namespace Number

/-! ## The nearest integer -/

/-- No integer is nearer to `q` than `k`, and if another is as near then `k` is even. -/
def IsNearest (q : ℚ) (k : ℤ) : Prop := ∀ j : ℤ, j ≠ k → |q - k| < |q - j| ∨ |q - k| = |q - j| ∧ Even k

section Nearest

variable {q r : ℚ} {k l : ℤ}

theorem IsNearest.le (h : IsNearest q k) {j : ℤ} (hj : j ≠ k) : |q - k| ≤ |q - j| := by
  rcases h j hj with hlt | ⟨heq, -⟩
  · exact hlt.le
  · exact heq.le

theorem IsNearest.even (h : IsNearest q k) {j : ℤ} (hj : j ≠ k) (heq : |q - k| = |q - j|) : Even k := by
  rcases h j hj with hlt | ⟨-, heven⟩
  · exact absurd heq hlt.ne
  · exact heven

/-- The nearest integer is at most a half away, and an odd one less than a half. -/
theorem isNearest_iff : IsNearest q k ↔ |q - k| ≤ 1 / 2 ∧ (|q - k| = 1 / 2 → Even k) := by
  constructor
  · intro h
    have hnext : k + 1 ≠ k := by omega
    have hprevious : k - 1 ≠ k := by omega
    have hup : q - (k + 1 : ℤ) = q - k - 1 := by rw [Int.cast_add, Int.cast_one, sub_add_eq_sub_sub]
    have hdown : q - (k - 1 : ℤ) = q - k + 1 := by
      rw [Int.cast_sub, Int.cast_one, sub_sub_eq_add_sub, add_sub_right_comm]
    constructor
    · have hle := h.le hnext
      have hge := h.le hprevious
      rw [hup, ← sq_le_sq] at hle
      rw [hdown, ← sq_le_sq] at hge
      exact abs_le.mpr ⟨by linarith, by linarith⟩
    · intro hhalf
      rcases eq_or_eq_neg_of_abs_eq hhalf with hq | hq
      · exact h.even hnext (by rw [hup, hq]; norm_num)
      · exact h.even hprevious (by rw [hdown, hq]; norm_num)
  · rintro ⟨hle, heven⟩ j hj
    -- the other integer is at least one away from the nearest
    have hone : (1 : ℚ) ≤ |(k : ℚ) - j| := by exact_mod_cast Int.one_le_abs (sub_ne_zero.mpr hj.symm)
    have htriangle : |(k : ℚ) - j| ≤ |q - k| + |q - j| := by
      rw [abs_sub_comm q k]
      exact abs_sub_le _ _ _
    rcases hle.lt_or_eq with hlt | heq
    · exact .inl (by linarith)
    · have hle' : |q - k| ≤ |q - j| := by linarith
      rcases hle'.lt_or_eq with hless | hsame
      · exact .inl hless
      · exact .inr ⟨hsame, heven heq⟩

theorem IsNearest.neg (h : IsNearest q k) : IsNearest (-q) (-k) := by
  have habs : |-q - ((-k : ℤ) : ℚ)| = |q - k| := by
    rw [Int.cast_neg, ← neg_sub', abs_neg]
  rw [isNearest_iff] at h ⊢
  rw [habs, even_neg]
  exact h

/-- Rounding keeps order. -/
theorem IsNearest.mono (h : IsNearest q k) (h' : IsNearest r l) (hle : q ≤ r) : k ≤ l := by
  rw [isNearest_iff] at h h'
  obtain ⟨hk, hkeven⟩ := h
  obtain ⟨hl, hleven⟩ := h'
  by_contra hlt
  have hk' := (abs_le.mp hk).1
  have hl' := (abs_le.mp hl).2
  have hstep : (l : ℚ) + 1 ≤ k := by exact_mod_cast (show l + 1 ≤ k by omega)
  -- both are the middle between two integers that follow each other
  have hq : q - k = -(1 / 2) := by linarith
  have hr : r - l = 1 / 2 := by linarith
  have hnext : (k : ℚ) = l + 1 := by linarith
  have hnext' : k = l + 1 := by exact_mod_cast hnext
  rw [hq, abs_neg, abs_of_pos (by norm_num)] at hkeven
  rw [hr, abs_of_pos (by norm_num)] at hleven
  obtain ⟨i, hi⟩ := hkeven rfl
  obtain ⟨j, hj⟩ := hleven rfl
  omega

/-- The nearest integer to a quotient leaves a rest of at most half the divisor. -/
theorem isNearest_div {num den : Nat} {rest : ℤ} (h : 0 < den) (hrest : (num : ℤ) = k * den + rest)
    (hle : 2 * rest.natAbs ≤ den) (heven : 2 * rest.natAbs = den → Even k) : IsNearest (num / den) k := by
  have hden : (0 : ℚ) < den := Nat.cast_pos.mpr h
  have habs : |(num / den : ℚ) - k| = rest.natAbs / den := by
    have hnum : (num : ℚ) = k * den + rest := by exact_mod_cast hrest
    rw [hnum, add_div, mul_div_cancel_right₀ _ hden.ne', add_sub_cancel_left, abs_div, abs_of_pos hden, Nat.cast_natAbs,
      Int.cast_abs]
  rw [isNearest_iff, habs, div_le_div_iff₀ hden two_pos, div_eq_div_iff hden.ne' two_ne_zero, one_mul, mul_comm]
  exact ⟨by exact_mod_cast hle, fun heq => heven (by exact_mod_cast heq)⟩

/-- A quotient is rounded to the nearest integer. -/
theorem isNearest_roundHalfEven (num : Nat) {den : Nat} (h : 0 < den) :
    IsNearest (num / den) (roundHalfEven num den) := by
  have hdiv : (num : ℤ) = (num / den : ℕ) * den + (num % den : ℕ) := by exact_mod_cast (Nat.div_add_mod' num den).symm
  have hdiv' : (num : ℤ) = ((num / den : ℕ) + 1 : ℤ) * den + ((num % den : ℕ) - den) := by rw [hdiv]; ring
  have hlt := Nat.mod_lt num h
  unfold roundHalfEven
  rcases lt_trichotomy (2 * (num % den)) den with hrest | hrest | hrest
  · rw [compare_lt_iff_lt.mpr hrest]
    exact isNearest_div h hdiv (by omega) (by omega)
  · rw [compare_eq_iff_eq.mpr hrest]
    rcases Nat.mod_two_eq_zero_or_one (num / den) with hq | hq
    · have heven : Even ((num / den : ℕ) : ℤ) := (Int.even_coe_nat _).mpr (Nat.even_iff.mpr hq)
      simp only [hq, Nat.add_zero]
      exact isNearest_div h hdiv (by omega) fun _ => heven
    · have heven : Even ((num / den : ℕ) + 1 : ℤ) := by exact_mod_cast (Nat.odd_iff.mpr hq).add_one
      simp only [hq, Int.natCast_add, Int.natCast_one]
      exact isNearest_div h hdiv' (by omega) fun _ => heven
  · rw [compare_gt_iff_gt.mpr hrest]
    exact isNearest_div h hdiv' (by omega) (by omega)

end Nearest

/-- The mantissa is rounded to the nearest count of units. -/
theorem isNearest_fixedUnits (m : Nat) (e : Int) (places : Nat) :
    IsNearest (m * 2 ^ e * 10 ^ places) (fixedUnits m e places) := by
  have hpos := fraction_pos m e
  have hden : ((Decimal.Shortest.fraction m e).2 : ℚ) ≠ 0 := Nat.cast_ne_zero.mpr hpos.ne'
  have hquotient : (m * 2 ^ e * 10 ^ places : ℚ) =
      ((Decimal.Shortest.fraction m e).1 * 10 ^ places : ℕ) / (Decimal.Shortest.fraction m e).2 := by
    rw [eq_div_iff hden, mul_right_comm, fraction_value, Nat.cast_mul, Nat.cast_pow, Nat.cast_ofNat]
  rw [hquotient]
  exact isNearest_roundHalfEven _ hpos

/-! ## Texts -/

/-- The number that digits stand for, with at most one point among them. -/
def unsigned (cs : List Char) : ℚ :=
  (Decimal.ofParts (cs.takeWhile (· != '.')) ((cs.dropWhile (· != '.')).drop 1)).value

/-- The number that a text stands for. -/
def denoted (text : String) : ℚ :=
  match text.toList with
  | '-' :: cs => -unsigned cs
  | cs => unsigned cs

/-- The text of `k / 10 ^ places`: digits with exactly `places` of them behind a point, and no point if there are none,
and a minus in front of what is less than zero. -/
def FixedNumeral (k : ℤ) (places : Nat) (text : String) : Prop :=
  ∃ whole fraction, Decimal.Positional k.natAbs places whole fraction ∧
    text = String.ofList ((if k < 0 then ['-'] else []) ++ (whole ++ if places = 0 then [] else '.' :: fraction))

section Texts

variable {units places : Nat} {whole fraction : List Char}

/-- Digits stand for as many units of the last place as they are read as. -/
theorem unsigned_of_positional (h : Decimal.Positional units places whole fraction) :
    unsigned (whole ++ if places = 0 then [] else '.' :: fraction) = units / 10 ^ places := by
  have hpoint : ∀ c ∈ whole, (c != '.') = true := by
    intro c hc
    rw [bne_iff_ne]
    rintro rfl
    cases h.isDigit_whole _ hc
  have hparts : unsigned (whole ++ if places = 0 then [] else '.' :: fraction) =
      (Decimal.ofParts whole fraction).value := by
    unfold unsigned
    rw [List.takeWhile_append_of_pos hpoint, List.dropWhile_append_of_pos hpoint]
    split
    · rename_i hplaces
      rw [List.eq_nil_of_length_eq_zero (h.length.trans hplaces), List.takeWhile_nil, List.append_nil]
      rfl
    · rw [List.takeWhile_cons_of_neg (by decide), List.append_nil, List.dropWhile_cons_of_neg (by decide),
        List.drop_one]
      rfl
  rw [hparts, h.ofParts_eq, Decimal.value, zpow_neg, zpow_natCast, div_eq_mul_inv]

theorem denoted_minus (cs : List Char) : denoted (String.ofList ('-' :: cs)) = -unsigned cs := by
  unfold denoted
  rw [String.toList_ofList]
  rfl

theorem denoted_of_ne_minus {cs : List Char} (h : cs.head? ≠ some '-') : denoted (String.ofList cs) = unsigned cs := by
  unfold denoted
  rw [String.toList_ofList]
  split
  · exact absurd rfl h
  · rfl

theorem head?_ne_minus (h : Decimal.Positional units places whole fraction) (cs : List Char) :
    (whole ++ cs).head? ≠ some '-' := by
  obtain ⟨c, ds, rfl⟩ := List.exists_cons_of_ne_nil h.ne_nil
  intro hminus
  cases Option.some.inj hminus
  cases h.isDigit_whole '-' List.mem_cons_self

/-- The text of a number stands for the number. -/
theorem FixedNumeral.denoted_eq {k : ℤ} {text : String} (h : FixedNumeral k places text) :
    denoted text = k / 10 ^ places := by
  obtain ⟨whole, fraction, hpositional, rfl⟩ := h
  have hunsigned := unsigned_of_positional hpositional
  rw [Nat.cast_natAbs, Int.cast_abs] at hunsigned
  rcases lt_or_ge k 0 with hk | hk
  · rw [if_pos hk, List.singleton_append, denoted_minus, hunsigned, abs_of_neg (Int.cast_lt_zero.mpr hk), neg_div,
      neg_neg]
  · rw [if_neg (not_lt.mpr hk), List.nil_append, denoted_of_ne_minus (head?_ne_minus hpositional _), hunsigned,
      abs_of_nonneg (Int.cast_nonneg hk)]

/-- Digits with fixed places are the text of a number. -/
theorem fixedNumeral_ofList (k : ℤ) (places : Nat) : FixedNumeral k places
    (String.ofList ((if k < 0 then ['-'] else []) ++ Decimal.fixedChars k.natAbs places)) := by
  obtain ⟨whole, fraction, h, hchars⟩ := Decimal.positional_fixedChars k.natAbs places
  exact ⟨whole, fraction, h, by rw [hchars]⟩

end Texts

/-! ## A minus in front of zeros -/

/-- A digit zero or a point. -/
def isZeroOrPoint (c : Char) : Bool := c = '0' || c = '.'

/-- The number with exactly `places` digits after the point, and a minus for every negative sign. -/
def signedFixed (x : Float) (places : Nat) : List Char :=
  match view x with
  | .notANumber => ['N', 'a', 'N']
  | .infinity s => signChars s ++ ['i', 'n', 'f']
  | .zero s => signChars s ++ Decimal.fixedChars 0 places
  | .finite s m e _ => signChars s ++ Decimal.fixedChars (fixedUnits m e places) places

/-- Takes the minus from zeros and points. -/
def dropZeroSign : List Char → List Char
  | '-' :: cs => if cs.all isZeroOrPoint then cs else '-' :: cs
  | cs => cs

section ZeroSign

variable {units places : Nat} {whole fraction : List Char}

theorem forall_mem_insertPoint {P : Char → Prop} {digits : List Char} (hpoint : P '.') (hzero : P '0')
    (hdigits : ∀ c ∈ digits, P c) (places : Nat) : ∀ c ∈ Decimal.insertPoint places digits, P c := by
  have hpadded : ∀ c ∈ List.replicate (places + 1 - digits.length) '0' ++ digits, P c := by
    refine List.forall_mem_append.mpr ⟨fun c hc => ?_, hdigits⟩
    rw [List.eq_of_mem_replicate hc]
    exact hzero
  refine List.forall_mem_append.mpr ⟨fun c hc => hpadded c (List.mem_of_mem_take hc), ?_⟩
  exact List.forall_mem_cons.mpr ⟨hpoint, fun c hc => hpadded c (List.mem_of_mem_drop hc)⟩

theorem all_fixedChars_zero (places : Nat) : (Decimal.fixedChars 0 places).all isZeroOrPoint = true := by
  rw [Decimal.fixedChars]
  split
  · rfl
  · have hdigits : ∀ c ∈ Nat.toDigits 10 0, isZeroOrPoint c = true := List.forall_mem_singleton.mpr rfl
    exact List.all_eq_true.mpr (forall_mem_insertPoint (P := (isZeroOrPoint · = true)) rfl rfl hdigits places)

/-- Digits that are all zero count nothing. -/
theorem eq_zero_of_all (h : Decimal.Positional units places whole fraction)
    (hall : ∀ c ∈ whole ++ fraction, isZeroOrPoint c = true) : units = 0 := by
  have hzero : ∀ c ∈ whole ++ fraction, c = '0' := by
    intro c hc
    have hdigit : c.isDigit = true := List.forall_mem_append.mpr ⟨h.isDigit_whole, h.isDigit_fraction⟩ c hc
    rcases Bool.or_eq_true_iff.mp (hall c hc) with hc | hc
    · exact of_decide_eq_true hc
    · rw [of_decide_eq_true hc] at hdigit
      cases hdigit
  rw [← h.units_eq, List.eq_replicate_of_mem hzero, Nat.ofDigitChars_replicate_zero, Nat.mul_zero]

/-- Digits with fixed places are zeros and a point where they count nothing, and only there. -/
theorem all_fixedChars_iff : (Decimal.fixedChars units places).all isZeroOrPoint = true ↔ units = 0 := by
  constructor
  · intro hall
    obtain ⟨whole, fraction, h, hchars⟩ := Decimal.positional_fixedChars units places
    rw [hchars, List.all_append, Bool.and_eq_true] at hall
    refine eq_zero_of_all h (List.forall_mem_append.mpr ⟨List.all_eq_true.mp hall.1, fun c hc => ?_⟩)
    have hne : places ≠ 0 := by
      rintro rfl
      rw [List.eq_nil_of_length_eq_zero h.length] at hc
      cases hc
    rw [if_neg hne] at hall
    exact List.all_eq_true.mp hall.2 c (List.mem_cons_of_mem _ hc)
  · rintro rfl
    exact all_fixedChars_zero places

theorem dropZeroSign_of_ne_minus {cs : List Char} (h : cs.head? ≠ some '-') : dropZeroSign cs = cs := by
  unfold dropZeroSign
  split
  · exact absurd rfl h
  · rfl

theorem dropZeroSign_signed (s : Float.Model.UnpackedFloat.Sign) (units places : Nat) :
    dropZeroSign (signChars s ++ Decimal.fixedChars units places) =
      (if units = 0 then [] else signChars s) ++ Decimal.fixedChars units places := by
  cases s with
  | positive =>
    obtain ⟨whole, fraction, h, hchars⟩ := Decimal.positional_fixedChars units places
    rw [signChars, ite_self, List.nil_append, hchars, dropZeroSign_of_ne_minus (head?_ne_minus h _)]
  | negative =>
    rw [signChars, List.singleton_append, dropZeroSign]
    by_cases hunits : units = 0
    · rw [if_pos hunits, if_pos (all_fixedChars_iff.mpr hunits), List.nil_append]
    · rw [if_neg hunits, if_neg (mt all_fixedChars_iff.mp hunits), List.singleton_append]

/-- Numbers with fixed places are signed texts without the minus of a zero. -/
theorem fixed_eq_dropZeroSign (x : Float) (places : Nat) :
    fixed x places = String.ofList (dropZeroSign (signedFixed x places)) := by
  unfold fixed signedFixed
  cases view x with
  | notANumber => rfl
  | infinity s => cases s <;> rfl
  | zero s => exact congrArg String.ofList (dropZeroSign_signed s 0 places).symm
  | finite s m e h => exact congrArg String.ofList (dropZeroSign_signed s _ places).symm

end ZeroSign

/-! ## Numbers with fixed places -/

section Fixed

variable {x y : Float} {a b : ℚ}

/-- A finite double is written as the nearest multiple of the last place. -/
theorem fixed_of_value (ha : value? x = some a) (places : Nat) :
    ∃ k : ℤ, IsNearest (a * 10 ^ places) k ∧ FixedNumeral k places (fixed x places) := by
  rcases view_of_value ha with ⟨rfl, s, hx⟩ | ⟨s, m, e, h, -, hx, rfl⟩
  · have hzero : IsNearest (0 * 10 ^ places) (0 : ℤ) := by
      rw [zero_mul, isNearest_iff]
      norm_num
    have hfixed : fixed x places = String.ofList (Decimal.fixedChars 0 places) := by rw [fixed, hx]
    rw [hfixed]
    exact ⟨0, hzero, fixedNumeral_ofList 0 places⟩
  · have hnearest := isNearest_fixedUnits m e places
    have hfixed : fixed x places = String.ofList ((if fixedUnits m e places = 0 then [] else signChars s) ++
        Decimal.fixedChars (fixedUnits m e places) places) := by rw [fixed, hx]
    generalize fixedUnits m e places = units at hnearest hfixed
    rw [hfixed]
    cases s with
    | positive =>
      refine ⟨units, by rwa [apply_positive], ?_⟩
      have htext := fixedNumeral_ofList units places
      rw [if_neg (by omega), Int.natAbs_natCast] at htext
      rw [signChars, ite_self]
      exact htext
    | negative =>
      refine ⟨-units, by rw [apply_negative, neg_mul]; exact_mod_cast hnearest.neg, ?_⟩
      have htext := fixedNumeral_ofList (-units) places
      rw [Int.natAbs_neg, Int.natAbs_natCast] at htext
      by_cases hunits : units = 0
      · rw [if_neg (by omega)] at htext
        rw [if_pos hunits]
        exact htext
      · rw [if_pos (by omega)] at htext
        rw [if_neg hunits]
        exact htext

/-- Rounding to fixed places keeps order. -/
theorem denoted_fixed_le (ha : value? x = some a) (hb : value? y = some b) (hle : x ≤ y) (places : Nat) :
    denoted (fixed x places) ≤ denoted (fixed y places) := by
  obtain ⟨k, hk, hx⟩ := fixed_of_value ha places
  obtain ⟨l, hl, hy⟩ := fixed_of_value hb places
  have hpow : (0 : ℚ) < 10 ^ places := by positivity
  have hvalues : a * 10 ^ places ≤ b * 10 ^ places :=
    mul_le_mul_of_nonneg_right ((le_iff_of_value ha hb).mp hle) hpow.le
  have hkl : (k : ℚ) ≤ l := Int.cast_le.mpr (hk.mono hl hvalues)
  rw [hx.denoted_eq, hy.denoted_eq]
  exact div_le_div_of_nonneg_right hkl hpow.le

/-- What has no value is not-a-number or an infinity, and written by its name. -/
theorem fixed_of_no_value (hx : value? x = none) (places : Nat) : x = 0 / 0 ∧ fixed x places = "NaN" ∨
    x = 1 / 0 ∧ fixed x places = "inf" ∨ x = -1 / 0 ∧ fixed x places = "-inf" := by
  unfold value? at hx
  cases hv : view x with
  | notANumber =>
    refine .inl ⟨?_, by rw [fixed, hv]; rfl⟩
    rw [← ofView_view x, hv]
    decide
  | infinity s =>
    have hfixed : fixed x places = infinityText s := by rw [fixed, hv]
    rw [hfixed, ← ofView_view x, hv]
    cases s with
    | positive => exact .inr (.inl ⟨by decide, rfl⟩)
    | negative => exact .inr (.inr ⟨by decide, rfl⟩)
  | zero s | finite s m e h =>
    rw [hv] at hx
    cases hx

end Fixed

/-- **Fixed places round correctly.** A finite double is written as digits with exactly the given count of them behind
the point, which stand for the multiple of the last place nearest to the exact value, a tie going to the even multiple;
there is a minus if this multiple is less than zero. A greater double is not written as a less number. What is not
finite is written by its name. All of it is the text with a minus for every negative sign, from which the minus of zeros
is taken. -/
theorem fixed_rounds (x : Float) (places : Nat) :
    (∀ a, value? x = some a → ∃ k : ℤ, IsNearest (a * 10 ^ places) k ∧ FixedNumeral k places (fixed x places) ∧
      denoted (fixed x places) = k / 10 ^ places) ∧
    (∀ y a b, value? x = some a → value? y = some b → x ≤ y →
      denoted (fixed x places) ≤ denoted (fixed y places)) ∧
    (value? x = none → x = 0 / 0 ∧ fixed x places = "NaN" ∨ x = 1 / 0 ∧ fixed x places = "inf" ∨
      x = -1 / 0 ∧ fixed x places = "-inf") ∧
    fixed x places = String.ofList (dropZeroSign (signedFixed x places)) := by
  refine ⟨?_, fun y a b ha hb hle => denoted_fixed_le ha hb hle places, fun hx => fixed_of_no_value hx places,
    fixed_eq_dropZeroSign x places⟩
  intro a ha
  obtain ⟨k, hnearest, htext⟩ := fixed_of_value ha places
  exact ⟨k, hnearest, htext, htext.denoted_eq⟩

example : fixed 0.125 2 = "0.12" ∧ fixed 9.99 1 = "10.0" ∧ fixed (-0.04) 1 = "0.0" := by decide

end Number

end Formula
