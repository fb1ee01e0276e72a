import Formula.Lexeme.PlainText

/-!
# Units of plain text

Plain text is written in units: a character that is neither `"` nor `\`, or a backslash with any character but `(`. The
units are read one behind the other, each on its own, so what a text stands for is what its units stand for.

- `TextUnit.raw`, `TextUnit.meaning`: how a unit is written, and what it stands for.
- `PlainText.extent_raw_append`: plain text goes on over units.
- `PlainText.exists_units`: a run of plain text is written in units.
- `PlainText.decode_raw`: units are decoded to what they stand for.
- `PlainText.exists_units_of_text`: every text can be written, by `PlainText.encode`.
-/

namespace Formula

/-- A unit of plain text. -/
inductive TextUnit where
  /-- A character that stands for itself. -/
  | char (c : Char) (h : c ≠ '"' ∧ c ≠ '\\')
  /-- A backslash and the character behind it. -/
  | escape (c : Char) (h : c ≠ '(')

namespace TextUnit

/-- The escapes of one character: what is behind the backslash, and what they stand for. -/
def escapes : List (Char × Char) := [('"', '"'), ('\\', '\\'), ('n', '\n'), ('t', '\t'), ('r', '\r')]

/-- How the unit is written. -/
def raw : TextUnit → List Char
  | char c _ => [c]
  | escape c _ => ['\\', c]

/-- What the unit stands for. Escapes that are not in the table stand for themselves. -/
def meaning : TextUnit → List Char
  | char c _ => [c]
  | escape c _ => match escapes.lookup c with
    | some d => [d]
    | none => ['\\', c]

/-- The unit that stands for a character. -/
def ofChar (c : Char) : TextUnit :=
  if h : c = '"' ∨ c = '\\' then escape c (by rcases h with rfl | rfl <;> decide) else char c (not_or.mp h)

theorem meaning_ofChar (c : Char) : (ofChar c).meaning = [c] := by
  unfold ofChar
  split
  · rename_i h
    rcases h with rfl | rfl <;> rfl
  · rfl

theorem meaning_escape {c : Char} (h : c ≠ '(') : (escape c h).meaning = PlainText.decodeEscape c := by
  unfold PlainText.decodeEscape
  split
  · rfl
  · rfl
  · rfl
  · rfl
  · rfl
  · rename_i hquote hslash hn ht hr
    have hnone : escapes.lookup c = none := by
      rw [List.lookup_eq_none_iff]
      simpa [escapes] using ⟨hquote, hslash, hn, ht, hr⟩
    rw [meaning, hnone]

variable (u : TextUnit) (cs : List Char)

theorem raw_ne_nil : u.raw ≠ [] := by cases u <;> simp [raw]

/-- Plain text goes on over a unit. -/
theorem extent_raw_append : PlainText.extent (u.raw ++ cs) = u.raw.length + PlainText.extent cs := by
  cases u with
  | char c h =>
    obtain ⟨hquote, hslash⟩ := h
    rw [raw, List.singleton_append, PlainText.extent, List.length_singleton, Nat.add_comm]
    · exact hquote
    · exact fun _ hc => absurd hc hslash
    · exact fun _ _ hc => absurd hc hslash
  | escape c h =>
    rw [raw, List.cons_append, List.singleton_append, PlainText.extent, Nat.add_comm]
    · rfl
    · exact h

/-- A unit is decoded on its own. -/
theorem decode_raw_append : PlainText.decode (u.raw ++ cs) = u.meaning ++ PlainText.decode cs := by
  cases u with
  | char c h =>
    obtain ⟨-, hslash⟩ := h
    rw [raw, List.singleton_append, PlainText.decode, meaning, List.singleton_append]
    exact fun _ _ hc => absurd hc hslash
  | escape c h => rw [raw, List.cons_append, List.singleton_append, PlainText.decode, meaning_escape]

end TextUnit

namespace PlainText

/-- How some units are written. -/
def raw (us : List TextUnit) : List Char := us.flatMap TextUnit.raw

/-- What some units stand for. -/
def meaning (us : List TextUnit) : List Char := us.flatMap TextUnit.meaning

@[simp] theorem raw_nil : raw [] = [] := rfl

@[simp] theorem raw_cons (u : TextUnit) (us : List TextUnit) : raw (u :: us) = u.raw ++ raw us := rfl

@[simp] theorem meaning_nil : meaning [] = [] := rfl

@[simp] theorem meaning_cons (u : TextUnit) (us : List TextUnit) : meaning (u :: us) = u.meaning ++ meaning us := rfl

theorem raw_ne_nil {us : List TextUnit} (h : us ≠ []) : raw us ≠ [] := by
  obtain ⟨u, us, rfl⟩ := List.exists_cons_of_ne_nil h
  simp [u.raw_ne_nil]

/-- Plain text goes on over units. -/
theorem extent_raw_append (us : List TextUnit) (cs : List Char) :
    extent (raw us ++ cs) = (raw us).length + extent cs := by
  induction us with
  | nil => simp
  | cons u us ih => rw [raw_cons, List.append_assoc, u.extent_raw_append, ih, List.length_append, Nat.add_assoc]

/-- Units are decoded to what they stand for. -/
theorem decode_raw (us : List TextUnit) : decode (raw us) = meaning us := by
  induction us with
  | nil => rfl
  | cons u us ih => rw [raw_cons, u.decode_raw_append, ih, meaning_cons]

/-- A run of plain text that ends is written in units. -/
theorem exists_units {run cs : List Char} (hcs : cs ≠ []) (h : extent (run ++ cs) = run.length) :
    ∃ us, raw us = run := by
  fun_induction extent run with
  | case1 | case2 => simp [extent] at h
  | case3 c run hc ih =>
    have hne : c ≠ '(' := fun hp => hc hp
    have hunit := (TextUnit.escape c hne).extent_raw_append (run ++ cs)
    rw [TextUnit.raw, List.cons_append, List.singleton_append] at hunit
    rw [List.cons_append, List.cons_append, hunit] at h
    simp only [List.length_cons, List.length_nil] at h
    obtain ⟨us, rfl⟩ := ih (by omega)
    exact ⟨.escape c hne :: us, rfl⟩
  | case4 c run hq hi hb ih =>
    have hslash : c ≠ '\\' := by
      rintro rfl
      cases run with
      | nil =>
        -- a last backslash would take the next character with it
        obtain ⟨e, es, rfl⟩ := List.exists_cons_of_ne_nil hcs
        by_cases he : e = '('
        · simp [he, extent] at h
        · rw [List.singleton_append, extent] at h
          · simp at h
          · exact fun hp => he hp
      | cons d run => exact hb d run rfl rfl
    have hunit := (TextUnit.char c ⟨hq, hslash⟩).extent_raw_append (run ++ cs)
    rw [TextUnit.raw, List.singleton_append] at hunit
    rw [List.cons_append, hunit] at h
    simp only [List.length_cons, List.length_nil] at h
    obtain ⟨us, rfl⟩ := ih (by omega)
    exact ⟨.char c ⟨hq, hslash⟩ :: us, rfl⟩
  | case5 => exact ⟨[], rfl⟩

/-- Every text can be written. -/
theorem exists_units_of_text (cs : List Char) : ∃ us, raw us = encode cs ∧ meaning us = cs := by
  induction cs with
  | nil => exact ⟨[], rfl, rfl⟩
  | cons c cs ih =>
    obtain ⟨us, hraw, hmeaning⟩ := ih
    refine ⟨.ofChar c :: us, ?_, ?_⟩
    · rw [raw_cons, hraw, encode, TextUnit.ofChar]
      split <;> rfl
    · rw [meaning_cons, TextUnit.meaning_ofChar, hmeaning, List.singleton_append]

end PlainText

end Formula
