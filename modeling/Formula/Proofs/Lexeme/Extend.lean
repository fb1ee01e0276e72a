import Formula.Proofs.Lexeme.TextUnit
import Formula.Proofs.Token.Parens

/-!
# Reading in front of other text

Where a literal or an interpolation ends is decided by the characters up to there, so what stands behind it changes
nothing. No lexeme goes on with a `)`, so a source that is followed by one is read as it is alone. Hence a source can be
read inside an interpolation if it holds no literal that is never closed and its parentheses are balanced.

- `isBracket`: the characters that literals and interpolations are told by.
- `Form.StopsAt`: the characters that no lexeme of a form goes on with.
- `Lexeme.exists_first_append`: a lexeme in front of other text.
- `Lexeme.ReadsLiteral.before`, `Lexeme.ReadsBody.before`: a literal and an interpolation in front of other text.
- `Lexeme.readsBody_split`: a source as an interpolation.
- `Lexeme.readsLiteral_raw`: units of plain text at the front of a literal.
-/

namespace Formula

/-! ## Where lexemes stop -/

/-- Parentheses and quotes: what literals and interpolations are told by. -/
def isBracket (c : Char) : Bool := c = '(' || c = ')' || c = '"'

theorem isBracket_eq_false_iff {c : Char} : isBracket c = false ↔ c ≠ '(' ∧ c ≠ ')' ∧ c ≠ '"' := by
  simp [isBracket, and_assoc]

namespace Form

/-- No lexeme of the form goes on with the character, or over it. -/
def StopsAt (c : Char) : Form → Prop
  | number => c.isDigit = false ∧ c ≠ '.'
  | name => isNameChar c = false
  | blank => isBlank c = false
  | symbol s => s.extend? c = none
  | newline | backslash | unknown => True

/-- No lexeme goes on with a parenthesis or a quote. -/
theorem stopsAt_of_isBracket {c : Char} (h : isBracket c = true) (f : Form) : f.StopsAt c := by
  have hc : c = '(' ∨ c = ')' ∨ c = '"' := by simpa [isBracket, or_assoc] using h
  cases f with
  | number => rcases hc with rfl | rfl | rfl <;> exact ⟨rfl, by decide⟩
  | name =>
    have hname : isNameChar c = false := by rcases hc with rfl | rfl | rfl <;> decide
    exact hname
  | blank =>
    have hblank : isBlank c = false := by rcases hc with rfl | rfl | rfl <;> decide
    exact hblank
  | symbol s =>
    have hs : s.extend? c = none := by rcases hc with rfl | rfl | rfl <;> cases s <;> rfl
    exact hs
  | newline | backslash | unknown => trivial

theorem stopsAt_paren (f : Form) : f.StopsAt ')' := stopsAt_of_isBracket rfl f

section Append

variable {c : Char} (cs x : List Char)

theorem takeWhile_append_cons {p : Char → Bool} (h : p c = false) : (cs ++ c :: x).takeWhile p = cs.takeWhile p := by
  induction cs with
  | nil => simp [h]
  | cons d ds ih => simp [List.takeWhile_cons, ih]

theorem dropWhile_append_cons {p : Char → Bool} (h : p c = false) :
    (cs ++ c :: x).dropWhile p = cs.dropWhile p ++ c :: x := by
  induction cs with
  | nil => simp [h]
  | cons d ds ih =>
    simp only [List.cons_append, List.dropWhile_cons, ih]
    split <;> rfl

theorem numberExtent_append_cons (h : number.StopsAt c) : numberExtent (cs ++ c :: x) = numberExtent cs := by
  obtain ⟨hdigit, hdot⟩ := h
  unfold numberExtent
  rw [takeWhile_append_cons cs x hdigit, dropWhile_append_cons cs x hdigit]
  cases cs.dropWhile Char.isDigit with
  | nil => simp [hdot]
  | cons d ds =>
    by_cases hd : d = '.'
    · subst hd
      simp only [List.cons_append, takeWhile_append_cons ds x hdigit]
    · simp [hd]

/-- In front of a character that stops it, a lexeme is as long as in front of nothing. -/
theorem extent_append_cons {f : Form} (h : f.StopsAt c) : f.extent (cs ++ c :: x) = f.extent cs := by
  cases f with
  | number => exact numberExtent_append_cons cs x h
  | name => exact congrArg List.length (takeWhile_append_cons cs x h)
  | blank => exact congrArg List.length (takeWhile_append_cons cs x h)
  | symbol s =>
    cases cs with
    | nil =>
      have hs : s.extend? c = none := h
      simp [extent, hs]
    | cons d ds => rfl
  | newline | backslash | unknown => cases cs <;> rfl

variable {cs x}

theorem takeWhile_of_length_le {p : Char → Bool} (h : ((cs ++ x).takeWhile p).length ≤ cs.length) :
    (cs ++ x).takeWhile p = cs.takeWhile p := by
  rw [List.takeWhile_append] at h ⊢
  split
  · rename_i hall
    rw [if_pos hall, List.length_append] at h
    have hx : x.takeWhile p = [] := List.length_eq_zero_iff.mp (by omega)
    have hcs : cs.takeWhile p = cs := (List.takeWhile_sublist p).eq_of_length hall
    rw [hx, hcs, List.append_nil]
  · rfl

theorem dropWhile_of_takeWhile {p : Char → Bool} (h : (cs ++ x).takeWhile p = cs.takeWhile p) :
    (cs ++ x).dropWhile p = cs.dropWhile p ++ x := by
  have hboth : cs.takeWhile p ++ (cs ++ x).dropWhile p = cs.takeWhile p ++ (cs.dropWhile p ++ x) := by
    rw [← h, List.takeWhile_append_dropWhile, h, ← List.append_assoc, List.takeWhile_append_dropWhile]
  exact List.append_cancel_left hboth

theorem length_takeWhile_le_numberExtent (cs : List Char) :
    (cs.takeWhile Char.isDigit).length ≤ numberExtent cs := by
  simp only [numberExtent]
  split
  · split <;> omega
  · exact Nat.le_refl _

theorem numberExtent_of_le (h : numberExtent (cs ++ x) ≤ cs.length) : numberExtent (cs ++ x) = numberExtent cs := by
  have hwhole := length_takeWhile_le_numberExtent (cs ++ x)
  have htake := takeWhile_of_length_le (Nat.le_trans hwhole h)
  have hdrop := dropWhile_of_takeWhile htake
  have hlen : (cs.takeWhile Char.isDigit).length + (cs.dropWhile Char.isDigit).length = cs.length := by
    rw [← List.length_append, List.takeWhile_append_dropWhile]
  simp only [numberExtent, htake, hdrop] at h ⊢
  cases hcs : cs.dropWhile Char.isDigit with
  | nil =>
    rw [hcs] at h hlen
    rw [List.nil_append] at h ⊢
    simp only [List.length_nil] at hlen
    split at h
    · split at h
      · simp
      · omega
    · rfl
  | cons d ds =>
    rw [hcs] at h hlen
    simp only [List.cons_append, List.length_cons] at h hlen ⊢
    by_cases hd : d = '.'
    · subst hd
      -- the digits behind the point end in front of `x`, or the number would
      have hfraction : ((ds ++ x).takeWhile Char.isDigit).length ≤ ds.length := by
        cases hn : ((ds ++ x).takeWhile Char.isDigit).length with
        | zero => exact Nat.zero_le _
        | succ n =>
          simp only [hn] at h
          omega
      simp only [takeWhile_of_length_le hfraction]
    · simp [hd]

/-- A lexeme that ends within a text is as long as if nothing stood behind that text. -/
theorem extent_of_le {f : Form} (h : f.extent (cs ++ x) ≤ cs.length) : f.extent (cs ++ x) = f.extent cs := by
  cases f with
  | number => exact numberExtent_of_le h
  | name => exact congrArg List.length (takeWhile_of_length_le h)
  | blank => exact congrArg List.length (takeWhile_of_length_le h)
  | symbol s =>
    cases cs with
    | nil => exact Nat.le_zero.mp h
    | cons d ds => rfl
  | newline | backslash | unknown => cases cs <;> cases x <;> rfl

end Append

/-- A lexeme holds no character that stops its form. -/
theorem not_mem_take_extent {f : Form} {c : Char} (h : f.StopsAt c) (cs : List Char) : c ∉ cs.take (f.extent cs) := by
  by_cases hc : c ∈ cs
  · obtain ⟨us, vs, rfl, hus⟩ := List.eq_append_cons_of_mem hc
    rw [extent_append_cons us vs h, List.take_append_of_le_length (extent_le f us)]
    exact fun hmem => hus (List.mem_of_mem_take hmem)
  · exact fun hmem => hc (List.mem_of_mem_take hmem)

end Form

namespace Lexeme

/-- A lexeme that starts with no bracket holds none. -/
theorem isBracket_of_mem_first {c : Char} (h : isBracket c = false) (cs : List Char) :
    ∀ d ∈ (first c cs).chars, isBracket d = false := by
  intro d hd
  rcases List.mem_cons.mp hd with rfl | hd
  · exact h
  · exact Bool.eq_false_iff.mpr fun hb => Form.not_mem_take_extent (Form.stopsAt_of_isBracket hb _) cs hd

/-- A lexeme and some text behind it are as long as they are whatever follows that text. -/
theorem extent_take_append {c : Char} {cs us x : List Char} (h : after c cs = us ++ x) :
    extent c (cs.take (extent c cs) ++ us) = extent c cs := by
  have hcs : cs = (cs.take (extent c cs) ++ us) ++ x := by
    rw [List.append_assoc, ← h]
    exact (List.take_append_drop _ cs).symm
  have hlen : (cs.take (extent c cs)).length = extent c cs := List.length_take_of_le (Form.extent_le _ cs)
  have hfits : extent c ((cs.take (extent c cs) ++ us) ++ x) ≤ (cs.take (extent c cs) ++ us).length := by
    rw [← hcs, List.length_append]
    omega
  calc extent c (cs.take (extent c cs) ++ us)
      = extent c ((cs.take (extent c cs) ++ us) ++ x) := (Form.extent_of_le hfits).symm
    _ = extent c cs := by rw [← hcs]

/-- Where the text of a lexeme is a lexeme in front of other text, it is the same one. -/
theorem first_take_append {c : Char} {cs us : List Char}
    (h : extent c (cs.take (extent c cs) ++ us) = extent c cs) :
    first c (cs.take (extent c cs) ++ us) = first c cs ∧ after c (cs.take (extent c cs) ++ us) = us := by
  have hlen : (cs.take (extent c cs)).length = extent c cs := List.length_take_of_le (Form.extent_le _ cs)
  have htake : (cs.take (extent c cs) ++ us).take (extent c cs) = cs.take (extent c cs) := List.take_left' hlen
  constructor
  · simp only [first, h, htake]
  · rw [after, h, List.drop_left' hlen]

/-- A lexeme and some text behind it are the same where nothing follows. -/
theorem exists_first_end {c : Char} {cs us x : List Char} (h : after c cs = us ++ x) :
    ∃ ds, (first c cs).chars ++ us = c :: ds ∧ first c ds = first c cs ∧ after c ds = us :=
  ⟨_, rfl, first_take_append (extent_take_append h)⟩

/-- A lexeme and some text behind it stand in front of a character that stops the lexeme: then the lexeme and that text
are the same whatever follows. -/
theorem exists_first_append {c d : Char} (hd : (Form.ofChar c).StopsAt d) {cs us x : List Char}
    (h : after c cs = us ++ x) (y : List Char) :
    ∃ ds, (first c cs).chars ++ (us ++ d :: y) = c :: ds ∧ first c ds = first c cs ∧ after c ds = us ++ d :: y := by
  have hext : extent c (cs.take (extent c cs) ++ (us ++ d :: y)) = extent c cs := by
    rw [← List.append_assoc, extent, Form.extent_append_cons _ _ hd]
    exact extent_take_append h
  exact ⟨_, rfl, first_take_append hext⟩

end Lexeme

/-! ## Other text behind a literal -/

namespace PlainText

/-- A run of plain text that ends ends alike in front of all that ends one. -/
theorem extent_append_of_ends {run cs ds : List Char} (hcs : cs ≠ []) (h : extent (run ++ cs) = run.length)
    (hds : extent ds = 0) : extent (run ++ ds) = run.length := by
  obtain ⟨us, rfl⟩ := exists_units hcs h
  rw [extent_raw_append, hds, Nat.add_zero]

end PlainText

namespace Lexeme

/-- Where no plain text starts a literal, its first lexeme ends plain text. -/
theorem ReadsLiteral.extent_head {cs : List Char} {l : Lexeme} {ls : List Lexeme} {r : List Char}
    (h : ReadsLiteral cs (l :: ls) r) (hz : PlainText.extent cs = 0) (x : List Char) :
    PlainText.extent (l.chars ++ x) = 0 := by
  cases h with
  | close => rfl
  | text hrun hext _ => exact absurd (List.length_eq_zero_iff.mp (hext.symm.trans hz)) hrun
  | interpolation hb hl => rfl

theorem ReadsLiteral.exists_cons {cs : List Char} {ls : List Lexeme} {r : List Char} (h : ReadsLiteral cs ls r) :
    ∃ l ls', ls = l :: ls' := by
  cases h <;> exact ⟨_, _, rfl⟩

theorem text_literal (inner ls : List Lexeme) :
    text (stringStart :: inner ++ ls) = '"' :: (text inner ++ text ls) := by
  simp [stringStart]

section Parts

variable {inner ls : List Lexeme}

/-- A literal that starts with an interpolation is read alike in front of all text if its parts are, -/
theorem readsLiteral_interpolation (hb : ∀ x, ReadsBody 0 (text inner ++ ')' :: x) inner x)
    (hl : ∀ x, ReadsLiteral (text ls ++ x) ls x) (x : List Char) :
    ReadsLiteral (text (interpolationStart :: inner ++ interpolationEnd :: ls) ++ x)
      (interpolationStart :: inner ++ interpolationEnd :: ls) x := by
  have htext : text (interpolationStart :: inner ++ interpolationEnd :: ls) ++ x =
      '\\' :: '(' :: (text inner ++ ')' :: (text ls ++ x)) := by
    simp [interpolationStart, interpolationEnd]
  rw [htext]
  exact .interpolation (hb _) (hl x)

/-- and so is an interpolation that starts with a literal. -/
theorem readsBody_literal {d : Nat} (hl : ∀ x, ReadsLiteral (text inner ++ x) inner x)
    (hb : ∀ x, ReadsBody d (text ls ++ ')' :: x) ls x) (x : List Char) :
    ReadsBody d (text (stringStart :: inner ++ ls) ++ ')' :: x) (stringStart :: inner ++ ls) x := by
  rw [text_literal, List.cons_append, List.append_assoc]
  exact .literal (hl _) (hb x)

end Parts

mutual

/-- A literal is read alike in front of all text, -/
theorem ReadsLiteral.before : ∀ {cs : List Char} {ls : List Lexeme} {r : List Char}, ReadsLiteral cs ls r →
    ∀ x, ReadsLiteral (Lexeme.text ls ++ x) ls x
  | _, _, _, .close, _ => .close
  | _, _, _, @ReadsLiteral.text run cs ls r h h' hl, x => by
    have hnext : PlainText.extent (Lexeme.text ls ++ x) = 0 := by
      obtain ⟨l, ls', rfl⟩ := hl.exists_cons
      rw [text_cons, List.append_assoc]
      exact hl.extent_head (PlainText.extent_of_run h') _
    rw [text_cons, List.append_assoc]
    exact .text h (PlainText.extent_append_of_ends hl.ne_nil h' hnext) (hl.before x)
  | _, _, _, .interpolation hb hl, x => readsLiteral_interpolation hb.before hl.before x

/-- and so is an interpolation. -/
theorem ReadsBody.before : ∀ {d : Nat} {cs : List Char} {ls : List Lexeme} {r : List Char}, ReadsBody d cs ls r →
    ∀ x, ReadsBody d (Lexeme.text ls ++ ')' :: x) ls x
  | _, _, _, _, .close, _ => .close
  | _, _, _, _, .literal hl hb, x => readsBody_literal hl.before hb.before x
  | _, _, _, _, @ReadsBody.other d c cs ls r h h' hb, x => by
    obtain ⟨ds, hds, hfirst, hafter⟩ := exists_first_append (Form.stopsAt_paren _) hb.text_append.symm x
    have hrest := hb.before x
    rw [text_cons, List.append_assoc, hds, ← hfirst]
    exact .other h h' (hafter ▸ hrest)

end

/-- More text may follow a literal. -/
theorem ReadsLiteral.append {cs : List Char} {ls : List Lexeme} {r : List Char} (h : ReadsLiteral cs ls r)
    (x : List Char) : ReadsLiteral (cs ++ x) ls (r ++ x) := by
  rw [← h.text_append, List.append_assoc]
  exact h.before (r ++ x)

/-! ## A source as an interpolation -/

/-- A source is read as it is alone, up to the `)` behind it. -/
theorem readsBody_split (x : List Char) {cs : List Char} (hc : ∀ l ∈ split cs, ¬ l.Unclosed) :
    ∀ {d : Nat}, Kind.depthBehind d ((split cs).map (·.kind)) = some 0 →
      ReadsBody d (cs ++ ')' :: x) (split cs) x := by
  induction cs using split_induction with
  | nil =>
    intro d hd
    obtain rfl : d = 0 := by simpa using hd
    rw [split_nil]
    exact .close
  | literal cs ls r hl ih =>
    intro d hd
    rw [split_literal hl.literal?] at hc hd ⊢
    have hrest : ∀ l ∈ split r, ¬ l.Unclosed := fun l h => hc l (List.mem_append_right _ h)
    rw [List.map_append, Kind.depthBehind_append, (balanced_stringStart hl.balanced).depthBehind] at hd
    exact .literal (hl.append _) (ih hrest hd)
  | unclosed cs hl =>
    rw [split_unclosed hl] at hc
    exact absurd ⟨rfl, rfl⟩ (hc _ List.mem_cons_self)
  | other c cs hq ih =>
    intro d hd
    rw [split_other cs hq] at hc hd ⊢
    have hrest : ∀ l ∈ split (after c cs), ¬ l.Unclosed := fun l h => hc l (List.mem_cons_of_mem _ h)
    -- a `)` at depth zero would close what is not open
    have hopen : ¬(c = ')' ∧ d = 0) := by
      rintro ⟨rfl, rfl⟩
      rw [first_rightParen] at hd
      cases hd
    rw [List.map_cons, depthBehind_first cs _ hopen] at hd
    obtain ⟨ds, hds, hfirst, hafter⟩ :=
      exists_first_append (Form.stopsAt_paren (Form.ofChar c)) (List.append_nil (after c cs)).symm x
    rw [← List.append_assoc, first_append_after, List.cons_append] at hds
    obtain rfl : cs ++ ')' :: x = ds := (List.cons.inj hds).2
    rw [List.cons_append, ← hfirst]
    exact .other hopen hq (hafter ▸ ih hrest hd)

end Lexeme

/-! ## Texts without escapes -/

/-- The text stands for itself in a string literal. -/
def PlainText.Verbatim (cs : List Char) : Prop := ∀ c ∈ cs, c ≠ '"' ∧ c ≠ '\\'

namespace PlainText

instance (cs : List Char) : Decidable (Verbatim cs) := List.decidableBAll (fun c => c ≠ '"' ∧ c ≠ '\\') cs

/-- A text that needs no escapes is written in units that stand for themselves. -/
theorem Verbatim.exists_units {cs : List Char} (h : Verbatim cs) : ∃ us, raw us = cs ∧ meaning us = cs := by
  induction cs with
  | nil => exact ⟨[], rfl, rfl⟩
  | cons c cs ih =>
    obtain ⟨hc, hcs⟩ := List.forall_mem_cons.mp h
    obtain ⟨us, hraw, hmeaning⟩ := ih hcs
    exact ⟨.char c hc :: us, congrArg (List.cons c) hraw, congrArg (List.cons c) hmeaning⟩

end PlainText

namespace Lexeme

/-- The lexemes of a text in a string literal. -/
def textRun (cs : List Char) : List Lexeme := if cs = [] then [] else [plaintext cs]

theorem text_textRun (cs : List Char) : text (textRun cs) = cs := by
  unfold textRun
  split <;> simp [*, plaintext]

/-- The lexemes of some units: one with what they stand for, if there are any. -/
def chunk (us : List TextUnit) : List Lexeme :=
  if us = [] then [] else [⟨.plaintext (String.ofList (PlainText.meaning us)), PlainText.raw us⟩]

theorem chunk_eq_textRun (us : List TextUnit) : chunk us = textRun (PlainText.raw us) := by
  unfold chunk textRun
  by_cases h : us = []
  · subst h
    rfl
  · rw [if_neg h, if_neg (PlainText.raw_ne_nil h), plaintext, PlainText.decode_raw]

/-- Units of plain text may stand in front of what ends a run of it. -/
theorem readsLiteral_raw (us : List TextUnit) {cs : List Char} {ls : List Lexeme} {r : List Char}
    (hcs : PlainText.extent cs = 0) (hl : ReadsLiteral cs ls r) :
    ReadsLiteral (PlainText.raw us ++ cs) (textRun (PlainText.raw us) ++ ls) r := by
  unfold textRun
  split
  · rename_i h
    rw [h]
    exact hl
  · rename_i h
    exact .text h (by rw [PlainText.extent_raw_append, hcs, Nat.add_zero]) hl

/-- A text that needs no escapes may stand in front of what ends a run of plain text. -/
theorem readsLiteral_verbatim {p cs : List Char} {ls : List Lexeme} {r : List Char} (hp : PlainText.Verbatim p)
    (hcs : PlainText.extent cs = 0) (hl : ReadsLiteral cs ls r) : ReadsLiteral (p ++ cs) (textRun p ++ ls) r := by
  obtain ⟨us, rfl, -⟩ := hp.exists_units
  exact readsLiteral_raw us hcs hl

end Lexeme

end Formula
