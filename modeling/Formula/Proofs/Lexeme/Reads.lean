import Formula.Lexeme.Split

/-!
# How literals and interpolations are read

The two readers as relations between the characters in front of them, the lexemes they give and the characters they
leave, one constructor a case. Statements about a literal are proved by recursion on how it was read, statements about
a whole source by `Lexeme.split_induction`.

- `Lexeme.literal?_eq_some_iff`: the relation is the reader.
- `Lexeme.text_split`: nothing is lost, the lexemes put together are the source.
- `Lexeme.forall_mem_split`: what holds of all lexemes of a source.
- `Lexeme.occurs_or_unclosed`: what the lexemes of a source can be.
-/

namespace Formula

/-! ## Runs of plain text -/

namespace PlainText

/-- Behind an opening quote there is nothing, a closing quote, an interpolation or plain text. -/
theorem cases_extent (cs : List Char) :
    cs = [] ∨ (∃ ds, cs = '"' :: ds) ∨ (∃ ds, cs = '\\' :: '(' :: ds) ∨ 0 < extent cs := by
  fun_cases extent cs <;> simp_all

theorem extent_drop_extent (cs : List Char) : extent (cs.drop (extent cs)) = 0 := by
  fun_induction extent cs with
  | case1 | case2 | case5 => simp [extent]
  | case3 c cs hc ih => simpa using ih
  | case4 c cs hq hi hb ih => simpa using ih

/-- Where a run of plain text ends, no other starts. -/
theorem extent_of_run {run cs : List Char} (h : extent (run ++ cs) = run.length) : extent cs = 0 := by
  have hdrop := extent_drop_extent (run ++ cs)
  rwa [h, List.drop_left] at hdrop

theorem decode_ne_nil {cs : List Char} (h : cs ≠ []) : decode cs ≠ [] := by
  fun_cases decode cs with
  | case1 c cs =>
    unfold decodeEscape
    split <;> simp
  | case2 => simp
  | case3 => exact absurd rfl h

end PlainText

namespace Lexeme

/-- Plain text is one lexeme. -/
theorem literal?_plaintext {cs : List Char} (h : 0 < PlainText.extent cs) : literal? cs =
    (literal? (cs.drop (PlainText.extent cs))).map fun q =>
      (plaintext (cs.take (PlainText.extent cs)) :: q.1, q.2) := by
  fun_cases PlainText.extent cs with
  | case1 | case2 | case5 => simp [PlainText.extent] at h
  | case3 c cs hc => simp [literal?_escape c cs hc]
  | case4 c cs hq hi hb =>
    have hcs : c = '\\' → cs = [] := fun hc => by
      cases cs with
      | nil => rfl
      | cons d ds => exact (hb d ds hc rfl).elim
    simp [literal?_char c cs hq hcs]

/-! ## The readers as relations -/

mutual

/-- Behind an opening quote, the characters are a literal of these lexemes, and the others are left. -/
inductive ReadsLiteral : List Char → List Lexeme → List Char → Prop
  | close {r : List Char} : ReadsLiteral ('"' :: r) [stringEnd] r
  | text {run cs : List Char} {ls : List Lexeme} {r : List Char} (h : run ≠ [])
      (h' : PlainText.extent (run ++ cs) = run.length) : ReadsLiteral cs ls r →
      ReadsLiteral (run ++ cs) (plaintext run :: ls) r
  | interpolation {cs mid : List Char} {inner ls : List Lexeme} {r : List Char} : ReadsBody 0 cs inner mid →
      ReadsLiteral mid ls r → ReadsLiteral ('\\' :: '(' :: cs) (interpolationStart :: inner ++ interpolationEnd :: ls) r

/-- At a depth of parentheses, the characters are the rest of an interpolation of these lexemes, and the others are
left behind its `)`. -/
inductive ReadsBody : Nat → List Char → List Lexeme → List Char → Prop
  | close {r : List Char} : ReadsBody 0 (')' :: r) [] r
  | literal {d : Nat} {cs mid : List Char} {inner ls : List Lexeme} {r : List Char} : ReadsLiteral cs inner mid →
      ReadsBody d mid ls r → ReadsBody d ('"' :: cs) (stringStart :: inner ++ ls) r
  | other {d : Nat} {c : Char} {cs : List Char} {ls : List Lexeme} {r : List Char} (h : ¬(c = ')' ∧ d = 0))
      (h' : c ≠ '"') : ReadsBody (depthAfter d c) (after c cs) ls r → ReadsBody d (c :: cs) (first c cs :: ls) r

end

mutual

theorem ReadsLiteral.literal? : ∀ {cs : List Char} {ls : List Lexeme} {r : List Char}, ReadsLiteral cs ls r →
    Lexeme.literal? cs = some (ls, r)
  | _, _, _, .close => literal?_quote _
  | _, _, _, .text h h' hl => by
    rw [literal?_plaintext (by rw [h']; exact List.length_pos_iff.mpr h), h']
    simp [hl.literal?]
  | _, _, _, .interpolation hb hl => by simp [literal?_interpolation, hb.body?, hl.literal?]

theorem ReadsBody.body? : ∀ {d : Nat} {cs : List Char} {ls : List Lexeme} {r : List Char}, ReadsBody d cs ls r →
    Lexeme.body? d cs = some (ls, r)
  | _, _, _, _, .close => body?_close _
  | _, _, _, _, .literal hl hb => by simp [body?_quote, hb.body?, hl.literal?]
  | _, _, _, _, .other h h' hb => by simp [body?_other _ _ _ h h', hb.body?]

end

section Step

variable {n : Nat} (ihl : ∀ cs ls r, cs.length < n → literal? cs = some (ls, r) → ReadsLiteral cs ls r)
  (ihb : ∀ d cs ls r, cs.length < n → body? d cs = some (ls, r) → ReadsBody d cs ls r)

include ihl ihb

/-- A literal is read as the relation says, if all that is shorter is. -/
theorem readsLiteral_step {cs : List Char} {ls : List Lexeme} {r : List Char} (hn : cs.length < n + 1)
    (h : literal? cs = some (ls, r)) : ReadsLiteral cs ls r := by
  rcases PlainText.cases_extent cs with rfl | ⟨ds, rfl⟩ | ⟨ds, rfl⟩ | hp
  · simp at h
  · simp only [literal?_quote, Option.some.injEq, Prod.mk.injEq] at h
    obtain ⟨rfl, rfl⟩ := h
    exact .close
  · rw [literal?_interpolation] at h
    obtain ⟨⟨inner, mid⟩, hb, h⟩ := Option.bind_eq_some_iff.mp h
    obtain ⟨⟨outer, r'⟩, hl, he⟩ := Option.map_eq_some_iff.mp h
    obtain ⟨rfl, rfl⟩ := Prod.mk.inj he
    dsimp only at hl
    have := length_of_body? hb
    simp only [List.length_cons] at hn
    exact .interpolation (ihb _ _ _ _ (by omega) hb) (ihl _ _ _ (by omega) hl)
  · rw [literal?_plaintext hp] at h
    obtain ⟨⟨outer, r'⟩, hl, he⟩ := Option.map_eq_some_iff.mp h
    obtain ⟨rfl, rfl⟩ := Prod.mk.inj he
    have hle := PlainText.extent_le cs
    have hlen : (cs.take (PlainText.extent cs)).length = PlainText.extent cs := by simp [hle]
    have hread := ihl _ _ _ (by rw [List.length_drop]; omega) hl
    have hne : cs.take (PlainText.extent cs) ≠ [] := by
      rw [← List.length_pos_iff, hlen]
      exact hp
    have := ReadsLiteral.text hne (by rw [List.take_append_drop, hlen]) hread
    rwa [List.take_append_drop] at this

/-- An interpolation is read as the relation says, if all that is shorter is. -/
theorem readsBody_step {d : Nat} {cs : List Char} {ls : List Lexeme} {r : List Char} (hn : cs.length < n + 1)
    (h : body? d cs = some (ls, r)) : ReadsBody d cs ls r := by
  cases cs with
  | nil => simp at h
  | cons c cs =>
    simp only [List.length_cons] at hn
    by_cases hc : c = ')' ∧ d = 0
    · obtain ⟨rfl, rfl⟩ := hc
      simp only [body?_close, Option.some.injEq, Prod.mk.injEq] at h
      obtain ⟨rfl, rfl⟩ := h
      exact .close
    by_cases hq : c = '"'
    · subst hq
      rw [body?_quote] at h
      obtain ⟨⟨inner, mid⟩, hl, h⟩ := Option.bind_eq_some_iff.mp h
      obtain ⟨⟨outer, r'⟩, hb, he⟩ := Option.map_eq_some_iff.mp h
      obtain ⟨rfl, rfl⟩ := Prod.mk.inj he
      dsimp only at hb
      have := length_of_literal? hl
      exact .literal (ihl _ _ _ (by omega) hl) (ihb _ _ _ _ (by omega) hb)
    · rw [body?_other c cs d hc hq] at h
      obtain ⟨⟨outer, r'⟩, hb, he⟩ := Option.map_eq_some_iff.mp h
      obtain ⟨rfl, rfl⟩ := Prod.mk.inj he
      have := length_after_le c cs
      exact .other hc hq (ihb _ _ _ _ (by omega) hb)

end Step

/-- By recursion on the count of characters: each reader hands the other what is left. -/
theorem reads_of_length (n : Nat) :
    (∀ cs ls r, cs.length < n → literal? cs = some (ls, r) → ReadsLiteral cs ls r) ∧
      ∀ d cs ls r, cs.length < n → body? d cs = some (ls, r) → ReadsBody d cs ls r := by
  induction n with
  | zero => simp
  | succ n ih =>
    obtain ⟨ihl, ihb⟩ := ih
    exact ⟨fun _ _ _ => readsLiteral_step ihl ihb, fun _ _ _ _ => readsBody_step ihl ihb⟩

theorem literal?_eq_some_iff {cs : List Char} {ls : List Lexeme} {r : List Char} :
    literal? cs = some (ls, r) ↔ ReadsLiteral cs ls r :=
  ⟨(reads_of_length (cs.length + 1)).1 _ _ _ (Nat.lt_succ_self _), ReadsLiteral.literal?⟩

/-! ## Whole sources -/

/-- A source is empty, or starts with a literal, with a quote that opens none, or with another lexeme. -/
@[elab_as_elim]
theorem split_induction {motive : List Char → Prop} (nil : motive [])
    (literal : ∀ cs ls r, ReadsLiteral cs ls r → motive r → motive ('"' :: cs))
    (unclosed : ∀ cs, literal? cs = none → motive ('"' :: cs))
    (other : ∀ c cs, c ≠ '"' → motive (after c cs) → motive (c :: cs)) (cs : List Char) : motive cs := by
  induction h : cs.length using Nat.strongRecOn generalizing cs with
  | _ n ih =>
    subst h
    cases cs with
    | nil => exact nil
    | cons c cs =>
      by_cases hq : c = '"'
      · subst hq
        cases hl : literal? cs with
        | none => exact unclosed cs hl
        | some p =>
          obtain ⟨ls, r⟩ := p
          have := length_of_literal? hl
          exact literal cs ls r (literal?_eq_some_iff.mp hl) (ih r.length (by simp; omega) r rfl)
      · have := length_after_le c cs
        exact other c cs hq (ih (after c cs).length (by simp; omega) _ rfl)

/-! ## Nothing is lost -/

mutual

theorem ReadsLiteral.text_append : ∀ {cs : List Char} {ls : List Lexeme} {r : List Char}, ReadsLiteral cs ls r →
    Lexeme.text ls ++ r = cs
  | _, _, _, .close => by simp [stringEnd]
  | _, _, _, .text _ _ hl => by simp [plaintext, hl.text_append]
  | _, _, _, .interpolation hb hl => by
    simp [interpolationStart, interpolationEnd, hl.text_append, hb.text_append]

theorem ReadsBody.text_append : ∀ {d : Nat} {cs : List Char} {ls : List Lexeme} {r : List Char},
    ReadsBody d cs ls r → Lexeme.text ls ++ ')' :: r = cs
  | _, _, _, _, .close => rfl
  | _, _, _, _, .literal hl hb => by simp [stringStart, hb.text_append, hl.text_append]
  | _, _, _, _, .other _ _ hb => by simp [hb.text_append, first_append_after]

end

/-- The lexemes of a source put together are the source. -/
theorem text_split (cs : List Char) : text (split cs) = cs := by
  induction cs using split_induction with
  | nil => simp
  | literal cs ls r hl ih => simp [split_literal hl.literal?, stringStart, ih, hl.text_append]
  | unclosed cs hl => simp [split_unclosed hl, trivia]
  | other c cs hc ih => simp [split_other cs hc, ih, first_append_after]

/-! ## What occurs -/

theorem ReadsLiteral.ne_nil {cs : List Char} {ls : List Lexeme} {r : List Char} (h : ReadsLiteral cs ls r) :
    cs ≠ [] := by
  cases h with
  | text h => simp [h]
  | _ => simp

/-- The property holds of all that a literal can be read as. -/
structure HoldsInside (P : Lexeme → Prop) : Prop where
  stringStart : P stringStart
  stringEnd : P stringEnd
  interpolationStart : P interpolationStart
  interpolationEnd : P interpolationEnd
  plaintext : ∀ {run cs : List Char}, run ≠ [] → cs ≠ [] → PlainText.extent (run ++ cs) = run.length →
    P (plaintext run)
  first : ∀ {c : Char} {cs : List Char}, c ≠ '"' → P (first c cs)

section Forall

variable {P : Lexeme → Prop} (hP : HoldsInside P)

include hP

mutual

theorem ReadsLiteral.forall_mem : ∀ {cs : List Char} {ls : List Lexeme} {r : List Char}, ReadsLiteral cs ls r →
    ∀ l ∈ ls, P l
  | _, _, _, .close => List.forall_mem_singleton.mpr hP.stringEnd
  | _, _, _, .text h h' hl => List.forall_mem_cons.mpr ⟨hP.plaintext h hl.ne_nil h', hl.forall_mem⟩
  | _, _, _, .interpolation hb hl => by
    simp only [List.cons_append, List.mem_cons, List.mem_append]
    rintro l (rfl | h | rfl | h)
    · exact hP.interpolationStart
    · exact hb.forall_mem l h
    · exact hP.interpolationEnd
    · exact hl.forall_mem l h

theorem ReadsBody.forall_mem : ∀ {d : Nat} {cs : List Char} {ls : List Lexeme} {r : List Char}, ReadsBody d cs ls r →
    ∀ l ∈ ls, P l
  | _, _, _, _, .close => by simp
  | _, _, _, _, .literal hl hb => by
    simp only [List.cons_append, List.mem_cons, List.mem_append]
    rintro l (rfl | h | h)
    · exact hP.stringStart
    · exact hl.forall_mem l h
    · exact hb.forall_mem l h
  | _, _, _, _, .other _ h hb => List.forall_mem_cons.mpr ⟨hP.first h, hb.forall_mem⟩

end

/-- What holds inside of literals and of those that are never closed holds of all lexemes of a source. -/
theorem forall_mem_split (hu : ∀ ds, P (trivia ('"' :: ds))) (cs : List Char) : ∀ l ∈ split cs, P l := by
  induction cs using split_induction with
  | nil => simp
  | literal cs ls r hl ih =>
    rw [split_literal hl.literal?]
    simp only [List.cons_append, List.mem_cons, List.mem_append]
    rintro l (rfl | h | h)
    · exact hP.stringStart
    · exact hl.forall_mem hP l h
    · exact ih l h
  | unclosed cs hl =>
    rw [split_unclosed hl, List.forall_mem_singleton]
    exact hu cs
  | other c cs hc ih =>
    rw [split_other cs hc, List.forall_mem_cons]
    exact ⟨hP.first hc, ih⟩

end Forall

/-- What a lexeme of a literal can be. -/
inductive Occurs : Lexeme → Prop
  | stringStart : Occurs stringStart
  | stringEnd : Occurs stringEnd
  | interpolationStart : Occurs interpolationStart
  | interpolationEnd : Occurs interpolationEnd
  | plaintext {run : List Char} (h : run ≠ []) : Occurs (plaintext run)
  | first {c : Char} {cs : List Char} (h : c ≠ '"') : Occurs (first c cs)

/-- A string literal that is never closed, as inert text. -/
def Unclosed (l : Lexeme) : Prop := l.kind = .trivia ∧ l.chars.head? = some '"'

theorem holdsInside_occurs : HoldsInside Occurs where
  stringStart := .stringStart
  stringEnd := .stringEnd
  interpolationStart := .interpolationStart
  interpolationEnd := .interpolationEnd
  plaintext h _ _ := .plaintext h
  first h := .first h

theorem ReadsLiteral.occurs {cs : List Char} {ls : List Lexeme} {r : List Char} (h : ReadsLiteral cs ls r) :
    ∀ l ∈ ls, Occurs l := h.forall_mem holdsInside_occurs

/-- A lexeme of a source could be one of a literal, or is a literal that is never closed. -/
theorem occurs_or_unclosed (cs : List Char) : ∀ l ∈ split cs, Occurs l ∨ ∃ ds, l = trivia ('"' :: ds) := by
  have hinside : HoldsInside fun l => Occurs l ∨ ∃ ds, l = trivia ('"' :: ds) :=
    { stringStart := .inl .stringStart
      stringEnd := .inl .stringEnd
      interpolationStart := .inl .interpolationStart
      interpolationEnd := .inl .interpolationEnd
      plaintext := fun h _ _ => .inl (.plaintext h)
      first := fun h => .inl (.first h) }
  exact forall_mem_split hinside (fun ds => .inr ⟨ds, rfl⟩) cs

end Lexeme

/-! ## Lexemes outside string literals -/

/-- The kinds that are neither a part of a string literal nor the end of the input. -/
def Kind.standsAlone : Kind → Bool
  | stringStart | plaintext _ | interpolationStart | interpolationEnd | stringEnd | eof => false
  | _ => true

theorem Kind.standsAlone_ofName (name : String) : (ofName name).standsAlone = true := by
  unfold ofName keyword?
  split <;> rfl

theorem Kind.ne_of_standsAlone {k k' : Kind} (h : k.standsAlone = true) (h' : k'.standsAlone = false) : k ≠ k' := by
  rintro rfl
  rw [h] at h'
  cases h'

theorem Form.standsAlone_kind (f : Form) (chars : List Char) : (f.kind chars).standsAlone = true := by
  cases f with
  | name => exact Kind.standsAlone_ofName _
  | _ => rfl

namespace Lexeme

section First

variable (c : Char) (cs : List Char)

theorem standsAlone_first : (first c cs).kind.standsAlone = true := Form.standsAlone_kind _ _

theorem kind_first_ne {k : Kind} (h : k.standsAlone = false) : (first c cs).kind ≠ k :=
  Kind.ne_of_standsAlone (standsAlone_first c cs) h

theorem kind_first_ne_plaintext (s : String) : (first c cs).kind ≠ .plaintext s := kind_first_ne c cs rfl

theorem kind_first_ne_eof : (first c cs).kind ≠ .eof := kind_first_ne c cs rfl

end First

/-! ## What holds of all lexemes -/

namespace Occurs

variable {l : Lexeme}

theorem chars_ne_nil (h : Occurs l) : l.chars ≠ [] := by
  cases h with
  | plaintext h => exact h
  | _ => exact nofun

theorem kind_ne_eof (h : Occurs l) : l.kind ≠ .eof := by
  cases h with
  | first => exact kind_first_ne_eof _ _
  | _ => exact nofun

theorem not_unclosed (h : Occurs l) : ¬ l.Unclosed := by
  rintro ⟨hk, hq⟩
  cases h with
  | first hc => exact hc (Option.some.inj hq)
  | _ => cases hk

/-- Plain text stands for some text. -/
theorem text_ne_empty (h : Occurs l) {s : String} (hs : l.kind = .plaintext s) : s ≠ "" := by
  cases h with
  | plaintext hrun =>
    cases hs
    simpa using PlainText.decode_ne_nil hrun
  | first => exact absurd hs (kind_first_ne_plaintext _ _ s)
  | _ => cases hs

end Occurs

/-- No lexeme is empty, and none is the end of the input. -/
theorem nonempty_of_mem_split {cs : List Char} {l : Lexeme} (h : l ∈ split cs) : l.chars ≠ [] ∧ l.kind ≠ .eof := by
  rcases occurs_or_unclosed cs l h with h | ⟨ds, rfl⟩
  · exact ⟨h.chars_ne_nil, h.kind_ne_eof⟩
  · simp [trivia]

/-- Plain text stands for some text. -/
theorem text_ne_empty_of_mem_split {cs : List Char} {l : Lexeme} (h : l ∈ split cs) {s : String}
    (hs : l.kind = .plaintext s) : s ≠ "" := by
  rcases occurs_or_unclosed cs l h with h | ⟨ds, rfl⟩
  · exact h.text_ne_empty hs
  · cases hs

end Lexeme

end Formula
