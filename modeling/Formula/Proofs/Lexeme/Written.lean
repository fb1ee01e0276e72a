import Formula.Proofs.Lexeme.Extend

/-!
# How string literals are written

The grammar of string literals in characters, without a word on how they are read:

- `literal := '"' part* '"'`
- `part := CHARACTER | '\' CHARACTER | '\(' body ')'`, where the first character is neither `"` nor `\`, and the one
  behind a backslash is no `(`
- `body := (CHARACTER | '(' body ')' | literal)*`, where the character is no parenthesis and no `"`

In a body a backslash is a character like any other, so a `"` behind it opens a literal there.

- `Lexeme.exists_readsLiteral_iff`: behind an opening quote a literal is read if one is written there, and it is read
  to its end.
- `Written.Literal.eq_of_append_eq`: one literal at most is written at the front of a text.
-/

namespace Formula

namespace Written

mutual

/-- The characters are a string literal. -/
inductive Literal : List Char → Prop
  | mk {ps : List Char} : Parts ps → Literal ('"' :: ps ++ ['"'])

/-- The characters are the parts of a string literal. -/
inductive Parts : List Char → Prop
  | nil : Parts []
  | char {c : Char} {ps : List Char} (h : c ≠ '"') (h' : c ≠ '\\') : Parts ps → Parts (c :: ps)
  | escape {c : Char} {ps : List Char} (h : c ≠ '(') : Parts ps → Parts ('\\' :: c :: ps)
  | interpolation {b ps : List Char} : Body b → Parts ps → Parts ('\\' :: '(' :: b ++ ')' :: ps)

/-- The characters are the body of an interpolation. -/
inductive Body : List Char → Prop
  | nil : Body []
  | char {c : Char} {b : List Char} (h : c ≠ '(') (h' : c ≠ ')') (h'' : c ≠ '"') : Body b → Body (c :: b)
  | parens {b b' : List Char} : Body b → Body b' → Body ('(' :: b ++ ')' :: b')
  | literal {l b : List Char} : Literal l → Body b → Body (l ++ b)

end

/-! ## The rest of a body inside parentheses -/

/-- The characters are bodies with a `)` between any two of them, `d` in all: what is left of a body inside of `d`
parentheses. -/
inductive Closes : Nat → List Char → Prop
  | zero {b : List Char} : Body b → Closes 0 b
  | succ {d : Nat} {b b' : List Char} : Body b → Closes d b' → Closes (d + 1) (b ++ ')' :: b')

namespace Closes

variable {d : Nat} {b : List Char}

theorem char {c : Char} (hc : isBracket c = false) (h : Closes d b) : Closes d (c :: b) := by
  obtain ⟨hopen, hclose, hquote⟩ := isBracket_eq_false_iff.mp hc
  cases h with
  | zero hb => exact .zero (.char hopen hclose hquote hb)
  | succ hb h => exact .succ (.char hopen hclose hquote hb) h

theorem chars {u : List Char} (hu : ∀ c ∈ u, isBracket c = false) (h : Closes d b) : Closes d (u ++ b) := by
  induction u with
  | nil => exact h
  | cons c u ih =>
    obtain ⟨hc, hu⟩ := List.forall_mem_cons.mp hu
    exact (ih hu).char hc

theorem literal {l : List Char} (hl : Literal l) (h : Closes d b) : Closes d (l ++ b) := by
  cases h with
  | zero hb => exact .zero (.literal hl hb)
  | succ hb h =>
    rw [← List.append_assoc]
    exact .succ (.literal hl hb) h

theorem opening (h : Closes (d + 1) b) : Closes d ('(' :: b) := by
  cases h with
  | succ hb h =>
    cases h with
    | zero hb' => exact .zero (.parens hb hb')
    | @succ _ b' b'' hb' h =>
      have hparens := Body.parens hb hb'
      simpa using Closes.succ hparens h

theorem closing (h : Closes d b) : Closes (d + 1) (')' :: b) := .succ .nil h

/-- What is left of a body ends, or starts with a character, a parenthesis or a literal. -/
theorem cases_front (h : Closes d b) :
    d = 0 ∧ b = [] ∨ (∃ c b', b = c :: b' ∧ isBracket c = false ∧ Closes d b') ∨
      (∃ b', b = '(' :: b' ∧ Closes (d + 1) b') ∨ (∃ e b', d = e + 1 ∧ b = ')' :: b' ∧ Closes e b') ∨
      ∃ ps b', b = '"' :: (ps ++ '"' :: b') ∧ Parts ps ∧ Closes d b' := by
  cases h with
  | zero hb =>
    cases hb with
    | nil => exact .inl ⟨rfl, rfl⟩
    | char h h' h'' hb => exact .inr (.inl ⟨_, _, rfl, isBracket_eq_false_iff.mpr ⟨h, h', h''⟩, .zero hb⟩)
    | parens hb hb' => exact .inr (.inr (.inl ⟨_, rfl, .succ hb (.zero hb')⟩))
    | literal hl hb =>
      obtain ⟨hps⟩ := hl
      exact .inr (.inr (.inr (.inr ⟨_, _, by simp, hps, .zero hb⟩)))
  | succ hb hrest =>
    cases hb with
    | nil => exact .inr (.inr (.inr (.inl ⟨_, _, rfl, rfl, hrest⟩)))
    | char h h' h'' hb => exact .inr (.inl ⟨_, _, rfl, isBracket_eq_false_iff.mpr ⟨h, h', h''⟩, .succ hb hrest⟩)
    | parens hb hb' => exact .inr (.inr (.inl ⟨_, by simp, .succ hb (.succ hb' hrest)⟩))
    | literal hl hb =>
      obtain ⟨hps⟩ := hl
      exact .inr (.inr (.inr (.inr ⟨_, _, by simp, hps, .succ hb hrest⟩)))

/-- Characters that are no brackets may be left out at the front. -/
theorem of_append {u : List Char} (hu : ∀ c ∈ u, isBracket c = false) (h : Closes d (u ++ b)) : Closes d b := by
  induction u with
  | nil => exact h
  | cons c u ih =>
    obtain ⟨hc, hu⟩ := List.forall_mem_cons.mp hu
    rw [List.cons_append] at h
    rcases h.cases_front with ⟨-, hnil⟩ | ⟨c', b', hcons, -, h'⟩ | ⟨b', hcons, -⟩ | ⟨e, b', -, hcons, -⟩ |
      ⟨ps, b', hcons, -, -⟩
    · cases hnil
    · obtain ⟨rfl, rfl⟩ := List.cons.inj hcons
      exact ih hu h'
    · obtain ⟨rfl, -⟩ := List.cons.inj hcons
      cases hc
    · obtain ⟨rfl, -⟩ := List.cons.inj hcons
      cases hc
    · obtain ⟨rfl, -⟩ := List.cons.inj hcons
      cases hc

end Closes

/-- A unit of plain text may stand in front of parts. -/
theorem Parts.unit {ps : List Char} (u : TextUnit) (hps : Parts ps) : Parts (u.raw ++ ps) := by
  cases u with
  | char c h => exact .char h.1 h.2 hps
  | escape c h => exact .escape h hps

/-- A run of plain text is made of characters and escapes. -/
theorem Parts.run {run cs ps : List Char} (hcs : cs ≠ []) (h : PlainText.extent (run ++ cs) = run.length)
    (hps : Parts ps) : Parts (run ++ ps) := by
  obtain ⟨us, rfl⟩ := PlainText.exists_units hcs h
  clear h
  induction us with
  | nil => exact hps
  | cons u us ih =>
    rw [PlainText.raw_cons, List.append_assoc]
    exact ih.unit u

end Written

open Written

namespace Lexeme

/-! ## What is read is written -/

mutual

/-- A literal that is read is written in front of what is left. -/
theorem ReadsLiteral.written : ∀ {cs : List Char} {ls : List Lexeme} {r : List Char}, ReadsLiteral cs ls r →
    ∃ ps, Parts ps ∧ cs = ps ++ '"' :: r
  | _, _, _, .close => ⟨[], .nil, rfl⟩
  | _, _, _, .text _ hext hl => by
    obtain ⟨ps, hps, rfl⟩ := hl.written
    exact ⟨_, hps.run (by simp) hext, by simp⟩
  | _, _, _, .interpolation hb hl => by
    obtain ⟨b, hbody, rfl⟩ := hb.written
    obtain ⟨ps, hps, rfl⟩ := hl.written
    obtain ⟨hbody⟩ := hbody
    exact ⟨_, .interpolation hbody hps, by simp⟩

/-- What is read of an interpolation is written in front of its `)`. -/
theorem ReadsBody.written : ∀ {d : Nat} {cs : List Char} {ls : List Lexeme} {r : List Char}, ReadsBody d cs ls r →
    ∃ b, Closes d b ∧ cs = b ++ ')' :: r
  | _, _, _, _, .close => ⟨[], .zero .nil, rfl⟩
  | _, _, _, _, .literal hl hb => by
    obtain ⟨ps, hps, rfl⟩ := hl.written
    obtain ⟨b, hclose, rfl⟩ := hb.written
    exact ⟨_, hclose.literal (.mk hps), by simp⟩
  | _, _, _, _, @ReadsBody.other d c cs _ r hopen hquote hb => by
    obtain ⟨b, hclose, hafter⟩ := hb.written
    have htext : c :: cs = (first c cs).chars ++ b ++ ')' :: r := by
      rw [List.append_assoc, ← hafter, first_append_after]
    by_cases hl : c = '('
    · subst hl
      rw [first_leftParen] at htext
      exact ⟨_, hclose.opening, htext⟩
    by_cases hr : c = ')'
    · subst hr
      obtain ⟨e, rfl⟩ := Nat.exists_eq_succ_of_ne_zero fun hd => hopen ⟨rfl, hd⟩
      rw [first_rightParen] at htext
      exact ⟨_, hclose.closing, htext⟩
    · rw [depthAfter, if_neg hl, if_neg hr] at hclose
      have hc := isBracket_eq_false_iff.mpr ⟨hl, hr, hquote⟩
      exact ⟨_, hclose.chars (isBracket_of_mem_first hc cs), htext⟩

end

/-! ## What is written is read -/

/-- A unit of plain text may stand in front of a literal that is read: it joins a run of plain text or is one. -/
theorem ReadsLiteral.exists_unit (u : TextUnit) {cs : List Char} {ls : List Lexeme} {r : List Char}
    (h : ReadsLiteral cs ls r) : ∃ ls', ReadsLiteral (u.raw ++ cs) ls' r := by
  have hrun : PlainText.extent cs = 0 → ReadsLiteral (u.raw ++ cs) (plaintext u.raw :: ls) r := fun hzero =>
    .text u.raw_ne_nil (by rw [u.extent_raw_append, hzero, Nat.add_zero]) h
  cases h with
  | close => exact ⟨_, hrun rfl⟩
  | interpolation => exact ⟨_, hrun rfl⟩
  | @text run cs ls r _ hext hl =>
    rw [← List.append_assoc]
    exact ⟨_, .text (by simp [u.raw_ne_nil])
      (by rw [List.append_assoc, u.extent_raw_append, hext, List.length_append]) hl⟩

section Step

variable {n : Nat} (ihl : ∀ ps r, Parts ps → ps.length < n → ∃ ls, ReadsLiteral (ps ++ '"' :: r) ls r)
  (ihb : ∀ d b r, Closes d b → b.length < n → ∃ ls, ReadsBody d (b ++ ')' :: r) ls r)

include ihl ihb

/-- A literal that is written is read, if all that is shorter is. -/
theorem exists_readsLiteral_step {ps : List Char} (r : List Char) (h : Parts ps) (hn : ps.length < n + 1) :
    ∃ ls, ReadsLiteral (ps ++ '"' :: r) ls r := by
  cases h with
  | nil => exact ⟨_, .close⟩
  | @char c ps hquote hslash hps =>
    rw [List.length_cons] at hn
    obtain ⟨ls, hl⟩ := ihl ps r hps (by omega)
    exact hl.exists_unit (.char c ⟨hquote, hslash⟩)
  | @escape c ps hc hps =>
    rw [List.length_cons, List.length_cons] at hn
    obtain ⟨ls, hl⟩ := ihl ps r hps (by omega)
    exact hl.exists_unit (.escape c hc)
  | @interpolation b ps hb hps =>
    rw [List.length_append, List.length_cons, List.length_cons, List.length_cons] at hn
    obtain ⟨inner, hinner⟩ := ihb 0 b (ps ++ '"' :: r) (.zero hb) (by omega)
    obtain ⟨ls, hl⟩ := ihl ps r hps (by omega)
    have hreads := ReadsLiteral.interpolation hinner hl
    exact ⟨_, by simpa using hreads⟩

/-- A body that is written is read up to the `)` behind it, if all that is shorter is. -/
theorem exists_readsBody_step {d : Nat} {b : List Char} (r : List Char) (h : Closes d b) (hn : b.length < n + 1) :
    ∃ ls, ReadsBody d (b ++ ')' :: r) ls r := by
  rcases h.cases_front with ⟨rfl, rfl⟩ | ⟨c, b', rfl, hc, h'⟩ | ⟨b', rfl, h'⟩ | ⟨e, b', rfl, rfl, h'⟩ |
    ⟨ps, b', rfl, hps, h'⟩
  · exact ⟨_, .close⟩
  · -- the lexeme goes on over characters that are no brackets, so it ends within the body
    obtain ⟨hopen, hclose, hquote⟩ := isBracket_eq_false_iff.mp hc
    have hfits : extent c (b' ++ ')' :: r) ≤ b'.length := by
      rw [extent, Form.extent_append_cons b' r (Form.stopsAt_paren _)]
      exact Form.extent_le _ b'
    have hafter : after c (b' ++ ')' :: r) = b'.drop (extent c (b' ++ ')' :: r)) ++ ')' :: r :=
      List.drop_append_of_le_length hfits
    have htake : ∀ e ∈ b'.take (extent c (b' ++ ')' :: r)), isBracket e = false := fun e he => by
      refine isBracket_of_mem_first hc (b' ++ ')' :: r) e (List.mem_cons_of_mem _ ?_)
      rwa [List.take_append_of_le_length hfits]
    rw [← List.take_append_drop (extent c (b' ++ ')' :: r)) b'] at h'
    rw [List.length_cons] at hn
    obtain ⟨ls, hb⟩ := ihb d _ r (h'.of_append htake) (by rw [List.length_drop]; omega)
    have hrest : ReadsBody (depthAfter d c) (after c (b' ++ ')' :: r)) ls r := by
      rw [hafter, depthAfter, if_neg hopen, if_neg hclose]
      exact hb
    exact ⟨_, .other (fun h => hclose h.1) hquote hrest⟩
  · rw [List.length_cons] at hn
    obtain ⟨ls, hb⟩ := ihb (d + 1) b' r h' (by omega)
    have hrest : ReadsBody (depthAfter d '(') (after '(' (b' ++ ')' :: r)) ls r := by rwa [after_leftParen]
    exact ⟨_, .other (by simp) (by decide) hrest⟩
  · rw [List.length_cons] at hn
    obtain ⟨ls, hb⟩ := ihb e b' r h' (by omega)
    have hrest : ReadsBody (depthAfter (e + 1) ')') (after ')' (b' ++ ')' :: r)) ls r := by rwa [after_rightParen]
    exact ⟨_, .other (by simp) (by decide) hrest⟩
  · rw [List.length_cons, List.length_append, List.length_cons] at hn
    obtain ⟨inner, hl⟩ := ihl ps (b' ++ ')' :: r) hps (by omega)
    obtain ⟨ls, hb⟩ := ihb d b' r h' (by omega)
    have hreads := ReadsBody.literal hl hb
    exact ⟨_, by simpa using hreads⟩

end Step

/-- By recursion on the count of characters: literals and bodies hold each other. -/
theorem exists_reads_of_length (n : Nat) :
    (∀ ps r, Parts ps → ps.length < n → ∃ ls, ReadsLiteral (ps ++ '"' :: r) ls r) ∧
      ∀ d b r, Closes d b → b.length < n → ∃ ls, ReadsBody d (b ++ ')' :: r) ls r := by
  induction n with
  | zero => simp
  | succ n ih =>
    obtain ⟨ihl, ihb⟩ := ih
    exact ⟨fun _ r => exists_readsLiteral_step ihl ihb r, fun _ _ r => exists_readsBody_step ihl ihb r⟩

/-- A literal is read if one is written, and then it is the one in front of what is left. -/
theorem exists_readsLiteral_iff {cs r : List Char} :
    (∃ ls, ReadsLiteral cs ls r) ↔ ∃ lit, Literal lit ∧ '"' :: cs = lit ++ r := by
  constructor
  · rintro ⟨ls, h⟩
    obtain ⟨ps, hps, rfl⟩ := h.written
    exact ⟨_, .mk hps, by simp⟩
  · rintro ⟨lit, ⟨hps⟩, h⟩
    rename_i ps
    obtain rfl : cs = ps ++ '"' :: r := by simpa using h
    exact (exists_reads_of_length _).1 ps r hps (Nat.lt_succ_self _)

/-- Where no literal is written, none is read. -/
theorem literal?_eq_none_iff {cs : List Char} :
    literal? cs = none ↔ ∀ lit r, Literal lit → '"' :: cs ≠ lit ++ r := by
  rw [Option.eq_none_iff_forall_ne_some]
  constructor
  · intro h lit r hlit heq
    obtain ⟨ls, hl⟩ := exists_readsLiteral_iff.mpr ⟨lit, hlit, heq⟩
    exact h (ls, r) hl.literal?
  · rintro h ⟨ls, r⟩ hl
    obtain ⟨lit, hlit, heq⟩ := exists_readsLiteral_iff.mp ⟨ls, literal?_eq_some_iff.mp hl⟩
    exact h lit r hlit heq

end Lexeme

/-! ## One literal at most -/

namespace Written.Literal

variable {lit : List Char}

/-- A literal in front of anything is read as the characters that it is. -/
theorem exists_reads (h : Literal lit) (r : List Char) : ∃ cs inner, lit ++ r = '"' :: cs ∧
    Lexeme.ReadsLiteral cs inner r ∧ Lexeme.text (Lexeme.stringStart :: inner) = lit := by
  obtain ⟨cs, hcs⟩ : ∃ cs, lit ++ r = '"' :: cs := by
    obtain ⟨hps⟩ := h
    exact ⟨_, rfl⟩
  obtain ⟨inner, hl⟩ := Lexeme.exists_readsLiteral_iff.mpr ⟨lit, h, hcs.symm⟩
  have htext : Lexeme.text (Lexeme.stringStart :: inner) ++ r = lit ++ r := by
    rw [hcs, Lexeme.text_cons, List.append_assoc, hl.text_append]
    rfl
  exact ⟨cs, inner, hcs, hl, List.append_cancel_right htext⟩

/-- Two literals at the front of a text are the same. -/
theorem eq_of_append_eq {lit' r r' : List Char} (h : Literal lit) (h' : Literal lit') (heq : lit ++ r = lit' ++ r') :
    lit = lit' := by
  obtain ⟨cs, inner, hcs, hl, htext⟩ := h.exists_reads r
  obtain ⟨cs', inner', hcs', hl', htext'⟩ := h'.exists_reads r'
  obtain rfl : cs = cs' := List.tail_eq_of_cons_eq (hcs.symm.trans (heq.trans hcs'))
  obtain ⟨rfl, -⟩ := Prod.mk.inj (Option.some.inj (hl.literal?.symm.trans hl'.literal?))
  rw [← htext, htext']

end Written.Literal

end Formula
