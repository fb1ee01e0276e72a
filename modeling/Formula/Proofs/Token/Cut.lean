import Formula.Proofs.Token.Matched
import Formula.Proofs.Token.Outermost

/-!
# Cutting a source

A source can be cut in front of every token outside of all string literals: then the tokens are those of what stands in
front, and those of what stands behind, further on. Whether a token is outside of all literals is told by the quotes in
front of it, since no literal is closed before it is opened.

- `Kind.NoneOpen`: as many literals are closed as are opened.
- `Lexeme.ReadsLiteral.quoted`, `Lexeme.ReadsBody.quoted`: the quotes of a literal and of an interpolation.
- `Lexeme.readsOuter_of_noneOpen`: the outermost level goes on where no literal is open.
- `Token.scan_cut`: the tokens of a source that is cut in front of a token.
-/

namespace Formula

/-! ## Quotes -/

namespace Kind

/-- As many string literals are closed as are opened. -/
def NoneOpen (ks : List Kind) : Prop := ks.count stringEnd = ks.count stringStart

instance (ks : List Kind) : Decidable (NoneOpen ks) := inferInstanceAs (Decidable (_ = _))

/-- Quotes are balanced: no literal is closed before it is opened, and in the end none is open. -/
def Quoted (ks : List Kind) : Prop :=
  (∀ us vs, ks = us ++ vs → us.count stringEnd ≤ us.count stringStart) ∧ NoneOpen ks

-- balanced quotes are matching brackets, by definition

theorem quoted_nil : Quoted [] := matched_nil _ _

theorem quoted_of_standsAlone {k : Kind} (h : k.standsAlone = true) : Quoted [k] :=
  matched_singleton (ne_of_standsAlone h rfl) (ne_of_standsAlone h rfl)

theorem NoneOpen.of_append {ks ks' : List Kind} (h : NoneOpen (ks ++ ks')) (hks : NoneOpen ks) : NoneOpen ks' := by
  unfold NoneOpen at *
  rw [List.count_append, List.count_append] at h
  omega

namespace Quoted

variable {k : Kind} {ks ks' : List Kind}

theorem append (h : Quoted ks) (h' : Quoted ks') : Quoted (ks ++ ks') := Matched.append h h'

theorem cons (h : Quoted ks) (hk : k ≠ stringStart) (hk' : k ≠ stringEnd) : Quoted (k :: ks) := Matched.cons h hk hk'

theorem not_noneOpen (h : Quoted ks) {us vs : List Kind} (hvs : vs ≠ []) (heq : ks ++ [stringEnd] = us ++ vs) :
    ¬ NoneOpen (stringStart :: us) := by
  have hle := Matched.count_le h hvs heq
  obtain ⟨hend, hstart⟩ := count_opened (o := stringStart) (c := stringEnd) (by decide) us
  rw [NoneOpen, hend, hstart]
  omega

/-- A literal around balanced quotes. -/
theorem literal (h : Quoted ks) : Quoted (stringStart :: (ks ++ [stringEnd])) := Matched.enclose h (by decide)

end Quoted

end Kind

namespace Lexeme

/-! ## Literals and interpolations -/

mutual

/-- The quotes of a literal are balanced but for the last one, -/
theorem ReadsLiteral.quoted : ∀ {cs : List Char} {ls : List Lexeme} {r : List Char}, ReadsLiteral cs ls r →
    ∃ ks, ls.map (·.kind) = ks ++ [.stringEnd] ∧ Kind.Quoted ks
  | _, _, _, .close => ⟨[], rfl, Kind.quoted_nil⟩
  | _, _, _, @ReadsLiteral.text run _ _ _ _ _ hl => by
    obtain ⟨ks, hks, hquoted⟩ := hl.quoted
    exact ⟨(plaintext run).kind :: ks, by rw [List.map_cons, hks, List.cons_append], hquoted.cons nofun nofun⟩
  | _, _, _, .interpolation hb hl => by
    obtain ⟨ks, hks, hquoted⟩ := hl.quoted
    have hinner := hb.quoted.append (hquoted.cons (k := interpolationEnd.kind) nofun nofun)
    refine ⟨_, ?_, hinner.cons (k := interpolationStart.kind) nofun nofun⟩
    rw [List.map_append, List.map_cons, List.map_cons, hks]
    simp

/-- and those of an interpolation are balanced. -/
theorem ReadsBody.quoted : ∀ {d : Nat} {cs : List Char} {ls : List Lexeme} {r : List Char}, ReadsBody d cs ls r →
    Kind.Quoted (ls.map (·.kind))
  | _, _, _, _, .close => Kind.quoted_nil
  | _, _, _, _, .literal hl hb => by
    obtain ⟨ks, hks, hquoted⟩ := hl.quoted
    rw [List.map_append, List.map_cons, hks]
    exact hquoted.literal.append hb.quoted
  | _, _, _, _, @ReadsBody.other _ c cs _ _ _ _ hb => by
    exact (Kind.quoted_of_standsAlone (standsAlone_first c cs)).append hb.quoted

end

/-! ## The outermost level -/

theorem readsOuter_nil {cs : List Char} {vs : List Lexeme} (h : split cs = vs) : ReadsOuter cs [] (text vs) := by
  rw [← h, text_split]
  exact .nil

/-- Where no literal is open, the outermost level goes on. -/
theorem readsOuter_of_noneOpen {cs : List Char} {us vs : List Lexeme} (hvs : vs ≠ []) (h : split cs = us ++ vs)
    (hopen : Kind.NoneOpen (us.map (·.kind))) : ReadsOuter cs us (text vs) := by
  induction cs using split_induction generalizing us with
  | nil =>
    rw [split_nil] at h
    exact absurd (List.append_eq_nil_iff.mp h.symm).2 hvs
  | literal cs ls r hl ih =>
    cases us with
    | nil => exact readsOuter_nil h
    | cons u us =>
      rw [split_literal hl.literal?] at h
      obtain ⟨rfl, hrest⟩ := List.cons.inj h
      obtain ⟨ks, hks, hquoted⟩ := hl.quoted
      -- the cut is behind the literal, or within it, where the literal is open
      rcases List.append_eq_append_iff.mp hrest with ⟨mid, rfl, hmid⟩ | ⟨mid, rfl, rfl⟩
      · rw [← List.cons_append, List.map_append] at hopen
        refine .literal hl (ih hmid (hopen.of_append ?_))
        rw [List.map_cons, hks]
        exact hquoted.literal.2
      · by_cases hmid : mid = []
        · subst hmid
          simpa using ReadsOuter.literal hl (readsOuter_nil rfl)
        · rw [List.map_append] at hks
          exact absurd hopen (hquoted.not_noneOpen (by simpa using hmid) hks.symm)
  | unclosed cs hl =>
    rw [split_unclosed hl] at h
    rcases List.singleton_eq_append_iff.mp h with ⟨rfl, rfl⟩ | ⟨-, rfl⟩
    · exact readsOuter_nil (split_unclosed hl)
    · exact absurd rfl hvs
  | other c cs hc ih =>
    cases us with
    | nil => exact readsOuter_nil h
    | cons u us =>
      rw [split_other cs hc] at h
      obtain ⟨rfl, hrest⟩ := List.cons.inj h
      have hfirst := Kind.quoted_of_standsAlone (standsAlone_first c cs)
      exact .other hc (ih hrest (Kind.NoneOpen.of_append hopen hfirst.2))

/-- On the outermost level a lexeme stands alone, or is the quote that opens a literal. -/
theorem kind_head_split {cs : List Char} {l : Lexeme} {ls : List Lexeme} (h : split cs = l :: ls) :
    l.kind.standsAlone = true ∨ l.kind = .stringStart := by
  induction cs using split_induction with
  | nil =>
    rw [split_nil] at h
    cases h
  | literal cs inner r hl _ =>
    rw [split_literal hl.literal?] at h
    obtain ⟨rfl, -⟩ := List.cons.inj h
    exact .inr rfl
  | unclosed cs hl =>
    rw [split_unclosed hl] at h
    obtain ⟨rfl, -⟩ := List.cons.inj h
    exact .inl rfl
  | other c cs hc _ =>
    rw [split_other cs hc] at h
    obtain ⟨rfl, -⟩ := List.cons.inj h
    exact .inl (standsAlone_first c cs)

end Lexeme

namespace Token

variable {source : String} {pre post : List Token} {t : Token}

/-! ## Tokens -/

/-- A token is the end of the input, or a lexeme with those in front of it. -/
theorem cases_of_scan_eq (h : scan source = pre ++ t :: post) :
    (pre = (scan source).dropLast ∧ t = ⟨.eof, "", source.utf8ByteSize⟩ ∧ post = []) ∨
      ∃ us l vs, Lexeme.split source.toList = us ++ l :: vs ∧ pre = place 0 us ∧
        t = ⟨l.kind, String.ofList l.chars, byteLength (Lexeme.text us)⟩ := by
  rw [dropLast_scan]
  rw [scan_eq_place] at h
  rcases List.append_eq_append_iff.mp h with ⟨mid, rfl, hmid⟩ | ⟨mid, hpre, hmid⟩
  · rcases List.singleton_eq_append_iff.mp hmid with ⟨rfl, heq⟩ | ⟨-, heq⟩
    · obtain ⟨rfl, rfl⟩ := List.cons.inj heq
      exact .inl ⟨by simp, rfl, rfl⟩
    · cases heq
  · cases mid with
    | nil =>
      obtain ⟨rfl, rfl⟩ := List.cons.inj hmid
      exact .inl ⟨by simpa using hpre.symm, rfl, rfl⟩
    | cons u mid =>
      obtain ⟨rfl, -⟩ := List.cons.inj hmid
      obtain ⟨us, l, vs, hsplit, hus, hu⟩ := exists_of_place_eq hpre
      rw [Nat.zero_add] at hu
      exact .inr ⟨us, l, vs, hsplit, hus, hu⟩

/-- A text of which all bytes are in front of a cut is cut at its end. -/
theorem eq_of_utf8ByteSize {a b : String} (hsource : source = a ++ b) (ha : a.utf8ByteSize = source.utf8ByteSize) :
    a = source ∧ b = "" := by
  rw [hsource, String.utf8ByteSize_append] at ha
  obtain rfl : b = "" := by
    rw [← String.utf8ByteSize_eq_zero_iff]
    omega
  rw [hsource]
  simp

/-- What is cut off at the end of a source is the end of the input. -/
theorem scan_cut_end (source : String) : scan source = (scan source).dropLast ++
    (scan "").map (shift source.utf8ByteSize) := by
  have hempty : (scan "").map (shift source.utf8ByteSize) = [⟨.eof, "", source.utf8ByteSize⟩] := by
    have hscan : scan "" = [⟨.eof, "", 0⟩] := by rw [scan_eq_place, String.toList_empty, Lexeme.split_nil]; rfl
    rw [hscan, List.map_singleton, shift, Nat.zero_add]
  rw [hempty, dropLast_scan, ← scan_eq_place]

/-- Where no literal is open, the outermost level goes on with what stands behind. -/
theorem readsOuter_of_cut {a b : String} {us vs : List Lexeme} (hvs : vs ≠ [])
    (hsplit : Lexeme.split (a ++ b).toList = us ++ vs) (hopen : Kind.NoneOpen (us.map (·.kind)))
    (ha : a.utf8ByteSize = byteLength (Lexeme.text us)) :
    Lexeme.ReadsOuter (a.toList ++ b.toList) us b.toList := by
  rw [String.toList_append] at hsplit
  have hreads := Lexeme.readsOuter_of_noneOpen hvs hsplit hopen
  obtain ⟨-, hb⟩ := append_inj_of_byteLength hreads.text_append (by rw [byteLength_toList, ha])
  rwa [hb] at hreads

/-- **A source can be cut in front of every token outside of its literals.** Where as many literals were closed as were
opened, the next token stands alone, opens a literal or is the end of the input, and the tokens of the source are those
of what stands in front of it, without their end of the input, and those of what stands behind, further on. -/
theorem scan_cut (h : scan source = pre ++ t :: post) (hopen : Kind.NoneOpen (pre.map (·.kind))) :
    (t.kind.standsAlone = true ∨ t.kind = .stringStart ∨ t.kind = .eof) ∧
    (∃ a b : String, source = a ++ b ∧ a.utf8ByteSize = t.offset) ∧
    ∀ a b : String, source = a ++ b → a.utf8ByteSize = t.offset →
      scan source = (scan a).dropLast ++ (scan b).map (shift t.offset) ∧
      pre = (scan a).dropLast ∧ t :: post = (scan b).map (shift t.offset) := by
  obtain ⟨a, b, hab, ha⟩ : ∃ a b : String, source = a ++ b ∧ a.utf8ByteSize = t.offset := by
    obtain ⟨a, b, hab, ha⟩ := exists_append_of_mem_scan (h ▸ List.mem_append_right pre List.mem_cons_self)
    exact ⟨a, t.lexeme ++ b, by rw [hab, String.append_assoc], ha⟩
  refine ⟨?_, ⟨a, b, hab, ha⟩, fun a b hab ha => ?_⟩
  · rcases cases_of_scan_eq h with ⟨-, rfl, -⟩ | ⟨us, l, vs, hsplit, rfl, rfl⟩
    · exact .inr (.inr rfl)
    · rw [kind_place] at hopen
      have hreads := Lexeme.readsOuter_of_noneOpen (List.cons_ne_nil l vs) hsplit hopen
      have hhead : l :: vs = Lexeme.split (Lexeme.text (l :: vs)) :=
        List.append_cancel_left (hsplit.symm.trans hreads.split_eq)
      exact (Lexeme.kind_head_split hhead.symm).imp_right .inl
  · have hcut : scan source = (scan a).dropLast ++ (scan b).map (shift t.offset) ∧ pre = (scan a).dropLast := by
      rcases cases_of_scan_eq h with ⟨hpre, rfl, -⟩ | ⟨us, l, vs, hsplit, rfl, rfl⟩
      · obtain ⟨rfl, rfl⟩ := eq_of_utf8ByteSize hab ha
        exact ⟨scan_cut_end a, hpre⟩
      · rw [kind_place] at hopen
        rw [hab] at hsplit
        have hreads := readsOuter_of_cut (List.cons_ne_nil l vs) hsplit hopen ha
        refine ⟨?_, by rw [dropLast_scan, split_of_readsOuter hreads]⟩
        rw [hab, scan_append ⟨us, hreads⟩, ha]
    obtain ⟨hscan, hpre⟩ := hcut
    refine ⟨hscan, hpre, ?_⟩
    rw [hscan, ← hpre] at h
    exact (List.append_cancel_left h).symm

/-- Two literals, cut in front of the second. -/
theorem scan_cut_literal :
    scan "\"\"\"\"" = [⟨.stringStart, "\"", 0⟩, ⟨.stringEnd, "\"", 1⟩] ++
      ⟨.stringStart, "\"", 2⟩ :: [⟨.stringEnd, "\"", 3⟩, ⟨.eof, "", 4⟩] ∧
    Kind.NoneOpen [.stringStart, .stringEnd] ∧
    scan "\"\"\"\"" = (scan "\"\"").dropLast ++ (scan "\"\"").map (shift 2) := by
  have h : scan "\"\"\"\"" = [⟨.stringStart, "\"", 0⟩, ⟨.stringEnd, "\"", 1⟩] ++
      ⟨.stringStart, "\"", 2⟩ :: [⟨.stringEnd, "\"", 3⟩, ⟨.eof, "", 4⟩] := by
    have hsplit : Lexeme.split "\"\"\"\"".toList = [Lexeme.stringStart, Lexeme.stringEnd] ++
        Lexeme.split ['"', '"'] := Lexeme.split_literal (Lexeme.literal?_quote ['"', '"'])
    have hrest : Lexeme.split ['"', '"'] = [Lexeme.stringStart, Lexeme.stringEnd] ++ Lexeme.split [] :=
      Lexeme.split_literal (Lexeme.literal?_quote [])
    rw [scan, hsplit, hrest, Lexeme.split_nil]
    rfl
  have hopen : Kind.NoneOpen [.stringStart, .stringEnd] := by decide
  obtain ⟨-, -, hcut⟩ := scan_cut h hopen
  exact ⟨h, hopen, (hcut "\"\"" "\"\"" rfl rfl).1⟩

end Token

end Formula
