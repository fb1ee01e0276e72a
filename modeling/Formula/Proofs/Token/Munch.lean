import Formula.Proofs.Lexeme.Word
import Formula.Proofs.Token.Brackets

/-!
# Longest matches

Outside of plain text, every token is the longest word of the source from there on, or a single character where no word
starts, and its kind depends on its own text alone. Inside an interpolation it is the same: the `)` that closes the
interpolation and all that is behind it take part in the match.

- `Lexeme.Firsts`: lexemes that are each the first of the text from there on.
- `Lexeme.firsts_split`: those of a source are.
- `Token.munches_of_mem_scan`: a token is the longest match where it starts.
- `Token.scan_munches`: all of it about one token, with names, keywords and numbers.
-/

namespace Formula

namespace Lexeme

/-! ## First lexemes -/

/-- The text of a first lexeme decides its kind. -/
theorem kind_first_congr {c c' : Char} {cs cs' : List Char} (h : (first c cs).chars = (first c' cs').chars) :
    (first c cs).kind = (first c' cs').kind := by
  obtain ⟨rfl, -⟩ := List.cons.inj h
  exact congrArg (Form.ofChar c).kind h

/-- Each of the lexemes that stands alone is the first one of the text from there on, where the other text is behind
them all. -/
def Firsts : List Lexeme → List Char → Prop
  | [], _ => True
  | l :: ls, r =>
    (l.kind.standsAlone = true → ¬ l.Unclosed →
      ∃ c cs, c ≠ '"' ∧ l.chars ++ (text ls ++ r) = c :: cs ∧ l = first c cs) ∧ Firsts ls r

theorem firsts_cons {l : Lexeme} {ls : List Lexeme} {r : List Char} (h : l.kind.standsAlone = false)
    (hls : Firsts ls r) : Firsts (l :: ls) r :=
  ⟨fun h' => absurd (h.symm.trans h') Bool.false_ne_true, hls⟩

theorem firsts_append {ls ls' : List Lexeme} {r : List Char} (h : Firsts ls (text ls' ++ r)) (h' : Firsts ls' r) :
    Firsts (ls ++ ls') r := by
  induction ls with
  | nil => exact h'
  | cons l ls ih =>
    obtain ⟨hl, hls⟩ := h
    rw [List.cons_append, Firsts, text_append, List.append_assoc]
    exact ⟨hl, ih hls⟩

/-- A lexeme among others is the first one of the text from there on. -/
theorem Firsts.of_append {us vs : List Lexeme} {l : Lexeme} {r : List Char} (h : Firsts (us ++ l :: vs) r)
    (hk : l.kind.standsAlone = true) (hu : ¬ l.Unclosed) :
    ∃ c cs, c ≠ '"' ∧ text (l :: vs) ++ r = c :: cs ∧ l = first c cs := by
  induction us with
  | nil =>
    rw [text_cons, List.append_assoc]
    exact h.1 hk hu
  | cons _ us ih => exact ih h.2

theorem firsts_first {c : Char} {cs : List Char} {ls : List Lexeme} {r : List Char} (hc : c ≠ '"')
    (h : text ls ++ r = after c cs) (hls : Firsts ls r) : Firsts (first c cs :: ls) r :=
  ⟨fun _ _ => ⟨c, cs, hc, by rw [h, first_append_after], rfl⟩, hls⟩

mutual

/-- The lexemes of a literal are each the first, -/
theorem ReadsLiteral.firsts : ∀ {cs : List Char} {ls : List Lexeme} {r : List Char}, ReadsLiteral cs ls r → Firsts ls r
  | _, _, _, .close => firsts_cons rfl trivial
  | _, _, _, .text _ _ hl => firsts_cons rfl hl.firsts
  | _, _, _, .interpolation hb hl => by
    refine firsts_cons rfl (firsts_append ?_ (firsts_cons rfl hl.firsts))
    rw [text_cons, List.append_assoc, hl.text_append]
    exact hb.firsts

/-- and so are those of an interpolation, with its `)` behind them. -/
theorem ReadsBody.firsts : ∀ {d : Nat} {cs : List Char} {ls : List Lexeme} {r : List Char}, ReadsBody d cs ls r →
    Firsts ls (')' :: r)
  | _, _, _, _, .close => trivial
  | _, _, _, _, .literal hl hb => by
    refine firsts_cons rfl (firsts_append ?_ hb.firsts)
    rw [hb.text_append]
    exact hl.firsts
  | _, _, _, _, .other _ hc hb => firsts_first hc hb.text_append hb.firsts

end

/-- The lexemes of a source are each the first of the source from there on. -/
theorem firsts_split (cs : List Char) : Firsts (split cs) [] := by
  induction cs using split_induction with
  | nil =>
    rw [split_nil]
    trivial
  | literal cs ls r hl ih =>
    rw [split_literal hl.literal?]
    refine firsts_cons rfl (firsts_append ?_ ih)
    rw [text_split, List.append_nil]
    exact hl.firsts
  | unclosed cs hl =>
    rw [split_unclosed hl]
    exact ⟨fun _ hu => absurd ⟨rfl, rfl⟩ hu, trivial⟩
  | other c cs hc ih =>
    rw [split_other cs hc]
    exact firsts_first hc (by rw [text_split, List.append_nil]) ih

end Lexeme

namespace Token

/-! ## Tokens -/

/-- A token that stands alone is the first lexeme of the source from there on. -/
theorem exists_first_of_mem_scan {source : String} {t : Token} (ht : t ∈ scan source)
    (hk : t.kind.standsAlone = true) (hu : ¬ t.Unclosed) :
    ∃ us c cs, source.toList = us ++ c :: cs ∧ byteLength us = t.offset ∧ c ≠ '"' ∧
      t.kind = (Lexeme.first c cs).kind ∧ t.lexeme = String.ofList (Lexeme.first c cs).chars := by
  rw [scan_eq_place] at ht
  rcases List.mem_append.mp ht with ht | ht
  · obtain ⟨pre, post, hplace⟩ := List.append_of_mem ht
    obtain ⟨us, l, vs, hsplit, -, rfl⟩ := exists_of_place_eq hplace
    have hfirsts := Lexeme.firsts_split source.toList
    rw [hsplit] at hfirsts
    have hclosed : ¬ l.Unclosed := fun h => hu ⟨h.1, by rw [String.toList_ofList]; exact h.2⟩
    obtain ⟨c, cs, hc, htext, rfl⟩ := hfirsts.of_append hk hclosed
    refine ⟨Lexeme.text us, c, cs, ?_, by simp, hc, rfl, rfl⟩
    rw [← Lexeme.text_split source.toList, hsplit, Lexeme.text_append, ← htext, List.append_nil]
  · rw [List.mem_singleton.mp ht] at hk
    cases hk

/-- A token that stands alone is what is read at the front of the source from there on. -/
theorem munches_of_mem_scan {source : String} {t : Token} (ht : t ∈ scan source) (hk : t.kind.standsAlone = true)
    (hu : ¬ t.Unclosed) {a b : String} (hsource : source = a ++ b) (ha : a.utf8ByteSize = t.offset) :
    Munches b.toList t.lexeme.toList t.kind := by
  obtain ⟨us, c, cs, htext, hus, -, hkind, hlexeme⟩ := exists_first_of_mem_scan ht hk hu
  rw [hsource, String.toList_append] at htext
  obtain ⟨-, hb⟩ := append_inj_of_byteLength htext (by rw [byteLength_toList, ha, hus])
  rw [hb, hlexeme, hkind, String.toList_ofList]
  exact Lexeme.munches_first c cs

/-- Tokens that stand alone and have the same text are of one kind. -/
theorem kind_eq_of_lexeme_eq {source source' : String} {t t' : Token} (ht : t ∈ scan source)
    (hk : t.kind.standsAlone = true) (hu : ¬ t.Unclosed) (ht' : t' ∈ scan source')
    (hk' : t'.kind.standsAlone = true) (h : t'.lexeme = t.lexeme) : t'.kind = t.kind := by
  obtain ⟨us, c, cs, -, -, hc, hkind, hlexeme⟩ := exists_first_of_mem_scan ht hk hu
  have hquote : ¬ t'.Unclosed := by
    rintro ⟨-, hhead⟩
    rw [h, hlexeme, String.toList_ofList] at hhead
    exact hc (Option.some.inj hhead)
  obtain ⟨us', c', cs', -, -, -, hkind', hlexeme'⟩ := exists_first_of_mem_scan ht' hk' hquote
  rw [hlexeme, hlexeme', String.ofList_inj] at h
  rw [hkind, hkind', Lexeme.kind_first_congr h]

/-- **Longest matches.** A token that is no part of a string literal, nor a literal that is never closed, is the longest
word of the source from its offset on and means what this word means, or it is a single inert character where no word
starts. Its kind depends on its text alone: an identifier carries its text, which is no keyword; a keyword is exactly
the text of its kind, and the keywords are `true`, `false`, `nil`, `and` and `or`; and what starts with a digit is a
number with the value of the text. -/
theorem scan_munches {source : String} {t : Token} (ht : t ∈ scan source) (hk : t.kind.standsAlone = true)
    (hu : ¬ t.Unclosed) :
    (∃ a b : String, source = a ++ b ∧ a.utf8ByteSize = t.offset) ∧
    (∀ a b : String, source = a ++ b → a.utf8ByteSize = t.offset → Munches b.toList t.lexeme.toList t.kind) ∧
    (∀ (source' : String) (t' : Token), t' ∈ scan source' → t'.kind.standsAlone = true → t'.lexeme = t.lexeme →
      t'.kind = t.kind) ∧
    (∀ n, t.kind = .identifier n → n = t.lexeme ∧ Kind.keyword? n = none) ∧
    (∀ n k, Kind.keyword? n = some k → (t.kind = k ↔ t.lexeme = n)) ∧
    (∀ n k, Kind.keyword? n = some k ↔ Kind.Keyword n k) ∧
    ∀ c, t.lexeme.toList.head? = some c → c.isDigit = true →
      ∃ v, t.kind = .number v ∧ Numeral.read? t.lexeme = some v := by
  obtain ⟨a, b, hsource, ha⟩ : ∃ a b : String, source = a ++ b ∧ a.utf8ByteSize = t.offset := by
    obtain ⟨a, b, hsource, ha⟩ := exists_append_of_mem_scan ht
    exact ⟨a, t.lexeme ++ b, by rw [hsource, String.append_assoc], ha⟩
  have hmunches := munches_of_mem_scan ht hk hu hsource ha
  refine ⟨⟨a, b, hsource, ha⟩, fun a b => munches_of_mem_scan ht hk hu,
    fun source' t' ht' hk' h => kind_eq_of_lexeme_eq ht hk hu ht' hk' h, fun n hn => ?_, fun n k hkey => ?_,
    fun n k => Kind.keyword?_eq_some_iff, fun c hhead hc => ?_⟩
  · rw [hn] at hmunches
    simpa using hmunches.of_identifier
  · constructor
    · rintro rfl
      simpa using hmunches.of_keyword hkey
    · rintro rfl
      exact hmunches.kind_eq (.keyword hkey)
  · obtain ⟨u, hu⟩ := List.head?_eq_some_iff.mp hhead
    rw [hu] at hmunches
    obtain ⟨v, hv, hread⟩ := hmunches.of_isDigit hc
    rw [← hu, String.ofList_toList] at hread
    exact ⟨v, hv, hread⟩

/-- A name that starts like a keyword. -/
theorem scan_munches_name :
    ⟨.identifier "trueish", "trueish", 0⟩ ∈ scan "trueish==x" ∧
    (Kind.identifier "trueish").standsAlone = true ∧ ¬ Unclosed ⟨.identifier "trueish", "trueish", 0⟩ ∧
    Munches "trueish==x".toList "trueish".toList (.identifier "trueish") ∧ Kind.keyword? "trueish" = none := by
  have hsplit : Lexeme.split "trueish==x".toList = ⟨.identifier "trueish", "trueish".toList⟩ ::
      Lexeme.split ['=', '=', 'x'] := Lexeme.split_other _ (by decide)
  have ht : ⟨.identifier "trueish", "trueish", 0⟩ ∈ scan "trueish==x" := by
    rw [scan, hsplit]
    exact List.mem_cons_self
  have hu : ¬ Unclosed ⟨.identifier "trueish", "trueish", 0⟩ := by
    rintro ⟨h, -⟩
    cases h
  obtain ⟨-, hmunches, -, hname, -⟩ := scan_munches ht rfl hu
  exact ⟨ht, rfl, hu, hmunches "" "trueish==x" rfl rfl, (hname _ rfl).2⟩

end Token

end Formula
