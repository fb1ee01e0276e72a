import Mathlib.Data.List.Chain
import Formula.Proofs.Token.Parens
import Formula.Proofs.Token.Partition

/-!
# The brackets of the tokens

String literals and interpolations hold each other like brackets, and inside an interpolation the parentheses outside
of inner literals are balanced:

- `stream := item* UNCLOSED? EOF`
- `item := TOKEN | literal`, where `TOKEN` is no part of a string literal, no end of the input and not unclosed
- `literal := START piece* END`
- `piece := PLAINTEXT | INTERPOLATION_START item* INTERPOLATION_END`

An unclosed literal is therefore only ever the last token in front of the end of the input.

- `Token.stream_scan`: the tokens of every source are such a stream.
- `Token.scan_brackets`: moreover no plain text is empty, before or after decoding, and no two are neighbours.
-/

namespace Formula.Token

/-! ## The grammar of brackets -/

/-- A string literal that is never closed, as inert text. -/
def Unclosed (t : Token) : Prop := t.kind = .trivia ∧ t.lexeme.toList.head? = some '"'

mutual

/-- The tokens are items, and `own` are those outside of the literals among them. -/
inductive Items : List Token → List Token → Prop
  | nil : Items [] []
  | alone {t : Token} {ts own : List Token} (h : t.kind.standsAlone = true) (h' : ¬ t.Unclosed) : Items ts own →
      Items (t :: ts) (t :: own)
  | literal {ts us own : List Token} : Literal us → Items ts own → Items (us ++ ts) own

/-- The tokens are a string literal. -/
inductive Literal : List Token → Prop
  | mk {ts : List Token} {x x' : String} {o o' : Nat} : Pieces ts →
      Literal (⟨.stringStart, x, o⟩ :: ts ++ [⟨.stringEnd, x', o'⟩])

/-- The tokens are the pieces of a string literal. In an interpolation parentheses are balanced. -/
inductive Pieces : List Token → Prop
  | nil : Pieces []
  | plaintext {ts : List Token} {s x : String} {o : Nat} : Pieces ts → Pieces (⟨.plaintext s, x, o⟩ :: ts)
  | interpolation {body own ts : List Token} {x x' : String} {o o' : Nat} : Items body own →
      Kind.Balanced (own.map (·.kind)) → Pieces ts →
      Pieces (⟨.interpolationStart, x, o⟩ :: body ++ ⟨.interpolationEnd, x', o'⟩ :: ts)

end

/-- The tokens are items, perhaps an unclosed literal, and the end of the input. -/
def Stream (ts : List Token) : Prop :=
  ∃ items own rest x o, ts = items ++ rest ++ [⟨.eof, x, o⟩] ∧ Items items own ∧
    (rest = [] ∨ ∃ t, rest = [t] ∧ t.Unclosed)

/-! ## What is read is bracketed -/

theorem not_unclosed_first {c : Char} (cs : List Char) (o : Nat) (h : c ≠ '"') :
    ¬ Unclosed ⟨(Lexeme.first c cs).kind, String.ofList (Lexeme.first c cs).chars, o⟩ := by
  rintro ⟨-, hx⟩
  simp [Lexeme.first] at hx
  exact h hx

mutual

theorem pieces_of_reads : ∀ {cs : List Char} {ls : List Lexeme} {r : List Char}, Lexeme.ReadsLiteral cs ls r →
    ∀ o, ∃ ts x o', place o ls = ts ++ [⟨.stringEnd, x, o'⟩] ∧ Pieces ts
  | _, _, _, .close, o => ⟨[], _, _, rfl, .nil⟩
  | _, _, _, @Lexeme.ReadsLiteral.text run cs ls r _ _ hl, o => by
    obtain ⟨ts, x, o', hp, hts⟩ := pieces_of_reads hl (o + byteLength (Lexeme.plaintext run).chars)
    refine ⟨⟨(Lexeme.plaintext run).kind, String.ofList run, o⟩ :: ts, x, o', ?_, .plaintext hts⟩
    rw [place, hp]
    rfl
  | _, _, _, @Lexeme.ReadsLiteral.interpolation cs mid inner ls r hb hl, o => by
    obtain ⟨own, hi, hd⟩ := items_of_reads hb (o + 2)
    obtain ⟨ts, x, o', hp, hts⟩ := pieces_of_reads hl (o + 2 + byteLength (Lexeme.text inner) + 1)
    refine ⟨⟨.interpolationStart, "\\(", o⟩ :: place (o + 2) inner ++
      ⟨.interpolationEnd, ")", o + 2 + byteLength (Lexeme.text inner)⟩ :: ts, x, o', ?_,
      .interpolation hi ((Kind.balanced_iff _).mpr hd) hts⟩
    rw [place_interpolation, hp]
    simp

theorem items_of_reads : ∀ {d : Nat} {cs : List Char} {ls : List Lexeme} {r : List Char}, Lexeme.ReadsBody d cs ls r →
    ∀ o, ∃ own, Items (place o ls) own ∧ Kind.depthBehind d (own.map (·.kind)) = some 0
  | _, _, _, _, .close, o => ⟨[], .nil, rfl⟩
  | _, _, _, _, @Lexeme.ReadsBody.literal d cs mid inner ls r hl hb, o => by
    obtain ⟨ts, x, o', hp, hts⟩ := pieces_of_reads hl (o + 1)
    obtain ⟨own, hi, hd⟩ := items_of_reads hb (o + 1 + byteLength (Lexeme.text inner))
    refine ⟨own, ?_, hd⟩
    rw [place_literal, hp]
    exact .literal (.mk hts) hi
  | _, _, _, _, @Lexeme.ReadsBody.other d c cs ls r h h' hb, o => by
    obtain ⟨own, hi, hd⟩ := items_of_reads hb (o + byteLength (Lexeme.first c cs).chars)
    refine ⟨_, .alone (Lexeme.standsAlone_first c cs) (not_unclosed_first cs o h') hi, ?_⟩
    rw [List.map_cons, Lexeme.depthBehind_first _ _ h]
    exact hd

end

/-- The lexemes of a source are items and perhaps an unclosed literal. -/
theorem items_of_split (cs : List Char) : ∀ o, ∃ items own rest, place o (Lexeme.split cs) = items ++ rest ∧
    Items items own ∧ (rest = [] ∨ ∃ t, rest = [t] ∧ t.Unclosed) := by
  induction cs using Lexeme.split_induction with
  | nil => exact fun o => ⟨[], [], [], by simp [place], .nil, .inl rfl⟩
  | literal cs ls r hl ih =>
    intro o
    obtain ⟨ts, x, o', hp, hts⟩ := pieces_of_reads hl (o + 1)
    obtain ⟨items, own, rest, hr, hi, hrest⟩ := ih (o + 1 + byteLength (Lexeme.text ls))
    refine ⟨⟨.stringStart, "\"", o⟩ :: ts ++ [⟨.stringEnd, x, o'⟩] ++ items, own, rest, ?_,
      .literal (.mk hts) hi, hrest⟩
    rw [Lexeme.split_literal hl.literal?, place_literal, hp, hr]
    simp
  | unclosed cs hl =>
    intro o
    rw [Lexeme.split_unclosed hl]
    refine ⟨[], [], _, rfl, .nil, .inr ⟨_, rfl, rfl, ?_⟩⟩
    simp [Lexeme.trivia]
  | other c cs hc ih =>
    intro o
    obtain ⟨items, own, rest, hr, hi, hrest⟩ := ih (o + byteLength (Lexeme.first c cs).chars)
    refine ⟨_, _, rest, ?_, .alone (Lexeme.standsAlone_first c cs) (not_unclosed_first cs o hc) hi, hrest⟩
    rw [Lexeme.split_other _ hc, place, hr, List.cons_append]

/-- The tokens of a source hold no unclosed literal if its lexemes hold none. -/
theorem not_unclosed_scan_iff (source : String) :
    (∀ t ∈ scan source, ¬ t.Unclosed) ↔ ∀ l ∈ Lexeme.split source.toList, ¬ l.Unclosed := by
  rw [scan_eq_place, List.forall_mem_append]
  have hend : ∀ t ∈ [(⟨.eof, "", source.utf8ByteSize⟩ : Token)], ¬ t.Unclosed := by
    intro t ht h
    rw [List.mem_singleton.mp ht] at h
    cases h.1
  rw [and_iff_left hend]
  refine (forall_place (P := fun k x => ¬(k = .trivia ∧ x.toList.head? = some '"')) 0 _).trans ?_
  simp only [String.toList_ofList]
  rfl

/-- The tokens of every source are a stream. -/
theorem stream_scan (source : String) : Stream (scan source) := by
  obtain ⟨items, own, rest, hp, hi, hrest⟩ := items_of_split source.toList 0
  exact ⟨items, own, rest, _, _, by rw [scan_eq_place, hp], hi, hrest⟩

end Formula.Token

namespace Formula

/-! ## Neighbours -/

/-- The kinds are not both plain text. -/
def Kind.Apart (k k' : Kind) : Prop := ∀ s s', k = plaintext s → k' ≠ plaintext s'

/-- What is no plain text may stand in front of everything. -/
theorem Kind.apart_cons {k : Kind} {ks : List Kind} (h : ∀ s, k ≠ plaintext s) (hks : ks.IsChain Apart) :
    (k :: ks).IsChain Apart :=
  hks.cons fun _ _ s _ hk => absurd hk (h s)

namespace Lexeme

/-- Where no plain text goes on, a literal goes on with something else. -/
theorem ReadsLiteral.head_of_extent {cs : List Char} {ls : List Lexeme} {r : List Char} (hl : ReadsLiteral cs ls r)
    (h : PlainText.extent cs = 0) : ∃ l ls', ls = l :: ls' ∧ ∀ s, l.kind ≠ .plaintext s := by
  cases hl with
  | close => exact ⟨_, _, rfl, by simp [stringEnd]⟩
  | text hrun hext _ => exact absurd (List.length_eq_zero_iff.mp (hext.symm.trans h)) hrun
  | interpolation hb hl => exact ⟨_, _, rfl, by simp [interpolationStart]⟩

mutual

theorem ReadsLiteral.apart : ∀ {cs : List Char} {ls : List Lexeme} {r : List Char}, ReadsLiteral cs ls r →
    ∀ {ks : List Kind}, ks.IsChain Kind.Apart → (ls.map (·.kind) ++ ks).IsChain Kind.Apart
  | _, _, _, .close, _, h => Kind.apart_cons (by simp [stringEnd]) h
  | _, _, _, @ReadsLiteral.text run cs ls r _ hext hl, ks, h => by
    -- the run goes as far as it can, so the literal goes on with something else
    obtain ⟨l, ls', hls, hne⟩ := hl.head_of_extent (PlainText.extent_of_run hext)
    have hrest := hl.apart h
    rw [hls] at hrest
    rw [hls]
    exact hrest.cons_cons fun _ s' _ => hne s'
  | _, _, _, @ReadsLiteral.interpolation cs mid inner ls r hb hl, ks, h => by
    have hend : (interpolationEnd.kind :: (ls.map (·.kind) ++ ks)).IsChain Kind.Apart :=
      Kind.apart_cons (by simp [interpolationEnd]) (hl.apart h)
    have hbody := Kind.apart_cons (k := interpolationStart.kind) (by simp [interpolationStart]) (hb.apart hend)
    simpa using hbody

theorem ReadsBody.apart : ∀ {d : Nat} {cs : List Char} {ls : List Lexeme} {r : List Char}, ReadsBody d cs ls r →
    ∀ {ks : List Kind}, ks.IsChain Kind.Apart → (ls.map (·.kind) ++ ks).IsChain Kind.Apart
  | _, _, _, _, .close, _, h => h
  | _, _, _, _, @ReadsBody.literal d cs mid inner ls r hl hb, ks, h => by
    have := Kind.apart_cons (k := stringStart.kind) (by simp [stringStart]) (hl.apart (hb.apart h))
    simpa using this
  | _, _, _, _, @ReadsBody.other d c cs ls r _ _ hb, _, h =>
    Kind.apart_cons (kind_first_ne_plaintext c cs) (hb.apart h)

end

theorem apart_split (cs : List Char) {ks : List Kind} (h : ks.IsChain Kind.Apart) :
    ((split cs).map (·.kind) ++ ks).IsChain Kind.Apart := by
  induction cs using split_induction with
  | nil => simpa using h
  | literal cs ls r hl ih =>
    have := Kind.apart_cons (k := stringStart.kind) (by simp [stringStart]) (hl.apart ih)
    simpa [split_literal hl.literal?] using this
  | unclosed cs hl =>
    rw [split_unclosed hl]
    exact Kind.apart_cons (by simp [trivia]) h
  | other c cs hc ih =>
    rw [split_other cs hc]
    exact Kind.apart_cons (kind_first_ne_plaintext c cs) ih

end Lexeme

namespace Token

/-- **The tokens of every source are well bracketed.** They are a stream, in which no plain text is empty, as it is
written or as it is meant, and no plain text follows another. -/
theorem scan_brackets (source : String) :
    Stream (scan source) ∧
    (∀ t ∈ scan source, ∀ s, t.kind = .plaintext s → t.lexeme ≠ "" ∧ s ≠ "") ∧
    ∀ pre t u post, scan source = pre ++ t :: u :: post →
      ∀ s s', t.kind = .plaintext s → u.kind ≠ .plaintext s' := by
  refine ⟨stream_scan source, ?_, ?_⟩
  · intro t ht s hs
    rw [scan_eq_place] at ht
    rcases List.mem_append.mp ht with ht | ht
    · refine (forall_place (P := fun k x => k = .plaintext s → x ≠ "" ∧ s ≠ "") 0 _).mpr ?_ t ht hs
      intro l hl hs
      exact ⟨by simpa using (Lexeme.nonempty_of_mem_split hl).1, Lexeme.text_ne_empty_of_mem_split hl hs⟩
    · rw [List.mem_singleton.mp ht] at hs
      cases hs
  · intro pre t u post h
    have hchain : ((scan source).map (·.kind)).IsChain Kind.Apart := by
      rw [scan_eq_place, List.map_append, kind_place]
      exact Lexeme.apart_split _ (.singleton _)
    rw [h, List.map_append, List.map_cons, List.map_cons] at hchain
    exact List.isChain_iff_forall_rel_of_append_cons_cons.mp hchain rfl

end Token

end Formula
