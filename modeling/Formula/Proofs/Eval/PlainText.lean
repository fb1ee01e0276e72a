import Formula.Proofs.Eval.Interpolation
import Formula.Proofs.Lexeme.Written

/-!
# Plain text is decoded exactly

What stands between the quotes and interpolations of a string literal is one token, however long it is: it covers the
units as they are written, and carries what they stand for, one behind the other. Hence a literal can be written for
every text.

- `Lexeme.Chunked`: the lexemes of units with interpolations between them.
- `Lexeme.exists_chunked`: a literal with any number of interpolations is read chunk by chunk.
- `Token.units_of_mem_scan`: plain text that is read in any source.
- `Expr.ofSource_units`: the expression of a literal without interpolations.
- `plainText_exact`: all of it about sources.
-/

namespace Formula

open Grammar Token

/-- A lexeme that is plain text is written in units, and carries what they stand for. -/
def Kind.InUnits (k : Kind) (chars : List Char) : Prop :=
  ∀ s, k = .plaintext s → ∃ us, us ≠ [] ∧ PlainText.raw us = chars ∧ PlainText.meaning us = s.toList

namespace Lexeme

/-! ## Chunks -/

/-- What is between the quotes of a literal: units, and then interpolations, each with the units behind it. -/
def contents (us : List TextUnit) : List (List Char × List TextUnit) → List Char
  | [] => PlainText.raw us
  | (body, vs) :: rest => PlainText.raw us ++ '\\' :: '(' :: body ++ ')' :: contents vs rest

/-- The lexemes are the chunks of units with the lexemes of the interpolations between them. -/
inductive Chunked : List TextUnit → List (List Char × List TextUnit) → List Lexeme → Prop
  | last (us : List TextUnit) : Chunked us [] (chunk us)
  | interpolation {us vs : List TextUnit} {rest : List (List Char × List TextUnit)} {inner ls : List Lexeme} :
      Chunked vs rest ls → Chunked us ((text inner, vs) :: rest)
        (chunk us ++ (interpolationStart :: inner ++ interpolationEnd :: ls))

/-- The units of a literal are read chunk by chunk. -/
theorem exists_chunked {rest : List (List Char × List TextUnit)} (hrest : ∀ p ∈ rest, Written.Body p.1)
    (us : List TextUnit) (r : List Char) :
    ∃ ls, Chunked us rest ls ∧ ReadsLiteral (contents us rest ++ '"' :: r) (ls ++ [stringEnd]) r := by
  induction rest generalizing us with
  | nil =>
    refine ⟨chunk us, .last us, ?_⟩
    rw [chunk_eq_textRun]
    exact readsLiteral_raw us rfl .close
  | cons p rest ih =>
    obtain ⟨body, vs⟩ := p
    obtain ⟨hbody, hrest⟩ := List.forall_mem_cons.mp hrest
    obtain ⟨ls, hls, houter⟩ := ih hrest vs
    obtain ⟨inner, hinner⟩ :=
      (exists_reads_of_length _).2 0 body (contents vs rest ++ '"' :: r) (.zero hbody) (Nat.lt_succ_self _)
    obtain rfl : text inner = body := List.append_cancel_right hinner.text_append
    refine ⟨_, .interpolation hls, ?_⟩
    have hreads := readsLiteral_raw us rfl (.interpolation hinner houter)
    rw [chunk_eq_textRun]
    simpa [contents] using hreads

/-! ## Plain text in any source -/

theorem inUnits_plaintext {run cs : List Char} (hrun : run ≠ []) (hcs : cs ≠ [])
    (h : PlainText.extent (run ++ cs) = run.length) : (plaintext run).kind.InUnits run := by
  rintro s hs
  obtain rfl := Kind.plaintext.inj hs
  obtain ⟨us, rfl⟩ := PlainText.exists_units hcs h
  refine ⟨us, ?_, rfl, ?_⟩
  · rintro rfl
    exact hrun rfl
  · rw [String.toList_ofList, PlainText.decode_raw]

/-- The plain text of a source is written in units. -/
theorem inUnits_split (cs : List Char) : ∀ l ∈ split cs, l.kind.InUnits l.chars := by
  have hinside : HoldsInside fun l => l.kind.InUnits l.chars :=
    { stringStart := fun _ => nofun
      stringEnd := fun _ => nofun
      interpolationStart := fun _ => nofun
      interpolationEnd := fun _ => nofun
      plaintext := inUnits_plaintext
      first := fun _ s hs => absurd hs (kind_first_ne_plaintext _ _ s) }
  exact forall_mem_split hinside (fun _ _ => nofun) cs

end Lexeme

/-- The plain text among the tokens of a source is written in units. -/
theorem Token.inUnits_scan (source : String) : ∀ t ∈ scan source, t.kind.InUnits t.lexeme.toList := by
  rw [scan_eq_place, List.forall_mem_append, List.forall_mem_singleton]
  refine ⟨(forall_place (P := fun k x => k.InUnits x.toList) 0 _).mpr ?_, fun _ => nofun⟩
  simpa only [String.toList_ofList] using Lexeme.inUnits_split source.toList

/-! ## Literals without interpolations -/

section Units

variable {us : List TextUnit} {s : String} (hs : s.toList = PlainText.raw us)

include hs

/-- The lexemes of a literal without interpolations. -/
theorem split_units : Lexeme.split ("\"" ++ s ++ "\"").toList =
    Lexeme.stringStart :: (Lexeme.chunk us ++ [Lexeme.stringEnd]) := by
  have hreads : Lexeme.ReadsLiteral (PlainText.raw us ++ ['"']) (Lexeme.textRun (PlainText.raw us) ++
      [Lexeme.stringEnd]) [] := Lexeme.readsLiteral_raw us rfl .close
  have htext : ("\"" ++ s ++ "\"").toList = '"' :: (PlainText.raw us ++ ['"']) := by simp [hs]
  rw [htext, Lexeme.split_literal hreads.literal?, Lexeme.split_nil, List.append_nil, Lexeme.chunk_eq_textRun]

/-- The tokens of a literal without interpolations. -/
theorem scan_units (hne : us ≠ []) : scan ("\"" ++ s ++ "\"") =
    [⟨.stringStart, "\"", 0⟩, ⟨.plaintext (String.ofList (PlainText.meaning us)), s, 1⟩,
      ⟨.stringEnd, "\"", 1 + s.utf8ByteSize⟩, ⟨.eof, "", 2 + s.utf8ByteSize⟩] := by
  have hend : 2 + s.utf8ByteSize = 1 + s.utf8ByteSize + 1 := by omega
  have hsize : s.utf8ByteSize = byteLength (PlainText.raw us) := by rw [← hs, byteLength_toList]
  have htext : s = String.ofList (PlainText.raw us) := by rw [← hs, String.ofList_toList]
  rw [scan, split_units hs, Lexeme.chunk, if_neg hne, hend, hsize, htext]
  rfl

/-- The expression of a literal without interpolations. -/
theorem Expr.ofSource_units :
    ofSource ("\"" ++ s ++ "\"") = .ok (some (.ofSegments (texts (String.ofList (PlainText.meaning us))) 0)) := by
  have hplace : place 0 (Lexeme.stringStart :: (Lexeme.chunk us ++ [Lexeme.stringEnd])) =
      ⟨.stringStart, "\"", 0⟩ :: place 1 (Lexeme.chunk us) ++
        [⟨.stringEnd, "\"", 1 + byteLength (Lexeme.text (Lexeme.chunk us))⟩] := by
    rw [place, place_append]
    rfl
  have hchunk : significant (place 1 (Lexeme.chunk us)) = place 1 (Lexeme.chunk us) := by
    rw [Lexeme.chunk_eq_textRun, significant_textRun]
  have hend : ∀ o, significant [⟨.stringEnd, "\"", o⟩] = [⟨.stringEnd, "\"", o⟩] := fun _ => rfl
  have hpieces := Segments.none.chunk us 1
  rw [ofSource, ofTokens_eq_some_iff_derives, sentence_scan, split_units hs, hplace, List.cons_append,
    significant_cons rfl, significant_append, hchunk, hend]
  exact Derives.weaken (.literal hpieces) (by decide)

end Units

namespace Environment

variable {φ : Type} (env : Environment φ)

theorem eval_ofSegments_texts (t : String) (o : Nat) : env.eval (.ofSegments (Expr.texts t) o) = .ok (.text t) := by
  unfold Expr.texts
  split
  · rename_i h
    subst h
    rfl
  · rfl

/-- The value of a literal without interpolations is what its units stand for. -/
theorem interpret_units {us : List TextUnit} {s : String} (hs : s.toList = PlainText.raw us) :
    env.interpret ("\"" ++ s ++ "\"") = .ok (.text (String.ofList (PlainText.meaning us))) := by
  rw [env.interpret_of_ofSource (Expr.ofSource_units hs), eval_ofSegments_texts]
  rfl

/-- Every text is the value of a literal. -/
theorem interpret_encode (t : String) :
    env.interpret ("\"" ++ String.ofList (PlainText.encode t.toList) ++ "\"") = .ok (.text t) := by
  obtain ⟨us, hraw, hmeaning⟩ := PlainText.exists_units_of_text t.toList
  have hencode : (String.ofList (PlainText.encode t.toList)).toList = PlainText.raw us := by
    rw [String.toList_ofList, hraw]
  rw [env.interpret_units hencode, hmeaning, String.ofList_toList]

end Environment

/-- **Plain text is decoded exactly.** Between two quotes, units are one token that covers them as they are written and
carries what they stand for. With interpolations between them, they are one such token for each chunk. Plain text in any
source is written in units, and it carries what these stand for, however they are told apart. And every text is the
value of the literal that is written with a backslash before each quote and each backslash. -/
theorem plainText_exact :
    (∀ (us : List TextUnit) (s : String), us ≠ [] → s.toList = PlainText.raw us →
      scan ("\"" ++ s ++ "\"") =
        [⟨.stringStart, "\"", 0⟩, ⟨.plaintext (String.ofList (PlainText.meaning us)), s, 1⟩,
          ⟨.stringEnd, "\"", 1 + s.utf8ByteSize⟩, ⟨.eof, "", 2 + s.utf8ByteSize⟩]) ∧
    (∀ (us : List TextUnit) (rest : List (List Char × List TextUnit)), (∀ p ∈ rest, Written.Body p.1) →
      ∃ ls, Lexeme.Chunked us rest ls ∧ scan ("\"" ++ String.ofList (Lexeme.contents us rest) ++ "\"") =
        locate 0 (Lexeme.stringStart :: (ls ++ [Lexeme.stringEnd]))) ∧
    (∀ (source : String) (t : Token) (s : String), t ∈ scan source → t.kind = .plaintext s →
      (∃ us, us ≠ [] ∧ PlainText.raw us = t.lexeme.toList) ∧
      ∀ us, PlainText.raw us = t.lexeme.toList → PlainText.meaning us = s.toList) ∧
    ∀ {φ : Type} (env : Environment φ) (t : String),
      env.interpret ("\"" ++ String.ofList (PlainText.encode t.toList) ++ "\"") = .ok (.text t) := by
  refine ⟨fun us s hne hs => scan_units hs hne, fun us rest hrest => ?_, fun source t s ht hs => ?_,
    fun env t => env.interpret_encode t⟩
  · obtain ⟨ls, hls, hreads⟩ := Lexeme.exists_chunked hrest us []
    refine ⟨ls, hls, ?_⟩
    have htext : ("\"" ++ String.ofList (Lexeme.contents us rest) ++ "\"").toList =
        '"' :: (Lexeme.contents us rest ++ ['"']) := by simp
    rw [scan, htext, Lexeme.split_literal hreads.literal?, Lexeme.split_nil, List.append_nil]
  · obtain ⟨us, hne, hraw, hmeaning⟩ := inUnits_scan source t ht s hs
    refine ⟨⟨us, hne, hraw⟩, fun vs hvs => ?_⟩
    rw [← hmeaning, ← PlainText.decode_raw, ← PlainText.decode_raw, hvs, hraw]

/-- A text with an escape of one character, a backslash that stands for itself and a quote. -/
theorem plainText_exact_escapes :
    "a\\n\\q\\\"".toList = PlainText.raw [.char 'a' (by decide), .escape 'n' (by decide), .escape 'q' (by decide),
      .escape '"' (by decide)] ∧
    scan ("\"" ++ "a\\n\\q\\\"" ++ "\"") =
      [⟨.stringStart, "\"", 0⟩, ⟨.plaintext "a\n\\q\"", "a\\n\\q\\\"", 1⟩, ⟨.stringEnd, "\"", 8⟩, ⟨.eof, "", 9⟩] := by
  obtain ⟨hunits, -, -, -⟩ := plainText_exact
  have hraw : "a\\n\\q\\\"".toList = PlainText.raw [.char 'a' (by decide), .escape 'n' (by decide),
      .escape 'q' (by decide), .escape '"' (by decide)] := rfl
  exact ⟨hraw, hunits _ _ (by simp) hraw⟩

end Formula
