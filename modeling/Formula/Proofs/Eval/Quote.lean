import Formula.Proofs.Eval.Layout
import Formula.Proofs.Expr.SourceFailure
import Formula.Proofs.Lexeme.Written
import Formula.Proofs.Token.Outermost

/-!
# Quotes at the outermost level

A quote at the outermost level opens the literal that is written there, and scanning goes on behind that literal. If
none is written there, the quote and all that follows is a single inert token. The grammar does not see it, so the
source is worth as much as what stands in front of the quote, and only the end of the input is further away.

- `Token.scan_literal`, `Token.scan_unclosed`: the tokens in both cases.
- `Expr.ofSource_error_cases`: syntax errors point in front of the end of the source, or are about the end.
- `Environment.interpret_unclosed`: the value of a source with a literal that is never closed.
- `Environment.interpret_quote`: both cases, by what is written at the quote.
-/

namespace Formula

open Token

/-! ## Tokens -/

namespace Token

variable {a b : String}

/-- A literal at the outermost level is read, and the outermost level goes on behind it. -/
theorem scan_literal {lit rest : String} (hlit : Written.Literal lit.toList) (h : GoesOn a (lit ++ rest)) :
    GoesOn (a ++ lit) rest ∧ ∃ us x o, Pieces us ∧
      sourceText (⟨.stringStart, "\"", a.utf8ByteSize⟩ :: us ++ [⟨.stringEnd, x, o⟩]) = lit.toList ∧
      scan (a ++ lit ++ rest) = (scan a).dropLast ++
        (⟨.stringStart, "\"", a.utf8ByteSize⟩ :: us ++ [⟨.stringEnd, x, o⟩]) ++
          (scan rest).map (shift (a ++ lit).utf8ByteSize) := by
  obtain ⟨ls, hls⟩ := h
  obtain ⟨cs, inner, hcs, hinner, htext⟩ := hlit.exists_reads rest.toList
  have hread : Lexeme.ReadsOuter (lit.toList ++ rest.toList) (Lexeme.stringStart :: inner) rest.toList := by
    rw [hcs]
    simpa using Lexeme.ReadsOuter.literal hinner .nil
  have hfront : Lexeme.split a.toList = ls := split_of_readsOuter hls
  rw [String.toList_append] at hls
  have hgoes : Lexeme.ReadsOuter ((a ++ lit).toList ++ rest.toList) (ls ++ Lexeme.stringStart :: inner) rest.toList := by
    rw [String.toList_append, List.append_assoc]
    exact hls.append hread
  obtain ⟨us, x, o, hplace, hus⟩ := pieces_of_reads hinner (a.utf8ByteSize + 1)
  have hlexemes : place a.utf8ByteSize (Lexeme.stringStart :: inner) =
      ⟨.stringStart, "\"", a.utf8ByteSize⟩ :: us ++ [⟨.stringEnd, x, o⟩] := congrArg (List.cons _) hplace
  refine ⟨⟨_, hgoes⟩, us, x, o, hus, ?_, ?_⟩
  · rw [← hlexemes, sourceText_place, htext]
  · rw [scan_append ⟨_, hgoes⟩, dropLast_scan, split_of_readsOuter hgoes, ← hfront, place_append, Lexeme.text_split,
      byteLength_toList, Nat.zero_add, hlexemes, ← dropLast_scan]

/-- A quote at the outermost level where no literal is written makes the rest of the source inert. -/
theorem scan_unclosed (hq : b.toList.head? = some '"') (h : GoesOn a b)
    (hb : ∀ lit rest : String, b = lit ++ rest → ¬ Written.Literal lit.toList) :
    scan (a ++ b) = (scan a).dropLast ++ [⟨.trivia, b, a.utf8ByteSize⟩, ⟨.eof, "", (a ++ b).utf8ByteSize⟩] := by
  obtain ⟨cs, hcs⟩ : ∃ cs, b.toList = '"' :: cs := List.head?_eq_some_iff.mp hq
  have hnone : Lexeme.literal? cs = none := Lexeme.literal?_eq_none_iff.mpr fun lit r hlit heq => by
    refine hb (String.ofList lit) (String.ofList r) ?_ (by rwa [String.toList_ofList])
    rw [← String.ofList_append, ← heq, ← hcs, String.ofList_toList]
  have hsplit : Lexeme.split b.toList = [Lexeme.trivia b.toList] := by
    rw [hcs, Lexeme.split_unclosed hnone]
  rw [scan_append h, scan_eq_place b, hsplit]
  simp [place, Lexeme.trivia, shift, Nat.add_comm]

end Token

/-! ## Syntax errors -/

/-- The error, with the end of the input at the offset. -/
def Error.endAt (o : Nat) : Error → Error
  | parse (.unexpectedEndOfInput _) => parse (.unexpectedEndOfInput o)
  | err => err

theorem EvalError.Fits.kind_ne_eof {pre post : List Token} {t : Token} {err : EvalError} (h : err.Fits pre t post) :
    t.kind ≠ .eof := by
  intro ht
  cases err <;> simp_all [Fits, BinaryOperator.ofKind?]

/-- A syntax error is about the end of the source, or points in front of it. -/
theorem Expr.ofSource_error_cases {source : String} {err : ParseError} (h : ofSource source = .error err) :
    err = .unexpectedEndOfInput source.utf8ByteSize ∨
      (∀ o, err ≠ .unexpectedEndOfInput o) ∧ err.offset < source.utf8ByteSize := by
  obtain ⟨-, pre, rest, u, hs, hr, hu⟩ := ofTokens_eq_error_iff.mp h
  rcases hr.next hs with ⟨rfl, rfl, hb⟩ | ⟨t, post, bs, rfl, ht, hn⟩
  · exact .inl (missesEnd_of_stuck hr hb hu).1
  · have hmem : t ∈ significant (scan source) := by simp [hs]
    have hcites := cites_of_stuck hmem ht hn hu
    refine .inr ⟨?_, ?_⟩
    · rintro o rfl
      cases hcites.found
    · rw [hcites.offset]
      exact offset_lt_of_mem_scan (List.mem_filter.mp hcites.mem).1 ht

/-! ## Sources -/

/-- An error that points to where nothing moves stays as it is. -/
theorem ParseError.relocate_of_fixed {g : Nat → Nat} {err : ParseError} (h : g err.offset = err.offset) :
    err.relocate g = err := by
  cases err <;> exact congrArg _ h

theorem EvalError.relocate_of_fixed {g : Nat → Nat} {err : EvalError} (h : g err.offset = err.offset) :
    err.relocate g = err := by
  cases err <;> exact congrArg _ h

namespace Environment

variable {φ : Type} (env : Environment φ)

/-- An error of a source is about its end, or points in front of it. -/
theorem interpret_error_cases {source : String} {err : Error} (h : env.interpret source = .error err) :
    err = .parse (.unexpectedEndOfInput source.utf8ByteSize) ∨
      (∀ o, err.endAt o = err) ∧ err.offset < source.utf8ByteSize := by
  cases err with
  | parse err =>
    have hparse : Expr.ofSource source = .error err := by
      unfold interpret at h
      split at h
      · rename_i err' herr
        cases h
        exact herr
      · obtain ⟨_, -, h⟩ := mapError_eq_error_iff.mp h
        cases h
    rcases Expr.ofSource_error_cases hparse with rfl | ⟨hne, hlt⟩
    · exact .inl rfl
    · refine .inr ⟨fun o => ?_, hlt⟩
      cases err with
      | unexpectedEndOfInput o => exact absurd rfl (hne o)
      | _ => rfl
  | eval err =>
    obtain ⟨pre, t, post, hts, ho, hf⟩ := pointsInto_of_interpret_error h
    have ht : t ∈ Expr.significant (scan source) := by simp [hts]
    refine .inr ⟨fun _ => rfl, ?_⟩
    rw [Error.offset, ← ho]
    exact offset_lt_of_mem_scan (List.mem_filter.mp ht).1 hf.kind_ne_eof

/-- An error of a source, with a literal behind it that is never closed. -/
theorem relocate_of_interpret_error {a : String} {err : Error} (h : env.interpret a = .error err) (n : Nat) :
    err.relocate (displace a.utf8ByteSize n) = err.endAt (a.utf8ByteSize + n) := by
  rcases env.interpret_error_cases h with rfl | ⟨hfix, hlt⟩
  · exact congrArg (fun o => Error.parse (.unexpectedEndOfInput o)) (if_neg (Nat.lt_irrefl _))
  · have hplace : displace a.utf8ByteSize n err.offset = err.offset := if_pos hlt
    rw [hfix]
    cases err with
    | parse err => exact congrArg Error.parse (ParseError.relocate_of_fixed hplace)
    | eval err => exact congrArg Error.eval (EvalError.relocate_of_fixed hplace)

/-- A literal that is never closed changes nothing but where the source ends. -/
theorem interpret_unclosed {a b : String}
    (h : scan (a ++ b) = (scan a).dropLast ++ [⟨.trivia, b, a.utf8ByteSize⟩, ⟨.eof, "", (a ++ b).utf8ByteSize⟩]) :
    env.interpret (a ++ b) = (env.interpret a).mapError (·.endAt (a ++ b).utf8ByteSize) := by
  have hnonempty : ∀ l ∈ Lexeme.split a.toList, l.chars ≠ [] := fun l hl => (Lexeme.nonempty_of_mem_split hl).1
  have hfront : (seen 0 (Lexeme.split a.toList)).map (·.relocate (displace a.utf8ByteSize b.utf8ByteSize)) =
      seen 0 (Lexeme.split a.toList) := by
    refine seen_displace_of_le hnonempty ?_
    rw [Lexeme.text_split, byteLength_toList, Nat.zero_add]
  have hend : displace a.utf8ByteSize b.utf8ByteSize a.utf8ByteSize = (a ++ b).utf8ByteSize := by
    rw [String.utf8ByteSize_append]
    exact if_neg (Nat.lt_irrefl _)
  have hseen : Expr.significant (scan (a ++ b)) =
      (Expr.significant (scan a)).map (·.relocate (displace a.utf8ByteSize b.utf8ByteSize)) := by
    rw [h, dropLast_scan, Expr.significant_append, Grammar.significant_scan a, List.map_append, List.map_singleton,
      relocate, hend]
    exact congrArg (· ++ _) hfront.symm
  rw [env.interpret_relocate _ hseen, String.utf8ByteSize_append]
  cases herr : env.interpret a with
  | ok v => rfl
  | error err => exact congrArg Except.error (env.relocate_of_interpret_error herr _)

/-- **Literals are recognised exactly.** Take a quote where the outermost level starts a token. If a literal is written
there, it is the only one, its tokens are those of a literal from its opening to its closing quote, and the outermost
level goes on behind it. If none is written there, the rest of the source is one inert token, and the source has the
value of what stands in front of it, or fails as that does, where an end of the input is now that of the source. -/
theorem interpret_quote {a b : String} (hq : b.toList.head? = some '"') (h : GoesOn a b) :
    (∀ lit rest : String, b = lit ++ rest → Written.Literal lit.toList →
      (∀ lit' rest' : String, b = lit' ++ rest' → Written.Literal lit'.toList → lit' = lit) ∧
      ∃ us x o, Token.Literal (⟨.stringStart, "\"", a.utf8ByteSize⟩ :: us ++ [⟨.stringEnd, x, o⟩]) ∧
        sourceText (⟨.stringStart, "\"", a.utf8ByteSize⟩ :: us ++ [⟨.stringEnd, x, o⟩]) = lit.toList ∧
        scan (a ++ b) = (scan a).dropLast ++ (⟨.stringStart, "\"", a.utf8ByteSize⟩ :: us ++ [⟨.stringEnd, x, o⟩]) ++
          (scan rest).map (shift (a ++ lit).utf8ByteSize) ∧
        GoesOn (a ++ lit) rest) ∧
    ((∀ lit rest : String, b = lit ++ rest → ¬ Written.Literal lit.toList) →
      scan (a ++ b) = (scan a).dropLast ++ [⟨.trivia, b, a.utf8ByteSize⟩, ⟨.eof, "", (a ++ b).utf8ByteSize⟩] ∧
      ∀ {φ : Type} (env : Environment φ),
        env.interpret (a ++ b) = (env.interpret a).mapError (·.endAt (a ++ b).utf8ByteSize) ∧
        ∀ o, env.interpret a = .error (.parse (.unexpectedEndOfInput o)) → o = a.utf8ByteSize) := by
  refine ⟨fun lit rest hb hlit => ⟨fun lit' rest' hb' hlit' => ?_, ?_⟩, fun hb => ?_⟩
  · rw [hb] at hb'
    have htext : lit'.toList ++ rest'.toList = lit.toList ++ rest.toList := by
      rw [← String.toList_append, ← hb', String.toList_append]
    exact String.toList_injective (hlit'.eq_of_append_eq hlit htext)
  · subst hb
    obtain ⟨hbehind, us, x, o, hus, htext, hscan⟩ := scan_literal hlit h
    exact ⟨us, x, o, .mk hus, htext, by rw [← String.append_assoc, hscan], hbehind⟩
  · have hscan := scan_unclosed hq h hb
    refine ⟨hscan, fun env => ⟨env.interpret_unclosed hscan, fun o ho => ?_⟩⟩
    rcases env.interpret_error_cases ho with heq | ⟨hfix, -⟩
    · cases heq
      rfl
    · have hother := hfix (o + 1)
      simp [Error.endAt] at hother

/-- A literal holds one in an interpolation, and the quote behind it opens nothing. A quote behind a sign is not the
operand of that sign, whose absence is noticed behind the quote. -/
theorem interpret_quote_nested :
    (Written.Literal "\"\\(\")\")\"".toList ∧ GoesOn "" "\"\\(\")\")\"\"" ∧ GoesOn "\"\\(\")\")\"" "\"") ∧
    GoesOn "-" "\"" ∧ (∀ lit rest : String, "\"" = lit ++ rest → ¬ Written.Literal lit.toList) ∧
    bare.interpret "-" = .error (.parse (.unexpectedEndOfInput 1)) ∧
    bare.interpret "-\"" = .error (.parse (.unexpectedEndOfInput 2)) := by
  have hinner : Written.Body ['"', ')', '"'] := .literal (.mk (.char (by decide) (by decide) .nil)) .nil
  have hlit : Written.Literal "\"\\(\")\")\"".toList := .mk (.interpolation hinner .nil)
  have hstart : GoesOn "" "\"\\(\")\")\"\"" := ⟨[], .nil⟩
  obtain ⟨-, -, -, -, -, -, -, hbehind⟩ := (interpret_quote (by decide) hstart).1 _ "\"" rfl hlit
  have hsign : GoesOn "-" "\"" := ⟨_, .other (by decide) .nil⟩
  have hnone : Lexeme.literal? [] = none := Lexeme.literal?_nil
  have hopen : ∀ lit rest : String, "\"" = lit ++ rest → ¬ Written.Literal lit.toList := fun lit rest heq hlit => by
    refine Lexeme.literal?_eq_none_iff.mp hnone _ rest.toList hlit ?_
    rw [← String.toList_append, ← heq]
    rfl
  have hfront : bare.interpret "-" = .error (.parse (.unexpectedEndOfInput 1)) := by cbv
  have hquote := (((interpret_quote (by decide) hsign).2 hopen).2 bare).1
  rw [hfront] at hquote
  exact ⟨⟨hlit, hstart, hbehind⟩, hsign, hopen, hfront, hquote⟩

end Environment

end Formula
