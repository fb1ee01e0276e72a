import Formula.Proofs.Eval.Shift
import Formula.Proofs.Expr.Balance
import Formula.Proofs.Lexeme.Extend
import Formula.Proofs.Token.Brackets

/-!
# Every expression can be interpolated

A source that is an expression can stand in a string literal between two texts, as it is: its parentheses are balanced,
so the `)` behind it is the first one that closes the interpolation, and it is read there as it is alone. The literal is
an expression again, so sources can be nested to any depth.

- `split_embed`, `sentence_embed`: the lexemes of the literal, and what the grammar sees of them.
- `Expr.ofSource_embed`: the expression of the literal.
- `Environment.interpret_embed`, `Environment.interpret_nest`: the value of a source in one literal, and in any number
  of them, one in the other.
- `embed_interpolates`: all of it.
-/

namespace Formula

open Grammar Token

/-- The string literal in which the source `s` stands between two texts. -/
def embed (p s q : String) : String := "\"" ++ p ++ "\\(" ++ s ++ ")" ++ q ++ "\""

/-- The source holds no string literal that is never closed. -/
def Closed (source : String) : Prop := ∀ t ∈ scan source, ¬ t.Unclosed

/-- The piece of a string literal that a text is, if it is not empty. -/
def Expr.texts (p : String) : List Expr := if p = "" then [] else [.string p]

theorem toList_embed (p s q : String) : (embed p s q).toList =
    '"' :: (p.toList ++ '\\' :: '(' :: (s.toList ++ ')' :: (q.toList ++ ['"']))) := by
  simp [embed]

/-! ## Significant tokens -/

theorem significant_textRun (cs : List Char) (o : Nat) :
    Expr.significant (place o (Lexeme.textRun cs)) = place o (Lexeme.textRun cs) := by
  unfold Lexeme.textRun
  split <;> rfl

/-- Units as the next piece of a string literal. -/
theorem Grammar.Segments.chunk {ts : List Token} {es : List Expr} (h : Segments ts es) (us : List TextUnit) (o : Nat) :
    Segments (ts ++ place o (Lexeme.chunk us)) (es ++ Expr.texts (String.ofList (PlainText.meaning us))) := by
  unfold Lexeme.chunk Expr.texts
  by_cases hne : us = []
  · simpa [hne, place] using h
  · have hmeaning : PlainText.meaning us ≠ [] := by
      rw [← PlainText.decode_raw]
      exact PlainText.decode_ne_nil (PlainText.raw_ne_nil hne)
    rw [if_neg hne, if_neg (by simpa using hmeaning)]
    exact .plaintext h

/-- A text as the next piece of a string literal. -/
theorem Grammar.Segments.texts {ts : List Token} {es : List Expr} (h : Segments ts es) {p : String}
    (hp : PlainText.Verbatim p.toList) (o : Nat) :
    Segments (ts ++ place o (Lexeme.textRun p.toList)) (es ++ Expr.texts p) := by
  obtain ⟨us, hraw, hmeaning⟩ := hp.exists_units
  have hchunk := h.chunk us o
  rwa [Lexeme.chunk_eq_textRun, hraw, hmeaning, String.ofList_toList] at hchunk

section Embed

variable {p s q : String} {e : Expr} (hs : Expr.ofSource s = .ok (some e)) (hc : Closed s)
  (hp : PlainText.Verbatim p.toList) (hq : PlainText.Verbatim q.toList)

include hs hc hp hq

/-! ## The lexemes -/

theorem readsLiteral_embed :
    Lexeme.ReadsLiteral (p.toList ++ '\\' :: '(' :: (s.toList ++ ')' :: (q.toList ++ ['"'])))
      (Lexeme.textRun p.toList ++ (Lexeme.interpolationStart :: Lexeme.split s.toList ++
        Lexeme.interpolationEnd :: (Lexeme.textRun q.toList ++ [Lexeme.stringEnd]))) [] := by
  have hend : Lexeme.ReadsLiteral (q.toList ++ ['"']) (Lexeme.textRun q.toList ++ [Lexeme.stringEnd]) [] :=
    Lexeme.readsLiteral_verbatim hq rfl .close
  have hbody : Lexeme.ReadsBody 0 (s.toList ++ ')' :: (q.toList ++ ['"'])) (Lexeme.split s.toList)
      (q.toList ++ ['"']) :=
    Lexeme.readsBody_split _ ((not_unclosed_scan_iff s).mp hc) ((Lexeme.balanced_split hs).depthBehind 0)
  exact Lexeme.readsLiteral_verbatim hp rfl (.interpolation hbody hend)

/-- The lexemes of the literal are those of the source between the texts. -/
theorem split_embed : Lexeme.split (embed p s q).toList = Lexeme.stringStart :: (Lexeme.textRun p.toList ++
    (Lexeme.interpolationStart :: Lexeme.split s.toList ++
      Lexeme.interpolationEnd :: (Lexeme.textRun q.toList ++ [Lexeme.stringEnd]))) := by
  rw [toList_embed, Lexeme.split_literal (readsLiteral_embed hs hc hp hq).literal?, Lexeme.split_nil, List.append_nil]

/-- The literal is closed, and so are all those in it. -/
theorem closed_embed : Closed (embed p s q) := by
  rw [Closed, not_unclosed_scan_iff, split_embed hs hc hp hq]
  intro l hl
  rcases List.mem_cons.mp hl with rfl | hl
  · exact Lexeme.Occurs.stringStart.not_unclosed
  · exact ((readsLiteral_embed hs hc hp hq).occurs l hl).not_unclosed

/-- The tokens of the literal are those of the source, further on and between the texts. -/
theorem place_embed : place 0 (Lexeme.split (embed p s q).toList) =
    ⟨.stringStart, "\"", 0⟩ :: (place 1 (Lexeme.textRun p.toList) ++
      (⟨.interpolationStart, "\\(", p.utf8ByteSize + 1⟩ ::
          (place 0 (Lexeme.split s.toList)).map (shift (p.utf8ByteSize + 3)) ++
        ⟨.interpolationEnd, ")", p.utf8ByteSize + 3 + s.utf8ByteSize⟩ ::
          (place (p.utf8ByteSize + 4 + s.utf8ByteSize) (Lexeme.textRun q.toList) ++
            [⟨.stringEnd, "\"", p.utf8ByteSize + 4 + s.utf8ByteSize + q.utf8ByteSize⟩]))) := by
  have hquote : ∀ ls, place 0 (Lexeme.stringStart :: ls) = ⟨.stringStart, "\"", 0⟩ :: place 1 ls := fun _ => rfl
  have hend : ∀ o, place o [Lexeme.stringEnd] = [⟨.stringEnd, "\"", o⟩] := fun _ => rfl
  have hp' : 1 + byteLength (Lexeme.text (Lexeme.textRun p.toList)) = p.utf8ByteSize + 1 := by
    rw [Lexeme.text_textRun, byteLength_toList, Nat.add_comm]
  have hs' : p.utf8ByteSize + 1 + 2 + byteLength (Lexeme.text (Lexeme.split s.toList)) =
      p.utf8ByteSize + 3 + s.utf8ByteSize := by
    rw [Lexeme.text_split, byteLength_toList]
  have hq' : byteLength (Lexeme.text (Lexeme.textRun q.toList)) = q.utf8ByteSize := by
    rw [Lexeme.text_textRun, byteLength_toList]
  have hnext : p.utf8ByteSize + 3 + s.utf8ByteSize + 1 = p.utf8ByteSize + 4 + s.utf8ByteSize := by omega
  have hinner : place (p.utf8ByteSize + 1 + 2) (Lexeme.split s.toList) =
      (place 0 (Lexeme.split s.toList)).map (shift (p.utf8ByteSize + 3)) := by
    rw [← place_add, Nat.zero_add]
  rw [split_embed hs hc hp hq, hquote, place_append, hp', place_interpolation, place_append, hinner, hs', hq', hend,
    hnext]

/-! ## The expression -/

/-- What the grammar sees of the literal is what it sees of the source, further on and between the texts. -/
theorem sentence_embed : sentence (scan (embed p s q)) =
    ⟨.stringStart, "\"", 0⟩ :: (place 1 (Lexeme.textRun p.toList) ++
        ⟨.interpolationStart, "\\(", p.utf8ByteSize + 1⟩ :: (sentence (scan s)).map (shift (p.utf8ByteSize + 3)) ++
        [⟨.interpolationEnd, ")", p.utf8ByteSize + 3 + s.utf8ByteSize⟩] ++
        place (p.utf8ByteSize + 4 + s.utf8ByteSize) (Lexeme.textRun q.toList)) ++
      [⟨.stringEnd, "\"", p.utf8ByteSize + 4 + s.utf8ByteSize + q.utf8ByteSize⟩] := by
  have hend : ∀ o, Expr.significant [⟨.stringEnd, "\"", o⟩] = [⟨.stringEnd, "\"", o⟩] := fun _ => rfl
  rw [sentence_scan, sentence_scan, place_embed hs hc hp hq, Expr.significant_cons rfl, Expr.significant_append,
    significant_textRun, List.cons_append, Expr.significant_cons rfl, Expr.significant_append, Expr.significant_shift,
    Expr.significant_cons rfl, Expr.significant_append, significant_textRun, hend]
  simp

/-- The expression of the literal is that of the source, further on and joined with the texts. -/
theorem ofSource_embed : Expr.ofSource (embed p s q) = .ok (some (.ofSegments (Expr.texts p ++
    .interpolation (e.shift (p.utf8ByteSize + 3)) (p.utf8ByteSize + 1) :: Expr.texts q) 0)) := by
  have hinner := (Expr.ofTokens_eq_some_iff_derives.mp hs).shift (p.utf8ByteSize + 3)
  have hleft : Segments (place 1 (Lexeme.textRun p.toList)) (Expr.texts p) := Segments.none.texts hp 1
  rw [Expr.ofSource, Expr.ofTokens_eq_some_iff_derives, sentence_embed hs hc hp hq, List.append_cons (Expr.texts p)]
  exact Derives.weaken (.literal ((hleft.interpolation hinner).texts hq _)) (by decide)

end Embed

/-! ## The value -/

theorem verbatim_empty : PlainText.Verbatim "".toList := by simp [PlainText.Verbatim]

theorem Value.interpolate_interpolate {φ : Type} (v : Value φ) : v.interpolate.interpolate = v.interpolate := by
  cases v <;> rfl

/-- Without texts, the literal is its interpolation. -/
theorem ofSource_embed_empty {s : String} {e : Expr} (hs : Expr.ofSource s = .ok (some e)) (hc : Closed s) :
    Expr.ofSource (embed "" s "") = .ok (some (.interpolation (e.shift 3) 1)) :=
  ofSource_embed hs hc verbatim_empty verbatim_empty

namespace Environment

variable {φ : Type} (env : Environment φ) {s : String} {e : Expr}

/-- The value of a source is that of its expression. -/
theorem interpret_of_ofSource (hs : Expr.ofSource s = .ok (some e)) :
    env.interpret s = (env.eval e).mapError .eval := by
  unfold interpret execute
  rw [hs]
  simp only [Option.toList_some, evalAll]
  cases env.eval e <;> rfl

/-- The source in a literal of its own has the value that it has in a text, or fails further on. -/
theorem interpret_embed (hs : Expr.ofSource s = .ok (some e)) (hc : Closed s) :
    (∀ v, env.interpret s = .ok v → env.interpret (embed "" s "") = .ok v.interpolate) ∧
    ∀ err, env.interpret s = .error (.eval err) → env.interpret (embed "" s "") = .error (.eval (err.shift 3)) := by
  have hinner : env.eval (.interpolation (e.shift 3) 1) =
      (env.eval e).mapError (·.shift 3) >>= fun v => .ok v.interpolate := by
    rw [eval, eval_shift]
  rw [env.interpret_of_ofSource hs, env.interpret_of_ofSource (ofSource_embed_empty hs hc), hinner]
  cases env.eval e with
  | ok v => exact ⟨fun _ h => by cases h; rfl, nofun⟩
  | error err => exact ⟨nofun, fun _ h => by cases h; rfl⟩

/-- The source inside `n` literals, one in the other. -/
def nest (s : String) : Nat → String
  | 0 => s
  | n + 1 => embed "" (nest s n) ""

/-- Sources can be nested to any depth. -/
theorem ofSource_nest (hs : Expr.ofSource s = .ok (some e)) (hc : Closed s) (n : Nat) :
    (∃ e', Expr.ofSource (nest s n) = .ok (some e')) ∧ Closed (nest s n) := by
  induction n with
  | zero => exact ⟨⟨e, hs⟩, hc⟩
  | succ n ih =>
    obtain ⟨⟨e', he⟩, hn⟩ := ih
    exact ⟨⟨_, ofSource_embed_empty he hn⟩, closed_embed he hn verbatim_empty verbatim_empty⟩

/-- However deep a source is nested, it has the value that it has in a text, or fails as far on as it stands. -/
theorem interpret_nest (hs : Expr.ofSource s = .ok (some e)) (hc : Closed s) (n : Nat) :
    (∀ v, env.interpret s = .ok v → env.interpret (nest s (n + 1)) = .ok v.interpolate) ∧
    ∀ err, env.interpret s = .error (.eval err) →
      env.interpret (nest s (n + 1)) = .error (.eval (err.shift (3 * (n + 1)))) := by
  induction n with
  | zero => exact env.interpret_embed hs hc
  | succ n ih =>
    obtain ⟨⟨e', he⟩, hn⟩ := ofSource_nest hs hc (n + 1)
    obtain ⟨hok, herror⟩ := env.interpret_embed he hn
    constructor
    · intro v hv
      rw [nest, hok _ (ih.1 v hv), Value.interpolate_interpolate]
    · intro err herr
      rw [nest, herror _ (ih.2 err herr), EvalError.shift_shift]
      rfl

end Environment

/-- **Every expression can be interpolated.** Between two texts that need no escapes, a source that is an expression
and closed is a string literal of the texts and its expression further on, and the literal is closed again. Without
texts, it has the value that the source has in a text, or fails further on; and so it does in any number of literals,
one in the other. -/
theorem embed_interpolates {p s q : String} {e : Expr} (hs : Expr.ofSource s = .ok (some e)) (hc : Closed s)
    (hp : PlainText.Verbatim p.toList) (hq : PlainText.Verbatim q.toList) :
    Expr.ofSource (embed p s q) = .ok (some (.ofSegments (Expr.texts p ++
      .interpolation (e.shift (p.utf8ByteSize + 3)) (p.utf8ByteSize + 1) :: Expr.texts q) 0)) ∧
    Closed (embed p s q) ∧
    ∀ {φ : Type} (env : Environment φ),
      (∀ v, env.interpret s = .ok v → env.interpret (embed "" s "") = .ok v.interpolate) ∧
      (∀ err, env.interpret s = .error (.eval err) →
        env.interpret (embed "" s "") = .error (.eval (err.shift 3))) ∧
      ∀ n, (∀ v, env.interpret s = .ok v → env.interpret (Environment.nest s (n + 1)) = .ok v.interpolate) ∧
        ∀ err, env.interpret s = .error (.eval err) →
          env.interpret (Environment.nest s (n + 1)) = .error (.eval (err.shift (3 * (n + 1)))) := by
  refine ⟨ofSource_embed hs hc hp hq, closed_embed hs hc hp hq, fun env => ?_⟩
  obtain ⟨hok, herror⟩ := env.interpret_embed hs hc
  exact ⟨hok, herror, env.interpret_nest hs hc⟩

/-- A call with a parenthesis in a text, between two texts of which one has a character of two bytes. -/
theorem embed_interpolates_call :
    Expr.ofSource "x(\"(\")" = .ok (some (.call (.identifier "x" 0) [.string "("] 1)) ∧ Closed "x(\"(\")" ∧
    PlainText.Verbatim "é".toList ∧ PlainText.Verbatim "b".toList ∧
    Expr.ofSource (embed "é" "x(\"(\")" "b") = .ok (some (.binary
      (.binary (.string "é") .add (.interpolation (.call (.identifier "x" 5) [.string "("] 6) 3) 0)
      .add (.string "b") 0)) ∧
    Closed (embed "é" "x(\"(\")" "b") := by
  have hsplit : Lexeme.split "x(\"(\")".toList = [⟨.identifier "x", ['x']⟩, ⟨.symbol .leftParen, ['(']⟩,
      Lexeme.stringStart, Lexeme.plaintext ['('], Lexeme.stringEnd, ⟨.symbol .rightParen, [')']⟩] := by
    have hname : Lexeme.split ['x', '(', '"', '(', '"', ')'] = ⟨.identifier "x", ['x']⟩ ::
        Lexeme.split ['(', '"', '(', '"', ')'] := Lexeme.split_other _ (by decide)
    have hopen : Lexeme.split ['(', '"', '(', '"', ')'] = ⟨.symbol .leftParen, ['(']⟩ ::
        Lexeme.split ['"', '(', '"', ')'] := Lexeme.split_other _ (by decide)
    have hreads : Lexeme.ReadsLiteral ['(', '"', ')'] [Lexeme.plaintext ['('], Lexeme.stringEnd] [')'] :=
      @Lexeme.ReadsLiteral.text ['('] ['"', ')'] _ _ (by decide) rfl .close
    have hclose : Lexeme.split [')'] = ⟨.symbol .rightParen, [')']⟩ :: Lexeme.split [] :=
      Lexeme.split_other _ (by decide)
    rw [show "x(\"(\")".toList = ['x', '(', '"', '(', '"', ')'] from rfl, hname, hopen,
      Lexeme.split_literal hreads.literal?, hclose, Lexeme.split_nil]
    rfl
  have hs : Expr.ofSource "x(\"(\")" = .ok (some (.call (.identifier "x" 0) [.string "("] 1)) := by
    have hcallee : Derives .applied [⟨.identifier "x", "x", 0⟩] (.identifier "x" 0) :=
      Derives.weaken .identifier (by decide)
    have hpieces : Segments [⟨.plaintext "(", "(", 3⟩] [.string "("] := .plaintext .none
    have hargument : Derives .equality [⟨.stringStart, "\"", 2⟩, ⟨.plaintext "(", "(", 3⟩, ⟨.stringEnd, "\"", 4⟩]
        (.string "(") := Derives.weaken (.literal hpieces) (by decide)
    rw [Expr.ofSource, Expr.ofTokens_eq_some_iff_derives, sentence_scan, hsplit]
    exact Derives.weaken (.call hcallee (.one hargument)) (by decide)
  have hc : Closed "x(\"(\")" := by
    rw [Closed, not_unclosed_scan_iff, hsplit]
    simp [Lexeme.Unclosed, Lexeme.stringStart, Lexeme.plaintext, Lexeme.stringEnd]
  have hp : PlainText.Verbatim "é".toList := by decide
  have hq : PlainText.Verbatim "b".toList := by decide
  obtain ⟨hembed, hclosed, -⟩ := embed_interpolates hs hc hp hq
  exact ⟨hs, hc, hp, hq, hembed, hclosed⟩

end Formula
