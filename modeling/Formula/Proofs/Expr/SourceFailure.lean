import Mathlib
import Formula.Proofs.Expr.Balance
import Formula.Proofs.Expr.Failure
import Formula.Proofs.Expr.Nesting

/-!
# Syntax errors of sources

In the tokens of a source every literal is closed, and an expression in an interpolation is followed by the end of the
interpolation. So reading never meets the end of the input inside a literal, and never blames a token inside of one but
for what is wrong with the interpolated expression.

- `Unfinished.Runs.next`: what can come next, wherever reading is in a source.
- `Expr.ofSource_error_truthful`: the errors of sources are about the end of the input, at the top level, or about a
  token as the source writes it.
-/

namespace Formula

open Grammar Token

/-! ## What comes next -/

namespace Unfinished

variable {u : Unfinished} {t : Token}

/-- In a literal, what may stand there belongs to the literal. -/
theorem exists_more_of_nest {bs : List Bracket} {es : List Expr} {q : Nat} (hf : u.focus = .segment es q)
    (h : Token.nest u.brackets t = some bs) : ∃ v, u.step t = .more v := by
  obtain ⟨f, ps, outer⟩ := u
  obtain ⟨k, x, o⟩ := t
  cases hf
  have hnest : Token.nest (.literal q :: outerBrackets outer) ⟨k, x, o⟩ = some bs := h
  rw [Token.nest] at hnest
  split at hnest
  · rename_i hk
    cases hk
    exact ⟨_, rfl⟩
  · rename_i hk
    cases hk
    exact ⟨_, rfl⟩
  · rename_i hk
    cases hk
    exact ⟨_, rfl⟩
  · cases hnest

/-- Wherever reading is in a source, the next token may stand there, or it is the end of the input and no literal and
no interpolation is open. -/
theorem Runs.next {source : String} {pre rest : List Token}
    (hs : Expr.significant (scan source) = pre ++ rest) (hr : Runs .start pre u) :
    (rest = [⟨.eof, "", source.utf8ByteSize⟩] ∧ pre = sentence (scan source) ∧ u.brackets = []) ∨
      ∃ t post bs, rest = t :: post ∧ t.kind ≠ .eof ∧ Token.nest u.brackets t = some bs := by
  have hall : Token.nestAll [] (sentence (scan source)) = some [] := by
    rw [sentence_scan]
    exact nestAll_significant (nestAll_scan source)
  have hpre : Token.nestAll [] pre = some u.brackets := hr.nestAll
  rw [significant_scan, ← sentence_scan] at hs
  rcases List.append_eq_append_iff.mp hs with ⟨us, hus, hrest⟩ | ⟨us, hus, hrest⟩
  · cases us with
    | nil =>
      rw [List.append_nil] at hus
      rw [hus, hall] at hpre
      exact .inl ⟨hrest.symm, hus, (Option.some.inj hpre).symm⟩
    | cons t us =>
      -- the end of the input would have been read
      obtain ⟨rfl, -⟩ := List.cons.inj hrest
      exact absurd rfl (hr.kind_ne_eof ⟨.eof, "", source.utf8ByteSize⟩ (by simp [hus]))
  · cases us with
    | nil =>
      rw [List.append_nil] at hus
      rw [← hus, hall] at hpre
      exact .inl ⟨hrest, hus.symm, (Option.some.inj hpre).symm⟩
    | cons t us =>
      have ht : t.kind ≠ .eof := by
        have hmem : t ∈ sentence (scan source) := by simp [hus]
        exact kind_ne_eof_of_mem_sentence hmem
      rw [hus, nestAll_append, hpre, Option.bind_some, nestAll_cons] at hall
      obtain ⟨bs, hbs, -⟩ := Option.bind_eq_some_iff.mp hall
      exact .inr ⟨t, _, bs, hrest, ht, hbs⟩

/-- Wherever reading gets stuck, it is not in the middle of a literal, if the next token may stand there. -/
theorem Stuck.outsideLiteral {post : List Token} {err : ParseError} {bs : List Bracket} (h : u.Stuck (t :: post) err)
    (hn : Token.nest u.brackets t = some bs) : OutsideLiteral u.brackets := by
  refine outsideLiteral_brackets fun es q hf => ?_
  obtain ⟨v, hv⟩ := exists_more_of_nest hf hn
  cases h with
  | failed h => rw [hv] at h; cases h
  | trailing h => rw [hv] at h; cases h

end Unfinished

/-! ## Whole sources -/

/-- The error is about the end of the source, behind all of its tokens and outside of all literals. -/
def ParseError.MissesEnd (source : String) (err : ParseError) : Prop :=
  err = .unexpectedEndOfInput source.utf8ByteSize ∧
    ∃ u, Unfinished.Runs .start (sentence (scan source)) u ∧ u.brackets = []

/-- The error is about the token, and refers to it as the source writes it. -/
structure ParseError.Cites (source : String) (t : Token) (err : ParseError) : Prop where
  mem : t ∈ Expr.significant (scan source)
  kind_ne_eof : t.kind ≠ .eof
  offset : err.offset = t.offset
  found : err.found? = some ("'" ++ t.lexeme ++ "'")
  /-- The text of the token stands in the source where the error points. -/
  text : ∃ a b : String, source = a ++ t.lexeme ++ b ∧ a.utf8ByteSize = err.offset
  /-- No token that can only stand in a literal is blamed. -/
  not_piece : (∀ s, t.kind ≠ .plaintext s) ∧ t.kind ≠ .interpolationStart ∧ t.kind ≠ .stringEnd

namespace Expr

open Unfinished

variable {source : String} {err : ParseError} {u : Unfinished}

/-- At the end of a source, nothing but the end is blamed. -/
theorem missesEnd_of_stuck (hr : Runs .start (sentence (scan source)) u) (hb : u.brackets = [])
    (hu : u.Stuck [⟨.eof, "", source.utf8ByteSize⟩] err) : err.MissesEnd source := by
  cases hu with
  | failed h =>
    rcases cases_of_step_failed h with hblames | ⟨-, es, q, hf, -⟩
    · exact ⟨hblames.eq_of_eof rfl, u, hr, hb⟩
    · rw [brackets, hf] at hb
      cases hb
  | trailing h ht => exact absurd rfl ht

theorem cites_of_stuck {t : Token} {post : List Token} {bs : List Bracket} (hmem : t ∈ significant (scan source))
    (ht : t.kind ≠ .eof) (hn : Token.nest u.brackets t = some bs) (hu : u.Stuck (t :: post) err) :
    err.Cites source t := by
  have hblames : err.Blames t := by
    cases hu with
    | failed h => exact (cases_of_step_failed h).resolve_right fun h => ht h.1
    | trailing h => exact ⟨ht, rfl, rfl⟩
  have hoffset := hblames.offset_eq
  refine ⟨hmem, ht, hoffset, ?_, ?_, not_piece_of_nest (hu.outsideLiteral hn) hn⟩
  · rw [hblames.found? ht, describe, if_neg ht]
  · rw [hoffset]
    exact exists_append_of_mem_scan (List.mem_filter.mp hmem).1

/-- **Syntax errors of sources are truthful.** They are about the end of the source, outside of all literals, or about
a token, as it is written in the source. Reading never runs out of tokens, and in a literal every token goes on with
it. -/
theorem ofSource_error_truthful (source : String) :
    (∀ err, ofSource source = .error err → err.MissesEnd source ∨ ∃ t, err.Cites source t) ∧
    ∀ pre rest u, significant (scan source) = pre ++ rest → Runs .start pre u →
      ∃ t post, rest = t :: post ∧ ∀ es q, u.focus = .segment es q → ∃ v, u.step t = .more v := by
  constructor
  · intro err h
    obtain ⟨-, pre, rest, u, hs, hr, hu⟩ := ofTokens_eq_error_iff.mp h
    rcases hr.next hs with ⟨rfl, rfl, hb⟩ | ⟨t, post, bs, rfl, ht, hn⟩
    · exact .inl (missesEnd_of_stuck hr hb hu)
    · exact .inr ⟨t, cites_of_stuck (by simp [hs]) ht hn hu⟩
  · intro pre rest u hs hr
    rcases hr.next hs with ⟨rfl, -, hb⟩ | ⟨t, post, bs, rfl, -, hn⟩
    · refine ⟨_, [], rfl, fun es q hf => ?_⟩
      rw [brackets, hf] at hb
      cases hb
    · exact ⟨t, post, rfl, fun es q hf => exists_more_of_nest hf hn⟩

/-- An operand is missing at the end of a source, and at the end of an interpolation. -/
theorem ofSource_error_truthful_operand :
    ofSource "x +" = .error (.unexpectedEndOfInput 3) ∧ (ParseError.unexpectedEndOfInput 3).MissesEnd "x +" ∧
    ofSource "\"\\(x +)\"" = .error (.unexpectedToken "')'" 6) ∧
    ∃ t, (ParseError.unexpectedToken "')'" 6).Cites "\"\\(x +)\"" t := by
  have hend : ofSource "x +" = .error (.unexpectedEndOfInput 3) := by cbv
  have hinner : ofSource "\"\\(x +)\"" = .error (.unexpectedToken "')'" 6) := by cbv
  refine ⟨hend, ?_, hinner, ?_⟩
  · refine ((ofSource_error_truthful _).1 _ hend).resolve_right ?_
    rintro ⟨t, h⟩
    cases h.found
  · refine ((ofSource_error_truthful _).1 _ hinner).resolve_left ?_
    rintro ⟨h, -⟩
    cases h

end Expr

end Formula
