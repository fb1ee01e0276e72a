import Formula.Proofs.Expr.Moves

/-!
# How tokens fail to form an expression

The tokens in front of the failure were all read, and the failure is decided by the next token alone: it fits nowhere,
or the expression is complete before it, or there is none.

- `ParseError.Blames`: the token that an error is about.
- `Unfinished.cases_of_step_failed`: what a token that fits nowhere is blamed for.
- `Expr.ofTokens_eq_error_iff`: how tokens form no expression.
-/

namespace Formula

/-- The error is about the token: it was noticed there, and says how the token is written. The end of the input is
reported as such, and no other token is. -/
def ParseError.Blames (t : Token) : ParseError → Prop
  | .unexpectedEndOfInput o => t.kind = .eof ∧ o = t.offset
  | .unterminatedString _ => False
  | .unexpectedToken found o | .expectedClosingParen found o | .expectedMethodName found o
  | .expectedInterpolationEnd found o | .unexpectedTrailingTokens found o =>
    t.kind ≠ .eof ∧ found = t.describe ∧ o = t.offset

/-- How the error refers to the token that it is about. -/
def ParseError.found? : ParseError → Option String
  | .unexpectedToken found _ | .expectedClosingParen found _ | .expectedMethodName found _
  | .expectedInterpolationEnd found _ | .unexpectedTrailingTokens found _ => some found
  | .unexpectedEndOfInput _ | .unterminatedString _ => none

namespace ParseError

theorem Blames.offset_eq {t : Token} {err : ParseError} (h : err.Blames t) : err.offset = t.offset := by
  cases err with
  | unexpectedEndOfInput => exact h.2
  | unterminatedString => exact h.elim
  | _ => exact h.2.2

theorem Blames.found? {t : Token} {err : ParseError} (h : err.Blames t) (ht : t.kind ≠ .eof) :
    err.found? = some t.describe := by
  cases err with
  | unexpectedEndOfInput => exact absurd h.1 ht
  | unterminatedString => exact h.elim
  | _ => exact congrArg some h.2.1

theorem Blames.eq_of_eof {t : Token} {err : ParseError} (h : err.Blames t) (ht : t.kind = .eof) :
    err = .unexpectedEndOfInput t.offset := by
  cases err with
  | unexpectedEndOfInput => rw [h.2]
  | unterminatedString => exact h.elim
  | _ => exact absurd ht h.1

end ParseError

namespace Unfinished

/-! ## One token -/

section Steps

variable {ps : List Pending} {outer : List (Enclosure × List Pending)} {t : Token} {u : Unfinished} {err : ParseError}

theorem blames_of_misplaced {expected : String → Nat → ParseError} (h : misplaced t expected = .failed err)
    (hexp : t.kind ≠ .eof → (expected t.describe t.offset).Blames t) : err.Blames t := by
  unfold misplaced at h
  split at h <;> cases h
  · rename_i ht
    exact ⟨ht, rfl⟩
  · rename_i ht
    exact hexp ht

theorem blames_of_stepOperand (h : stepOperand ps outer t = .failed err) : err.Blames t := by
  unfold stepOperand at h
  split at h
  · cases h
  · split at h
    · cases h
    · split at h
      · cases h
      · cases h
      · exact blames_of_misplaced h fun ht => ⟨ht, rfl, rfl⟩

theorem blames_of_stepClose {e : Expr} (h : stepClose e outer t = .failed err) : err.Blames t := by
  unfold stepClose at h
  split at h
  · cases h
  · split at h
    · cases h
    · exact blames_of_misplaced h fun ht => ⟨ht, rfl, rfl⟩
  · split at h
    · cases h
    · cases h
    · exact blames_of_misplaced h fun ht => ⟨ht, rfl, rfl⟩
  · split at h
    · cases h
    · exact blames_of_misplaced h fun ht => ⟨ht, rfl, rfl⟩

theorem blames_of_stepOperator {e : Expr} (h : stepOperator e ps outer t = .failed err) : err.Blames t := by
  unfold stepOperator at h
  split at h
  · cases h
  · split at h
    · cases h
    · cases h
    · exact blames_of_stepClose h

/-- A token that fits nowhere is blamed, unless it is the end of the input inside a string literal: then the opening
quote is. -/
theorem cases_of_step_failed (h : u.step t = .failed err) :
    err.Blames t ∨ t.kind = .eof ∧ ∃ es q, u.focus = .segment es q ∧ err = .unterminatedString q := by
  obtain ⟨f, ps, outer⟩ := u
  cases f with
  | operand => exact .inl (blames_of_stepOperand h)
  | firstArgument c o =>
    simp only [step] at h
    split at h
    · cases h
    · exact .inl (blames_of_stepOperand h)
  | methodName e =>
    simp only [step] at h
    split at h
    · cases h
    · exact .inl (blames_of_misplaced h fun ht => ⟨ht, rfl, rfl⟩)
  | operator e => exact .inl (blames_of_stepOperator h)
  | segment es q =>
    simp only [step, stepSegment] at h
    split at h <;> cases h
    · rename_i ht
      exact .inr ⟨ht, es, q, rfl, rfl⟩
    · rename_i ht
      exact .inl ⟨ht, rfl, rfl⟩

theorem cases_of_finish_error (h : u.finish = .error err) :
    err = .unexpectedEndOfInput 0 ∨ ∃ es q, u.focus = .segment es q ∧ err = .unterminatedString q := by
  unfold finish at h
  split at h
  · cases h
  · rename_i es q hf
    cases h
    exact .inr ⟨es, q, hf, rfl⟩
  · cases h
    exact .inl rfl

end Steps

/-! ## All tokens -/

/-- Reading gets stuck on the tokens: there are none where something is expected, the first fits nowhere, or it stands
behind a complete expression and is not the end of the input. -/
inductive Stuck (u : Unfinished) : List Token → ParseError → Prop
  | exhausted {err : ParseError} (h : u.finish = .error err) : Stuck u [] err
  | failed {t : Token} {ts : List Token} {err : ParseError} (h : u.step t = .failed err) : Stuck u (t :: ts) err
  | trailing {t : Token} {ts : List Token} {e : Expr} (h : u.step t = .done e) (ht : t.kind ≠ .eof) :
      Stuck u (t :: ts) (.unexpectedTrailingTokens t.describe t.offset)

/-- Nothing behind the first token matters. -/
theorem Stuck.cons {u : Unfinished} {t : Token} {ts : List Token} {err : ParseError} (h : u.Stuck (t :: ts) err)
    (ts' : List Token) : u.Stuck (t :: ts') err := by
  cases h with
  | failed h => exact .failed h
  | trailing h ht => exact .trailing h ht

/-- What was read may be split off. -/
theorem Runs.read_append {u v : Unfinished} {ts : List Token} (h : Runs u ts v) (rest : List Token) :
    u.read (ts ++ rest) = v.read rest := by
  induction h with
  | nil => rfl
  | cons hm _ ih =>
    rw [List.cons_append, read, hm.step]
    exact ih

theorem exists_stuck_of_read_error {u : Unfinished} {ts : List Token} {err : ParseError} (h : u.read ts = .error err) :
    ∃ used rest v, ts = used ++ rest ∧ Runs u used v ∧ v.Stuck rest err := by
  induction ts generalizing u with
  | nil =>
    cases hf : u.finish with
    | ok e => simp [read, hf, Except.map] at h
    | error err' =>
      simp only [read, hf, Except.map, Except.error.injEq] at h
      subst h
      exact ⟨[], [], u, rfl, .nil, .exhausted hf⟩
  | cons t ts ih =>
    rw [read] at h
    cases hs : u.step t with
    | more v =>
      rw [hs] at h
      obtain ⟨used, rest, w, rfl, hr, hw⟩ := ih h
      exact ⟨t :: used, rest, w, rfl, .cons (moves_of_step hs) hr, hw⟩
    | done e => rw [hs] at h; cases h
    | failed err' =>
      rw [hs] at h
      cases h
      exact ⟨[], t :: ts, u, rfl, .nil, .failed hs⟩

theorem exists_stuck_of_read_ok {u : Unfinished} {ts rest : List Token} {e : Expr} {t : Token}
    (h : u.read ts = .ok (e, t :: rest)) (ht : t.kind ≠ .eof) : ∃ used v, ts = used ++ t :: rest ∧ Runs u used v ∧
      v.Stuck (t :: rest) (.unexpectedTrailingTokens t.describe t.offset) := by
  obtain ⟨used, v, hts, hr, hf, hc⟩ := read_eq_ok_iff.mp h
  exact ⟨used, v, hts, hr, .trailing (step_eq_done_iff.mpr ⟨hf, hc t rfl⟩) ht⟩

end Unfinished

/-! ## Whole inputs -/

namespace Expr

open Unfinished

/-- Where something is to be read, tokens form no expression if reading gets stuck behind some of them. -/
theorem ofTokens_of_stuck {ts used rest : List Token} {v : Unfinished} {err : ParseError}
    (ha : atEnd (significant ts) = false) (hs : significant ts = used ++ rest) (hr : Runs .start used v)
    (hv : v.Stuck rest err) : ofTokens ts = .error err := by
  have hread : readPrefix (significant ts) = v.read rest := by
    rw [hs]
    exact hr.read_append rest
  simp only [ofTokens, ha, Bool.false_eq_true, if_false, hread]
  cases hv with
  | exhausted h => simp [Unfinished.read, h, Except.map]
  | failed h => simp [Unfinished.read, h]
  | trailing h ht => simp [Unfinished.read, h, ht]

/-- Tokens form no expression if something is to be read, and reading gets stuck behind some of them. -/
theorem ofTokens_eq_error_iff {ts : List Token} {err : ParseError} : ofTokens ts = .error err ↔
    atEnd (significant ts) = false ∧
      ∃ used rest v, significant ts = used ++ rest ∧ Runs .start used v ∧ v.Stuck rest err := by
  constructor
  · intro h
    cases ha : atEnd (significant ts) with
    | true => simp [ofTokens_of_atEnd ha] at h
    | false =>
      refine ⟨rfl, ?_⟩
      simp only [ofTokens, ha, Bool.false_eq_true, if_false] at h
      split at h
      · rename_i err' hread
        cases h
        exact exists_stuck_of_read_error hread
      · cases h
      · rename_i e t rest hread
        split at h
        · cases h
        · rename_i ht
          cases h
          obtain ⟨used, v, hts, hr, hv⟩ := exists_stuck_of_read_ok hread ht
          exact ⟨used, t :: rest, v, hts, hr, hv⟩
  · rintro ⟨ha, used, rest, v, hs, hr, hv⟩
    exact ofTokens_of_stuck ha hs hr hv

end Expr

end Formula
