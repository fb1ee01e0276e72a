import Formula.Proofs.Expr.Failure
import Formula.Proofs.Expr.Nesting

/-!
# Failures are noticed as early as possible

Whatever was read of an expression can be completed: an operand or a method's name is put where one is expected, and
what is open is closed. So the tokens in front of a failure are the front of some expression, and since the failure is
decided by the next token alone, whatever follows that token changes nothing.

- `Unfinished.completion`, `Unfinished.runs_completion`: tokens that complete an unfinished expression.
- `Expr.exists_ofTokens_append`: what was read is the front of an expression.
- `Expr.ofTokens_error_earliest`: where and how tokens fail to form an expression.
-/

namespace Formula

/-! ## Completions -/

/-- What takes the place of what is expected. -/
def Focus.completion : Focus → List Kind
  | .operand => [.nil]
  | .firstArgument _ _ => [.symbol .rightParen]
  | .methodName _ => [.identifier ""]
  | .operator _ => []
  | .segment _ _ => [.stringEnd]

/-- What closes an enclosure, and its literal if it has one. -/
def Enclosure.completion : Enclosure → List Kind
  | .grouping | .call _ _ _ => [.symbol .rightParen]
  | .interpolation _ _ _ => [.interpolationEnd, .stringEnd]

namespace Unfinished

/-- A token without text. -/
def bare (k : Kind) : Token := ⟨k, "", 0⟩

/-- Tokens that complete an unfinished expression. -/
def completion (u : Unfinished) : List Token :=
  (u.focus.completion ++ u.outer.flatMap (·.1.completion)).map bare

theorem runs_focus_completion (f : Focus) (ps : List Pending) (outer : List (Enclosure × List Pending)) :
    ∃ e, Runs ⟨f, ps, outer⟩ (f.completion.map bare) ⟨.operator e, ps, outer⟩ := by
  cases f with
  | operand => exact ⟨.nil, (Moves.atom rfl).runs⟩
  | firstArgument c o => exact ⟨.call c [] o, Moves.emptyCall.runs⟩
  | methodName e => exact ⟨.method e "" 0, Moves.methodName.runs⟩
  | operator e => exact ⟨e, .nil⟩
  | segment es q => exact ⟨.ofSegments es q, Moves.closeString.runs⟩

theorem runs_outer_completion (outer : List (Enclosure × List Pending)) (e : Expr) (ps : List Pending) :
    ∃ e' qs, Runs ⟨.operator e, ps, outer⟩ ((outer.flatMap (·.1.completion)).map bare) ⟨.operator e', qs, []⟩ := by
  induction outer generalizing e ps with
  | nil => exact ⟨e, ps, .nil⟩
  | cons p outer ih =>
    obtain ⟨enclosure, qs⟩ := p
    rw [List.flatMap_cons, List.map_append]
    cases enclosure with
    | grouping =>
      obtain ⟨e', rs, hr⟩ := ih (.grouping (Pending.applyAll ps e)) qs
      exact ⟨e', rs, .cons .closeGrouping hr⟩
    | call c es o =>
      obtain ⟨e', rs, hr⟩ := ih (.call c (es ++ [Pending.applyAll ps e]) o) qs
      exact ⟨e', rs, .cons .closeCall hr⟩
    | interpolation es q o =>
      obtain ⟨e', rs, hr⟩ := ih (.ofSegments (es ++ [.interpolation (Pending.applyAll ps e) o]) q) qs
      exact ⟨e', rs, .cons .closeInterpolation (.cons .closeString hr)⟩

/-- The completion leads to where an expression can end. -/
theorem runs_completion (u : Unfinished) : ∃ v e, Runs u u.completion v ∧ v.finish = .ok e := by
  obtain ⟨f, ps, outer⟩ := u
  obtain ⟨e, hf⟩ := runs_focus_completion f ps outer
  obtain ⟨e', qs, ho⟩ := runs_outer_completion outer e ps
  refine ⟨⟨.operator e', qs, []⟩, Pending.applyAll qs e', ?_, rfl⟩
  rw [completion, List.map_append]
  exact hf.append ho

/-- The grammar sees every token that a move is made on. -/
theorem Moves.isSignificant {u v : Unfinished} {t : Token} (h : Moves u t v) : t.kind.isSignificant = true := by
  induction h with
  | @atom t _ _ _ h =>
    unfold atom? at h
    split at h <;> simp_all [Kind.isSignificant]
  | firstArgument _ _ ih => exact ih
  | _ => rfl

theorem Runs.significant_eq {u v : Unfinished} {ts : List Token} (h : Runs u ts v) : Expr.significant ts = ts := by
  induction h with
  | nil => rfl
  | cons hm _ ih => rw [Expr.significant_cons hm.isSignificant, ih]

end Unfinished

namespace Expr

open Unfinished Grammar Token

/-- What was read is the front of an expression. -/
theorem exists_ofTokens_append {ts : List Token} {u : Unfinished} (h : Runs .start ts u) :
    ∃ us e, ofTokens (ts ++ us) = .ok (some e) := by
  obtain ⟨v, e, hr, hf⟩ := u.runs_completion
  have hrun := h.append hr
  have hsentence : sentence (ts ++ u.completion) = ts ++ u.completion := by
    have hsig : significant (ts ++ u.completion) = ts ++ u.completion ++ [] := by
      rw [hrun.significant_eq, List.append_nil]
    exact sentence_eq_of_append hsig hrun.kind_ne_eof rfl
  refine ⟨u.completion, e, ofTokens_eq_some_iff.mpr ⟨v, ?_, hf⟩⟩
  rw [hsentence]
  exact hrun

/-! ## Where tokens fail -/

end Expr

/-- The error is about the innermost literal that is open behind the tokens. -/
def ParseError.BlamesQuote (pre : List Token) (err : ParseError) : Prop :=
  ∃ q bs, err = .unterminatedString q ∧ Token.nestAll [] pre = some (.literal q :: bs)

/-- The error is about what comes behind the tokens: the next token, or that there is none. Where the input ends inside
a literal it is about the literal. -/
def ParseError.BlamesNext (pre : List Token) : List Token → ParseError → Prop
  | [], err => err = .unexpectedEndOfInput 0 ∨ err.BlamesQuote pre
  | t :: _, err => err.Blames t ∨ t.kind = .eof ∧ err.BlamesQuote pre

namespace Expr

open Unfinished Grammar Token

/-- Reading fails with the error between the two parts of the tokens. -/
structure FailsBetween (pre rest : List Token) (err : ParseError) : Prop where
  /-- The input does not end in the first part. -/
  kind_ne_eof : ∀ t ∈ pre, t.kind ≠ .eof
  /-- The first part is the front of an expression. -/
  viable : ∃ us e, ofTokens (pre ++ us) = .ok (some e)
  /-- The error is about what comes next. -/
  blames : err.BlamesNext pre rest
  /-- Nothing behind the next token matters. -/
  decided : ∀ t ∈ rest.head?, ∀ us, ofTokens (pre ++ t :: us) = .error err

theorem blamesNext_of_stuck {pre rest : List Token} {u : Unfinished} {err : ParseError} (hr : Runs .start pre u)
    (hu : u.Stuck rest err) : err.BlamesNext pre rest := by
  have hquote : ∀ es q, u.focus = .segment es q → err = .unterminatedString q → err.BlamesQuote pre := by
    intro es q hf he
    have hnest := hr.nestAll
    rw [brackets, brackets, hf] at hnest
    exact ⟨q, _, he, hnest⟩
  cases hu with
  | exhausted h =>
    rcases cases_of_finish_error h with he | ⟨es, q, hf, he⟩
    · exact .inl he
    · exact .inr (hquote es q hf he)
  | failed h =>
    rcases cases_of_step_failed h with hb | ⟨ht, es, q, hf, he⟩
    · exact .inl hb
    · exact .inr ⟨ht, hquote es q hf he⟩
  | trailing h ht => exact .inl ⟨ht, rfl, rfl⟩

/-- **Failures are noticed as early as possible.** The tokens that were read are the front of an expression, the error
is about the next token, and nothing behind that token matters. -/
theorem ofTokens_error_earliest {ts : List Token} {err : ParseError} (h : ofTokens ts = .error err) :
    ∃ pre rest, significant ts = pre ++ rest ∧ FailsBetween pre rest err := by
  obtain ⟨ha, pre, rest, u, hs, hr, hu⟩ := ofTokens_eq_error_iff.mp h
  refine ⟨pre, rest, hs, hr.kind_ne_eof, exists_ofTokens_append hr, blamesNext_of_stuck hr hu, ?_⟩
  intro t ht us
  obtain ⟨post, rfl⟩ : ∃ post, rest = t :: post := List.head?_eq_some_iff.mp ht
  have htsig : t.kind.isSignificant = true := by
    have hmem : t ∈ significant ts := by simp [hs]
    exact isSignificant_of_mem hmem
  have hus : significant (pre ++ t :: us) = pre ++ t :: significant us := by
    rw [significant_append, hr.significant_eq, significant_cons htsig]
  have hend : atEnd (pre ++ t :: significant us) = false := by
    rw [hs] at ha
    cases pre with
    | nil => exact ha
    | cons => exact ha
  exact ofTokens_of_stuck (by rw [hus]; exact hend) hus hr (hu.cons _)

/-- A literal in an interpolation, both without an end: the inner one is blamed, whatever follows the end of the input. -/
theorem ofTokens_error_earliest_nested :
    ofTokens [⟨.stringStart, "\"", 0⟩, ⟨.interpolationStart, "\\(", 1⟩, ⟨.stringStart, "\"", 3⟩, ⟨.eof, "", 4⟩,
      ⟨.stringEnd, "\"", 4⟩] = .error (.unterminatedString 3) ∧
    ∃ pre rest, significant [⟨.stringStart, "\"", 0⟩, ⟨.interpolationStart, "\\(", 1⟩, ⟨.stringStart, "\"", 3⟩,
      ⟨.eof, "", 4⟩, ⟨.stringEnd, "\"", 4⟩] = pre ++ rest ∧ FailsBetween pre rest (.unterminatedString 3) :=
  ⟨rfl, ofTokens_error_earliest rfl⟩

end Expr

end Formula
