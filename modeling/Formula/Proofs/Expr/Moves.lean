import Formula.Proofs.Expr.Grammar

/-!
# The moves of an unfinished expression

What one token can do to an unfinished expression, one constructor a case, and what a run of tokens can do.

- `Unfinished.moves_of_step`, `Unfinished.Moves.step`: the moves are the steps that go on.
- `Unfinished.read_eq_ok_iff`: an expression is read off the front of some tokens by a run of moves that ends behind a
  complete operand and before a token that does not continue it.
- `Expr.ofTokens_eq_some_iff`: tokens form an expression if their sentence is such a run.
-/

namespace Formula

/-! ## Operators as the grammar writes them -/

section Operators

open Grammar

theorem Grammar.Joins.ofKind? {r : Rule} {s : Symbol} {op : BinaryOperator} (h : Joins r s op) :
    BinaryOperator.ofKind? (.symbol s) = some op := by
  cases h <;> rfl

theorem Grammar.Joins.level {r : Rule} {s : Symbol} {op : BinaryOperator} (h : Joins r s op) : op.level = r.rank := by
  cases h <;> rfl

theorem Grammar.Leads.ofKind? {s : Symbol} {op : UnaryOperator} (h : Leads s op) :
    UnaryOperator.ofKind? (.symbol s) = some op := by
  cases h <;> rfl

theorem BinaryOperator.exists_joins {k : Kind} {op : BinaryOperator} (h : ofKind? k = some op) :
    ∃ r s, k = .symbol s ∧ Joins r s op := by
  unfold ofKind? at h
  split at h <;> cases h <;> exact ⟨_, _, rfl, by constructor⟩

theorem UnaryOperator.exists_leads {k : Kind} {op : UnaryOperator} (h : ofKind? k = some op) :
    ∃ s, k = .symbol s ∧ Leads s op := by
  unfold ofKind? at h
  split at h <;> cases h <;> exact ⟨_, rfl, by constructor⟩

end Operators

namespace Unfinished

/-! ## Moves -/

/-- The token takes one unfinished expression to the other. -/
inductive Moves : Unfinished → Token → Unfinished → Prop
  | atom {t : Token} {e : Expr} {ps : List Pending} {outer : List (Enclosure × List Pending)} (h : atom? t = some e) :
      Moves ⟨.operand, ps, outer⟩ t ⟨.operator e, ps, outer⟩
  | lead {s : Symbol} {op : UnaryOperator} {x : String} {o : Nat} {ps : List Pending}
      {outer : List (Enclosure × List Pending)} (h : Grammar.Leads s op) :
      Moves ⟨.operand, ps, outer⟩ ⟨.symbol s, x, o⟩ ⟨.operand, .unary op o :: ps, outer⟩
  | openGrouping {x : String} {o : Nat} {ps : List Pending} {outer : List (Enclosure × List Pending)} :
      Moves ⟨.operand, ps, outer⟩ ⟨.symbol .leftParen, x, o⟩ ⟨.operand, [], (.grouping, ps) :: outer⟩
  | openString {x : String} {o : Nat} {ps : List Pending} {outer : List (Enclosure × List Pending)} :
      Moves ⟨.operand, ps, outer⟩ ⟨.stringStart, x, o⟩ ⟨.segment [] o, ps, outer⟩
  | emptyCall {e : Expr} {x : String} {o o' : Nat} {ps : List Pending} {outer : List (Enclosure × List Pending)} :
      Moves ⟨.firstArgument e o, ps, outer⟩ ⟨.symbol .rightParen, x, o'⟩ ⟨.operator (.call e [] o), ps, outer⟩
  | firstArgument {e : Expr} {t : Token} {o : Nat} {ps : List Pending} {outer : List (Enclosure × List Pending)}
      {u : Unfinished} (h : t.kind ≠ .symbol .rightParen) :
      Moves ⟨.operand, [], (.call e [] o, ps) :: outer⟩ t u → Moves ⟨.firstArgument e o, ps, outer⟩ t u
  | methodName {e : Expr} {name x : String} {o : Nat} {ps : List Pending} {outer : List (Enclosure × List Pending)} :
      Moves ⟨.methodName e, ps, outer⟩ ⟨.identifier name, x, o⟩ ⟨.operator (.method e name o), ps, outer⟩
  | join {r : Grammar.Rule} {s : Symbol} {op : BinaryOperator} {e : Expr} {x : String} {o : Nat} {ps : List Pending}
      {outer : List (Enclosure × List Pending)} (h : Grammar.Joins r s op) :
      Moves ⟨.operator e, ps, outer⟩ ⟨.symbol s, x, o⟩
        ⟨.operand, .binary (Pending.applyAll (ps.takeWhile (·.precedes op)) e) op o :: ps.dropWhile (·.precedes op),
          outer⟩
  | openCall {e : Expr} {x : String} {o : Nat} {ps : List Pending} {outer : List (Enclosure × List Pending)} :
      Moves ⟨.operator e, ps, outer⟩ ⟨.symbol .leftParen, x, o⟩ ⟨.firstArgument e o, ps, outer⟩
  | dot {e : Expr} {x : String} {o : Nat} {ps : List Pending} {outer : List (Enclosure × List Pending)} :
      Moves ⟨.operator e, ps, outer⟩ ⟨.symbol .dot, x, o⟩ ⟨.methodName e, ps, outer⟩
  | closeGrouping {e : Expr} {x : String} {o : Nat} {ps qs : List Pending} {outer : List (Enclosure × List Pending)} :
      Moves ⟨.operator e, ps, (.grouping, qs) :: outer⟩ ⟨.symbol .rightParen, x, o⟩
        ⟨.operator (.grouping (Pending.applyAll ps e)), qs, outer⟩
  | comma {e c : Expr} {es : List Expr} {x : String} {o o' : Nat} {ps qs : List Pending}
      {outer : List (Enclosure × List Pending)} :
      Moves ⟨.operator e, ps, (.call c es o, qs) :: outer⟩ ⟨.symbol .comma, x, o'⟩
        ⟨.operand, [], (.call c (es ++ [Pending.applyAll ps e]) o, qs) :: outer⟩
  | closeCall {e c : Expr} {es : List Expr} {x : String} {o o' : Nat} {ps qs : List Pending}
      {outer : List (Enclosure × List Pending)} :
      Moves ⟨.operator e, ps, (.call c es o, qs) :: outer⟩ ⟨.symbol .rightParen, x, o'⟩
        ⟨.operator (.call c (es ++ [Pending.applyAll ps e]) o), qs, outer⟩
  | closeInterpolation {e : Expr} {es : List Expr} {x : String} {q o o' : Nat} {ps qs : List Pending}
      {outer : List (Enclosure × List Pending)} :
      Moves ⟨.operator e, ps, (.interpolation es q o, qs) :: outer⟩ ⟨.interpolationEnd, x, o'⟩
        ⟨.segment (es ++ [.interpolation (Pending.applyAll ps e) o]) q, qs, outer⟩
  | plaintext {es : List Expr} {s x : String} {q o : Nat} {ps : List Pending}
      {outer : List (Enclosure × List Pending)} :
      Moves ⟨.segment es q, ps, outer⟩ ⟨.plaintext s, x, o⟩ ⟨.segment (es ++ [.string s]) q, ps, outer⟩
  | openInterpolation {es : List Expr} {x : String} {q o : Nat} {ps : List Pending}
      {outer : List (Enclosure × List Pending)} :
      Moves ⟨.segment es q, ps, outer⟩ ⟨.interpolationStart, x, o⟩ ⟨.operand, [], (.interpolation es q o, ps) :: outer⟩
  | closeString {es : List Expr} {x : String} {q o : Nat} {ps : List Pending}
      {outer : List (Enclosure × List Pending)} :
      Moves ⟨.segment es q, ps, outer⟩ ⟨.stringEnd, x, o⟩ ⟨.operator (.ofSegments es q), ps, outer⟩

section Steps

variable {ps : List Pending} {outer : List (Enclosure × List Pending)} {t : Token} {u v : Unfinished}

theorem moves_of_stepOperand (h : stepOperand ps outer t = .more v) : Moves ⟨.operand, ps, outer⟩ t v := by
  obtain ⟨k, x, o⟩ := t
  unfold stepOperand at h
  split at h
  · rename_i e he
    cases h
    exact .atom he
  · split at h
    · rename_i op hop
      cases h
      obtain ⟨s, rfl, hs⟩ := UnaryOperator.exists_leads hop
      exact .lead hs
    · dsimp only at h
      split at h
      · cases h; exact .openGrouping
      · cases h; exact .openString
      · simp [misplaced] at h

theorem moves_of_stepClose {e : Expr} (h : stepClose (Pending.applyAll ps e) outer t = .more v) :
    Moves ⟨.operator e, ps, outer⟩ t v := by
  obtain ⟨k, x, o⟩ := t
  unfold stepClose at h
  split at h
  · cases h
  · dsimp only at h
    split at h
    · cases h; exact .closeGrouping
    · simp [misplaced] at h
  · dsimp only at h
    split at h
    · cases h; exact .comma
    · cases h; exact .closeCall
    · simp [misplaced] at h
  · dsimp only at h
    split at h
    · cases h; exact .closeInterpolation
    · simp [misplaced] at h

theorem moves_of_stepOperator {e : Expr} (h : stepOperator e ps outer t = .more v) :
    Moves ⟨.operator e, ps, outer⟩ t v := by
  obtain ⟨k, x, o⟩ := t
  unfold stepOperator at h
  split at h
  · rename_i op hop
    cases h
    obtain ⟨r, s, rfl, hs⟩ := BinaryOperator.exists_joins hop
    exact .join hs
  · dsimp only at h
    split at h
    · cases h; exact .openCall
    · cases h; exact .dot
    · exact moves_of_stepClose h

theorem moves_of_stepSegment {es : List Expr} {q : Nat} (h : stepSegment es q ps outer t = .more v) :
    Moves ⟨.segment es q, ps, outer⟩ t v := by
  obtain ⟨k, x, o⟩ := t
  unfold stepSegment at h
  dsimp only at h
  split at h
  · cases h; exact .plaintext
  · cases h; exact .openInterpolation
  · cases h; exact .closeString
  · cases h
  · cases h

theorem moves_of_step (h : u.step t = .more v) : Moves u t v := by
  obtain ⟨f, ps, outer⟩ := u
  cases f with
  | operand => exact moves_of_stepOperand h
  | firstArgument e o =>
    obtain ⟨k, x, o'⟩ := t
    simp only [step] at h
    split at h
    · cases h; exact .emptyCall
    · rename_i hk
      exact .firstArgument hk (moves_of_stepOperand h)
  | methodName e =>
    obtain ⟨k, x, o⟩ := t
    simp only [step] at h
    split at h
    · cases h; exact .methodName
    · simp [misplaced] at h
  | operator e => exact moves_of_stepOperator h
  | segment es q => exact moves_of_stepSegment h

theorem Moves.step (h : Moves u t v) : u.step t = .more v := by
  induction h with
  | atom h => simp [Unfinished.step, stepOperand, h]
  | lead h => simp [Unfinished.step, stepOperand, h.ofKind?, atom?]
  | firstArgument h _ ih =>
    simp only [Unfinished.step] at ih ⊢
    exact ih
  | join h => simp [Unfinished.step, stepOperator, h.ofKind?]
  | _ => rfl

end Steps

/-- No move is made on the end of the input. -/
theorem Moves.kind_ne_eof {u v : Unfinished} {t : Token} (h : Moves u t v) : t.kind ≠ .eof := by
  induction h with
  | atom h =>
    rintro hk
    simp [atom?, hk] at h
  | firstArgument _ _ ih => exact ih
  | _ => simp

/-! ## The end of an expression -/

/-- The token goes on with a complete operand. -/
def Continues (t : Token) : Prop :=
  (BinaryOperator.ofKind? t.kind).isSome ∨ t.kind = .symbol .leftParen ∨ t.kind = .symbol .dot

theorem not_continues_of_eof {t : Token} (h : t.kind = .eof) : ¬ Continues t := by
  simp [Continues, h, BinaryOperator.ofKind?]

theorem finish_eq_ok_iff {u : Unfinished} {e : Expr} :
    u.finish = .ok e ↔ ∃ e' ps, u = ⟨.operator e', ps, []⟩ ∧ Pending.applyAll ps e' = e := by
  obtain ⟨f, ps, outer⟩ := u
  constructor
  · intro h
    unfold finish at h
    split at h
    · rename_i e' hf ho
      cases hf
      cases ho
      exact ⟨_, _, rfl, by simpa using h⟩
    · cases h
    · cases h
  · rintro ⟨e', ps, hu, rfl⟩
    cases hu
    rfl

section Ends

variable {ps : List Pending} {outer : List (Enclosure × List Pending)} {t : Token} {e e' : Expr}

theorem stepOperand_ne_done : stepOperand ps outer t ≠ .done e := by
  unfold stepOperand
  split
  · simp
  · split
    · simp
    · split <;> simp [misplaced]

theorem stepClose_eq_done (h : stepClose e' outer t = .done e) : outer = [] ∧ e' = e := by
  unfold stepClose at h
  split at h
  · cases h
    exact ⟨rfl, rfl⟩
  all_goals split at h <;> simp [misplaced] at h

theorem stepOperator_eq_done (h : stepOperator e' ps outer t = .done e) :
    outer = [] ∧ Pending.applyAll ps e' = e ∧ ¬ Continues t := by
  unfold stepOperator at h
  split at h
  · cases h
  · rename_i hop
    split at h
    · cases h
    · cases h
    · rename_i hp hd
      obtain ⟨ho, he⟩ := stepClose_eq_done h
      exact ⟨ho, he, by simpa [Continues, hop] using ⟨hp, hd⟩⟩

theorem stepOperator_of_not_continues (h : ¬ Continues t) :
    stepOperator e ps [] t = .done (Pending.applyAll ps e) := by
  obtain ⟨k, x, o⟩ := t
  simp only [Continues, not_or, Bool.not_eq_true, Option.isSome_eq_false_iff, Option.isNone_iff_eq_none] at h
  simp only [stepOperator, h.1]
  split
  · exact absurd rfl h.2.1
  · exact absurd rfl h.2.2
  · rfl

end Ends

/-- An expression ends before a token if it could end where it is and the token does not continue it. -/
theorem step_eq_done_iff {u : Unfinished} {t : Token} {e : Expr} :
    u.step t = .done e ↔ u.finish = .ok e ∧ ¬ Continues t := by
  rw [finish_eq_ok_iff]
  constructor
  · intro h
    obtain ⟨f, ps, outer⟩ := u
    cases f with
    | operator e' =>
      obtain ⟨rfl, he, hc⟩ := stepOperator_eq_done h
      exact ⟨⟨e', ps, rfl, he⟩, hc⟩
    | operand => exact absurd h stepOperand_ne_done
    | firstArgument c o =>
      simp only [step] at h
      split at h
      · cases h
      · exact absurd h stepOperand_ne_done
    | methodName e' => simp only [step] at h; split at h <;> simp [misplaced] at h
    | segment es q => simp only [step, stepSegment] at h; split at h <;> simp at h
  · rintro ⟨⟨e', ps, rfl, rfl⟩, hc⟩
    exact stepOperator_of_not_continues hc

/-! ## Runs -/

/-- The tokens take one unfinished expression to the other. -/
inductive Runs : Unfinished → List Token → Unfinished → Prop
  | nil {u : Unfinished} : Runs u [] u
  | cons {u v w : Unfinished} {t : Token} {ts : List Token} : Moves u t v → Runs v ts w → Runs u (t :: ts) w

theorem Moves.runs {u v : Unfinished} {t : Token} (h : Moves u t v) : Runs u [t] v := .cons h .nil

theorem Runs.append {u v w : Unfinished} {ts ts' : List Token} (h : Runs u ts v) (h' : Runs v ts' w) :
    Runs u (ts ++ ts') w := by
  induction h with
  | nil => exact h'
  | cons hm _ ih => exact .cons hm (ih h')

theorem Runs.kind_ne_eof {u v : Unfinished} {ts : List Token} (h : Runs u ts v) : ∀ t ∈ ts, t.kind ≠ .eof := by
  induction h with
  | nil => simp
  | cons hm _ ih =>
    intro t ht
    rcases List.mem_cons.mp ht with rfl | ht
    · exact hm.kind_ne_eof
    · exact ih t ht

/-- What is read is a run of moves up to a complete operand, and no token that continues it follows. -/
theorem read_eq_ok_iff {u : Unfinished} {ts rest : List Token} {e : Expr} :
    u.read ts = .ok (e, rest) ↔
      ∃ used v, ts = used ++ rest ∧ Runs u used v ∧ v.finish = .ok e ∧ ∀ t ∈ rest.head?, ¬ Continues t := by
  constructor
  · intro h
    induction ts generalizing u with
    | nil =>
      cases hf : u.finish with
      | error err => simp [read, hf, Except.map] at h
      | ok e' =>
        simp only [read, hf, Except.map, Except.ok.injEq, Prod.mk.injEq] at h
        obtain ⟨rfl, rfl⟩ := h
        exact ⟨[], u, rfl, .nil, hf, by simp⟩
    | cons t ts ih =>
      rw [read] at h
      cases hs : u.step t with
      | more v =>
        rw [hs] at h
        obtain ⟨used, w, rfl, hr, hf, hc⟩ := ih h
        exact ⟨t :: used, w, rfl, .cons (moves_of_step hs) hr, hf, hc⟩
      | done e' =>
        rw [hs] at h
        cases h
        obtain ⟨hf, hc⟩ := step_eq_done_iff.mp hs
        exact ⟨[], u, rfl, .nil, hf, by simpa using hc⟩
      | failed err => rw [hs] at h; cases h
  · rintro ⟨used, v, rfl, hr, hf, hc⟩
    induction hr with
    | nil =>
      cases rest with
      | nil => simp [read, hf, Except.map]
      | cons t ts => simp [read, step_eq_done_iff.mpr ⟨hf, hc t rfl⟩]
    | cons hm _ ih =>
      rw [List.cons_append, read, hm.step]
      exact ih hf

end Unfinished

/-! ## Whole inputs -/

namespace Expr

open Unfinished Grammar

theorem atEnd_iff {ts : List Token} : atEnd ts = true ↔ ∀ t ∈ ts.head?, t.kind = .eof := by
  cases ts <;> simp [atEnd]

/-- The significant tokens are the sentence, and the end of the input may follow it. -/
theorem significant_eq_append (ts : List Token) :
    ∃ rest, significant ts = sentence ts ++ rest ∧ atEnd rest = true := by
  refine ⟨(significant ts).dropWhile (·.kind ≠ .eof), List.takeWhile_append_dropWhile.symm, atEnd_iff.mpr ?_⟩
  intro t ht
  have h := List.head?_dropWhile_not (·.kind ≠ .eof) (significant ts)
  rw [Option.mem_def.mp ht] at h
  simpa using h

/-- Where no end of the input stands and one may follow, the sentence ends. -/
theorem sentence_eq_of_append {ts used rest : List Token} (h : significant ts = used ++ rest)
    (hu : ∀ t ∈ used, t.kind ≠ .eof) (hr : atEnd rest = true) : sentence ts = used := by
  have : sentence ts = (used ++ rest).takeWhile (·.kind ≠ .eof) := by rw [← h]; rfl
  rw [this, List.takeWhile_append_of_pos (by simpa using hu)]
  cases rest with
  | nil => simp
  | cons t rest => simp [atEnd_iff.mp hr t rfl]

theorem atEnd_significant_iff {ts : List Token} : atEnd (significant ts) = true ↔ sentence ts = [] := by
  constructor
  · intro h
    exact sentence_eq_of_append (List.nil_append _).symm (by simp) h
  · intro h
    obtain ⟨rest, hs, hr⟩ := significant_eq_append ts
    rw [hs, h]
    exact hr

theorem ofTokens_of_atEnd {ts : List Token} (h : atEnd (significant ts) = true) : ofTokens ts = .ok none := by
  simp [ofTokens, h]

/-- Where something is to be read, tokens form an expression if it reaches up to the end. -/
theorem ofTokens_eq_ok_iff_of_not_atEnd {ts : List Token} {r : Option Expr} (h : atEnd (significant ts) = false) :
    ofTokens ts = .ok r ↔ ∃ e rest, r = some e ∧ readPrefix (significant ts) = .ok (e, rest) ∧ atEnd rest = true := by
  simp only [ofTokens, h, Bool.false_eq_true, if_false]
  cases hr : readPrefix (significant ts) with
  | error err => simp
  | ok p =>
    obtain ⟨e, rest⟩ := p
    have hend : (∃ e' rest', r = some e' ∧ (.ok (e, rest) : Except ParseError _) = .ok (e', rest') ∧
        atEnd rest' = true) ↔ some e = r ∧ atEnd rest = true := by
      constructor
      · rintro ⟨e', rest', rfl, h, ha⟩
        cases h
        exact ⟨rfl, ha⟩
      · rintro ⟨rfl, ha⟩
        exact ⟨e, rest, rfl, rfl, ha⟩
    rw [hend]
    cases rest with
    | nil => simp [atEnd]
    | cons t rest => by_cases ht : t.kind = .eof <;> simp [atEnd, ht]

/-- Tokens hold no expression if their sentence is empty. -/
theorem ofTokens_eq_none_iff {ts : List Token} : ofTokens ts = .ok none ↔ sentence ts = [] := by
  rw [← atEnd_significant_iff]
  cases h : atEnd (significant ts) with
  | true => simp [ofTokens_of_atEnd h]
  | false => simp [ofTokens_eq_ok_iff_of_not_atEnd h]

/-- Tokens form an expression if their sentence is a run that ends where an expression can. -/
theorem ofTokens_eq_some_iff {ts : List Token} {e : Expr} :
    ofTokens ts = .ok (some e) ↔ ∃ u, Runs .start (sentence ts) u ∧ u.finish = .ok e := by
  constructor
  · intro h
    cases ha : atEnd (significant ts) with
    | true => simp [ofTokens_of_atEnd ha] at h
    | false =>
      obtain ⟨e', rest, he, hr, hrest⟩ := (ofTokens_eq_ok_iff_of_not_atEnd ha).mp h
      cases he
      obtain ⟨used, u, hs, hu, hf, -⟩ := read_eq_ok_iff.mp hr
      rw [sentence_eq_of_append hs hu.kind_ne_eof hrest]
      exact ⟨u, hu, hf⟩
  · rintro ⟨u, hu, hf⟩
    obtain ⟨rest, hs, hrest⟩ := significant_eq_append ts
    have ha : atEnd (significant ts) = false := by
      rw [← Bool.not_eq_true, atEnd_significant_iff]
      intro h
      rw [h] at hu
      cases hu
      cases hf
    refine (ofTokens_eq_ok_iff_of_not_atEnd ha).mpr ⟨e, rest, rfl, ?_, hrest⟩
    refine read_eq_ok_iff.mpr ⟨_, u, hs, hu, hf, fun t ht => ?_⟩
    exact not_continues_of_eof (atEnd_iff.mp hrest t ht)

end Expr

end Formula
