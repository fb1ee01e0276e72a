import Formula.Proofs.Expr.Descent
import Formula.Proofs.Lexeme.Progress

/-!
# Reading makes progress

The procedures that scan a source and those that read tokens end on every input, well-formed or not, since none of them
goes round without having moved on. The cursor of the scanner stands between characters at all times, so that moving on
means at least one whole character.

- `Lexeme.charsFrom`: what is left of a source behind a cursor.
- `Scanning.EndsAt`: a call ends, and leaves the cursor there; `Scanning.next_endsAt`, `Scanning.literal_endsAt` and
  `Scanning.run_endsAt` say where.
- `reading_makes_progress`: all of it.
-/

namespace Formula

namespace Lexeme

/-! ## Cursors -/

section Cursor

/-- The characters from the cursor on. -/
def charsFrom {source : String} (p : source.Pos) : List Char := (source.sliceFrom p).copy.toList

variable {source : String} {p : source.Pos}

theorem charsFrom_startPos (source : String) : charsFrom source.startPos = source.toList := by
  rw [charsFrom, source.startPos.splits.eq_right (String.splits_startPos source)]

theorem charsFrom_eq_cons (hp : p ≠ source.endPos) : charsFrom p = p.get hp :: charsFrom (p.next hp) := by
  rw [charsFrom, p.splits.eq_right (p.splits_next_right hp), String.toList_append]
  simp [charsFrom]

theorem charsFrom_eq_nil_iff : charsFrom p = [] ↔ p = source.endPos := by
  rw [p.splits.eq_endPos_iff, charsFrom, String.toList_eq_nil_iff]

/-- What is at the end of what is left is left behind another cursor. -/
theorem exists_charsFrom_of_suffix {r : List Char} (h : r <:+ charsFrom p) :
    ∃ q : source.Pos, p ≤ q ∧ r = charsFrom q := by
  obtain ⟨us, hus⟩ := h
  have hs := p.splits.nextn us.length
  refine ⟨p.nextn us.length, ?_, ?_⟩
  · rw [p.splits.le_iff_exists_eq_append hs]
    exact ⟨_, rfl, by simp [← String.ofList_append]⟩
  · rw [charsFrom, hs.copy_sliceFrom_eq, String.toList_ofList, ← charsFrom, ← hus]
    simp

end Cursor

namespace Scanning

/-- The call ends, in one way only, and leaves the cursor at `q`. -/
def EndsAt (i : Scanning) {source : String} (q : source.Pos) : Prop :=
  ∃ ls, ∀ a, Body.Answers body i.body a ↔ a = (ls, charsFrom q)

variable {source : String} {p : source.Pos}

theorem exists_endsAt (i : Scanning) (h : ∀ a, i.Forward a → a.2 <:+ charsFrom p) :
    ∃ q, p ≤ q ∧ i.EndsAt q ∧ ∃ ls, i.Forward (ls, charsFrom q) := by
  obtain ⟨⟨ls, r⟩, ha, hforward⟩ := exists_answers i
  obtain ⟨q, hq, rfl⟩ := exists_charsFrom_of_suffix (h _ hforward)
  exact ⟨q, hq, ⟨ls, fun _ => ha.eq_iff⟩, ls, hforward⟩

/-- The lexeme or the literal at the cursor takes one character at least. -/
theorem next_endsAt (hp : p ≠ source.endPos) :
    ∃ q, p.next hp ≤ q ∧ (next (p.get hp) (charsFrom (p.next hp))).EndsAt q := by
  obtain ⟨q, hq, hend, -⟩ := exists_endsAt (next (p.get hp) (charsFrom (p.next hp))) fun _ h => h
  exact ⟨q, hq, hend⟩

theorem literal_endsAt (opened : List Char) (read : List Lexeme) (text : List Char) :
    ∃ q, p ≤ q ∧ (literal opened read text (charsFrom p)).EndsAt q := by
  obtain ⟨q, hq, hend, -⟩ := exists_endsAt (literal opened read text (charsFrom p)) fun _ h => h
  exact ⟨q, hq, hend⟩

/-- A run takes all that is left, or in an interpolation what is in front of a `)`. -/
theorem run_endsAt (scope : Scope) (depth : Int) : ∃ q, p ≤ q ∧ (run scope depth (charsFrom p)).EndsAt q ∧
    (q = source.endPos ∨ scope = .interpolation ∧ ∃ hq : q ≠ source.endPos, q.get hq = ')') := by
  obtain ⟨q, hq, hend, ls, -, hscope⟩ := exists_endsAt (run scope depth (charsFrom p)) fun _ h => h.1
  refine ⟨q, hq, hend, hscope.imp charsFrom_eq_nil_iff.mp fun ⟨hinner, hclose⟩ => ⟨hinner, ?_⟩⟩
  have hne : q ≠ source.endPos := by
    rintro rfl
    simp [charsFrom_eq_nil_iff.mpr] at hclose
  rw [charsFrom_eq_cons hne, List.head?_cons, Option.some.injEq] at hclose
  exact ⟨hne, hclose⟩

end Scanning

/-! ## How much is read -/

theorem length_le_length_text {ls : List Lexeme} (h : ∀ l ∈ ls, l.chars ≠ []) : ls.length ≤ (text ls).length := by
  induction ls with
  | nil => exact Nat.le_refl 0
  | cons l ls ih =>
    have hl : 0 < l.chars.length := List.length_pos_iff.mpr (h l List.mem_cons_self)
    have hls : ls.length ≤ (text ls).length := ih fun l' hl' => h l' (List.mem_cons_of_mem l hl')
    rw [text_cons, List.length_append, List.length_cons]
    omega

/-- There are no more lexemes than characters. -/
theorem length_split_le (cs : List Char) : (split cs).length ≤ cs.length := by
  have hnonempty : ∀ l ∈ split cs, l.chars ≠ [] := fun l hl => (nonempty_of_mem_split hl).1
  have hle := length_le_length_text hnonempty
  rwa [text_split] at hle

end Lexeme

namespace Token

theorem length_locate (offset : Nat) (ls : List Lexeme) : (locate offset ls).length = ls.length + 1 := by
  induction ls generalizing offset with
  | nil => rfl
  | cons l ls ih => rw [locate, List.length_cons, ih, List.length_cons]

/-- Besides the end of the input, there are no more tokens than characters. -/
theorem length_scan_le (source : String) : (scan source).length ≤ source.length + 1 := by
  rw [scan, length_locate]
  exact Nat.succ_le_succ (Lexeme.length_split_le source.toList)

end Token

open Lexeme Grammar

/-- **Reading makes progress.** From any cursor on, the scanner ends: with the lexeme or the literal there at least one
character further on, with the rest of a literal no further back, and with a run at the end of the source or, in an
interpolation, in front of a `)`. No call goes round on the same characters, and no depth falls below zero. A source is
read to its end, as what it is split into, and has one token for each character at most, besides the end of the input.

From any tokens on, every production ends. Where it succeeds, it leaves fewer tokens, and no end of the input is among
those it has read. No call goes round on the same tokens. What the rule for whole expressions answers is what is read as
an expression. -/
theorem reading_makes_progress :
    (∀ (source : String) (p : source.Pos),
      (∀ hp : p ≠ source.endPos, ∃ q, p.next hp ≤ q ∧ (Scanning.next (p.get hp) (charsFrom (p.next hp))).EndsAt q) ∧
      (∀ opened read text, ∃ q, p ≤ q ∧ (Scanning.literal opened read text (charsFrom p)).EndsAt q) ∧
      (∀ scope depth, ∃ q, p ≤ q ∧ (Scanning.run scope depth (charsFrom p)).EndsAt q ∧
        (q = source.endPos ∨ scope = .interpolation ∧ ∃ hq : q ≠ source.endPos, q.get hq = ')'))) ∧
    (∀ i j, Body.Calls Scanning.body (Scanning.body i) j → RunsOut Scanning.rest Scanning.height j i) ∧
    (∀ i j, i.DepthNonneg → Body.Reaches Scanning.body i j → j.DepthNonneg) ∧
    (∀ source : String, (Token.scan source).length ≤ source.length + 1 ∧ ∀ a,
      Body.Answers Scanning.body (Scanning.body (.run .source 0 (charsFrom source.startPos))) a ↔
        a = (split source.toList, [])) ∧
    (∀ i : Production.Call, ∃ a, (∀ b, Body.Answers Production.body (Production.body i) b ↔ b = a) ∧
      Production.Consumes i.1.mayBeEmpty i.2 a) ∧
    (∀ i j, Body.Calls Production.body (Production.body i) j → Production.Below j i) ∧
    (∀ ts a, Body.Answers Production.body (Production.body (.rule .equality, ts)) a ↔ a = Expr.readPrefix ts) := by
  refine ⟨fun source p => ⟨fun hp => Scanning.next_endsAt hp, Scanning.literal_endsAt, Scanning.run_endsAt⟩,
    fun i j => Scanning.runsOut_of_calls, fun i j hi h => Scanning.depthNonneg_of_reaches h hi,
    fun source => ⟨Token.length_scan_le source, fun a => ?_⟩, fun i => ?_,
    fun i j => Production.below_of_calls, fun ts a => Production.answers_equality_iff⟩
  · rw [charsFrom_startPos]
    exact Scanning.answers_run_iff
  · obtain ⟨a, ha, hconsumes⟩ := Production.exists_answers i
    exact ⟨a, fun _ => ha.eq_iff, hconsumes⟩

end Formula
