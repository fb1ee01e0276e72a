import Mathlib.Logic.Relation

/-!
# Procedures that call each other

Procedures as they are written down, without a word on whether they ever end. A body calls other procedures, one after
the other, goes on with what they answer, and may answer itself in the end.

- `Body.Answers`: a body comes to an end with an answer; `Body.Calls`: it gets to a call.
- `Body.Meets`: what a body is to be shown to do, given what is known about the answers to its calls.
- `Body.Answers.of_meets`, `Body.Calls.of_meets`: if every body keeps its contract, so do all answers and all calls.
- `Body.exists_answers`: if every body keeps its contract and its calls come later in a well-founded order, every
  procedure answers.
- `RunsOut`: an order for procedures that read a list from its front; `wellFounded_runsOut`.
-/

namespace Formula

/-- What a procedure does up to its answer in `β`. It makes calls out of `ι`; what a call `i` answers is in `α i`. -/
inductive Body (ι : Type) (α : ι → Type) (β : Type) where
  /-- Answers. -/
  | done (b : β)
  /-- Makes a call, and goes on with what is answered. -/
  | call (i : ι) (next : α i → Body ι α β)

namespace Body

variable {ι : Type} {α : ι → Type} {β : Type} {body : (i : ι) → Body ι α (α i)}

/-! ## Runs -/

/-- Where calls run the given bodies, the body comes to an end with the answer. A run is a finite tree of the runs of
its calls, so a body that never ends has no answer. -/
inductive Answers (body : (i : ι) → Body ι α (α i)) : {β : Type} → Body ι α β → β → Prop
  | done {β : Type} {b : β} : Answers body (.done b) b
  | call {β : Type} {i : ι} {next : α i → Body ι α β} {a : α i} {b : β} : Answers body (body i) a →
      Answers body (next a) b → Answers body (.call i next) b

/-- A body answers once. -/
theorem Answers.eq_iff {m : Body ι α β} {b b' : β} (h : Answers body m b) : Answers body m b' ↔ b' = b := by
  refine ⟨fun h' => ?_, fun heq => heq ▸ h⟩
  induction h with
  | done =>
    cases h'
    rfl
  | call _ _ ih ih' =>
    cases h' with
    | call ha hb => exact ih' (ih ha ▸ hb)

/-- Where calls run the given bodies, the body gets to the call: all calls in front of it are answered. -/
inductive Calls (body : (i : ι) → Body ι α (α i)) : {β : Type} → Body ι α β → ι → Prop
  | here {β : Type} {i : ι} {next : α i → Body ι α β} : Calls body (.call i next) i
  | later {β : Type} {i j : ι} {next : α i → Body ι α β} {a : α i} : Answers body (body i) a →
      Calls body (next a) j → Calls body (.call i next) j

/-- One call leads to the other, through any number of calls in between. -/
def Reaches (body : (i : ι) → Body ι α (α i)) : ι → ι → Prop :=
  Relation.ReflTransGen fun i j => Calls body (body i) j

/-! ## Contracts -/

/-- All calls of the body are in `C` and its answer is in `P`, if what its calls answer is as `Q` says. -/
def Meets (Q : (i : ι) → α i → Prop) (C : ι → Prop) (P : β → Prop) : Body ι α β → Prop
  | .done b => P b
  | .call i next => C i ∧ ∀ a, Q i a → (next a).Meets Q C P

section Contracts

variable {Q : (i : ι) → α i → Prop} {C : ι → Prop} {P : β → Prop} {before : ι → ι → Prop}

/-- If every body keeps its contract, answers are as it says. -/
theorem Answers.of_meets (hbody : ∀ i, (body i).Meets Q (before · i) (Q i)) {m : Body ι α β} {b : β}
    (h : Answers body m b) (hm : m.Meets Q C P) : P b := by
  induction h generalizing C with
  | done => exact hm
  | call _ _ ih ih' => exact ih' (hm.2 _ (ih (hbody _)))

/-- If answers are as the contract says, the calls of a body that keeps it are too. -/
theorem Calls.of_meets (hQ : ∀ i a, Answers body (body i) a → Q i a) {m : Body ι α β} {i : ι} (h : Calls body m i)
    (hm : m.Meets Q C P) : C i := by
  induction h with
  | here => exact hm.1
  | later ha _ ih => exact ih (hm.2 _ (hQ _ _ ha))

/-- A body answers if its calls do. -/
theorem exists_answers_of_calls {m : Body ι α β} (hm : m.Meets Q C P)
    (hC : ∀ i, C i → ∃ a, Answers body (body i) a ∧ Q i a) : ∃ b, Answers body m b ∧ P b := by
  induction m with
  | done b => exact ⟨b, .done, hm⟩
  | call i next ih =>
    obtain ⟨a, ha, hq⟩ := hC i hm.1
    obtain ⟨b, hb, hp⟩ := ih a (hm.2 a hq)
    exact ⟨b, .call ha hb, hp⟩

/-- If every body keeps its contract, and its calls come later in a well-founded order, every call is answered. -/
theorem exists_answers (hbody : ∀ i, (body i).Meets Q (before · i) (Q i)) (hwf : WellFounded before) (i : ι) :
    ∃ a, Answers body (body i) a ∧ Q i a := by
  induction i using hwf.induction with
  | _ i ih => exact exists_answers_of_calls (hbody i) ih

/-- What every body keeps for its calls holds of all that is reached. -/
theorem Reaches.of_meets {I : ι → Prop} (hbody : ∀ i, I i → (body i).Meets (fun _ _ => True) I fun _ => True)
    {i j : ι} (h : Reaches body i j) (hi : I i) : I j := by
  induction h with
  | refl => exact hi
  | tail _ hc ih => exact hc.of_meets (fun _ _ _ => trivial) (hbody _ ih)

end Contracts

end Body

/-! ## Reading a list from its front -/

section RunsOut

variable {ι γ : Type} {rest : ι → List γ} {height : ι → Nat} {i j : ι}

/-- What is left to the one is at the end of what is left to the other. It is less, or else the height is. -/
def RunsOut (rest : ι → List γ) (height : ι → Nat) (j i : ι) : Prop :=
  rest j <:+ rest i ∧ (rest j = rest i → height j < height i)

theorem runsOut_of_suffix {x : γ} {xs : List γ} (hi : rest i = x :: xs) (hj : rest j <:+ xs) :
    RunsOut rest height j i := by
  refine ⟨hi ▸ hj.trans (List.suffix_cons x xs), fun heq => ?_⟩
  have hle := hj.length_le
  rw [heq, hi, List.length_cons] at hle
  omega

theorem runsOut_of_height (hrest : rest j = rest i) (hheight : height j < height i) : RunsOut rest height j i :=
  ⟨hrest ▸ List.suffix_rfl, fun _ => hheight⟩

theorem wellFounded_runsOut (rest : ι → List γ) (height : ι → Nat) : WellFounded (RunsOut rest height) := by
  have hlex : WellFounded (Prod.Lex (· < ·) (· < ·) : Nat × Nat → Nat × Nat → Prop) := WellFoundedRelation.wf
  refine Subrelation.wf (fun {j i} h => ?_) (InvImage.wf (fun i => ((rest i).length, height i)) hlex)
  obtain ⟨hsuffix, hheight⟩ := h
  rcases Nat.lt_or_eq_of_le hsuffix.length_le with hlt | heq
  · exact .left _ _ hlt
  · have hlast := hheight (hsuffix.eq_of_length heq)
    exact Prod.lex_def.mpr (.inr ⟨heq, hlast⟩)

end RunsOut

end Formula
