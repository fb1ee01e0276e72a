import Formula.Proofs.Lexeme.Extend
import Formula.Proofs.Procedure

/-!
# Scanning moves forward

The scanner as procedures that call each other and move a cursor over the source: a run of lexemes, the lexeme at the
cursor, and the pieces of a string literal, which runs over the lexemes of each interpolation. Nothing in them says that
they end, and depths of parentheses are integers, so that nothing says that they do not fall below zero.

- `Scanning.exists_answers`: every call ends, with the cursor further on.
- `Scanning.runsOut_of_calls`: so does every round of their loops.
- `Scanning.depthNonneg_of_reaches`: no depth falls below zero.
- `Scanning.answers_run_iff`: over a whole source, what they answer is `Lexeme.split`.
-/

namespace Formula.Lexeme

/-- Where a run of lexemes ends: with the source, or else in front of the `)` of an interpolation. -/
inductive Scope where
  | source
  | interpolation
  deriving DecidableEq

/-- A call of the scanner, with the characters from the cursor on. -/
inductive Scanning where
  /-- The lexemes up to the end of the scope, from a depth of parentheses on. -/
  | run (scope : Scope) (depth : Int) (cs : List Char)
  /-- The lexeme or the string literal at the cursor. -/
  | next (c : Char) (cs : List Char)
  /-- The rest of the literal that starts like `opened`, behind the lexemes `read` and then the plain text `text`. -/
  | literal (opened : List Char) (read : List Lexeme) (text : List Char) (cs : List Char)

namespace Scanning

/-- The depth behind a character. Outside of interpolations parentheses are not counted. -/
def depthPast (scope : Scope) (depth : Int) (c : Char) : Int :=
  match scope with
  | .source => depth
  | .interpolation => if c = '(' then depth + 1 else if c = ')' then depth - 1 else depth

/-- Takes the `)` that the lexemes of an interpolation end in front of. -/
def close? : List Lexeme × List Char → Option (List Lexeme × List Char)
  | (ls, ')' :: r) => some (ls, r)
  | _ => none

/-- Goes on with a literal behind an interpolation, or gives the literal up where the interpolation is not closed. -/
def goOn (opened : List Char) (read : List Lexeme) : Option (List Lexeme × List Char) →
    Body Scanning (fun _ => List Lexeme × List Char) (List Lexeme × List Char)
  | some (ls, r) => .call (literal opened (read ++ interpolationStart :: ls ++ [interpolationEnd]) [] r) .done
  | none => .done ([trivia opened], [])

/-- What the calls do. They answer some lexemes, and the characters from where they leave the cursor. -/
def body : Scanning → Body Scanning (fun _ => List Lexeme × List Char) (List Lexeme × List Char)
  | run _ _ [] => .done ([], [])
  | run scope depth (c :: cs) =>
    if scope = .interpolation ∧ c = ')' ∧ depth = 0 then .done ([], c :: cs)
    else
      .call (next c cs) fun (ls, r) =>
        .call (run scope (depthPast scope depth c) r) fun (ls', r') => .done (ls ++ ls', r')
  | next c cs =>
    if c = '"' then .call (literal (c :: cs) [stringStart] [] cs) .done
    else .done ([first c cs], after c cs)
  -- a literal that is never closed is inert up to the end of the source, with all that was read of it
  | literal opened _ _ [] => .done ([trivia opened], [])
  | literal _ read text ('"' :: cs) => .done (read ++ textRun text ++ [stringEnd], cs)
  | literal opened read text ('\\' :: '(' :: cs) =>
    .call (run .interpolation 0 cs) fun a => goOn opened (read ++ textRun text) (close? a)
  | literal opened read text ('\\' :: c :: cs) => .call (literal opened read (text ++ ['\\', c]) cs) .done
  | literal opened read text (c :: cs) => .call (literal opened read (text ++ [c]) cs) .done

/-! ## The cursor -/

/-- The characters from the cursor on. -/
def rest : Scanning → List Char
  | run _ _ cs => cs
  | next c cs => c :: cs
  | literal _ _ _ cs => cs

/-- A run may call for the lexeme at its own cursor. -/
def height : Scanning → Nat
  | run _ _ _ => 1
  | next _ _ | literal _ _ _ _ => 0

/-- The cursor is moved to where the call says: a run ends with its scope, and a lexeme is one character at least. -/
def Forward : Scanning → List Lexeme × List Char → Prop
  | run scope _ cs, (_, r) => r <:+ cs ∧ (r = [] ∨ scope = .interpolation ∧ r.head? = some ')')
  | next _ cs, (_, r) => r <:+ cs
  | literal _ _ _ cs, (_, r) => r <:+ cs

theorem after_suffix (c : Char) (cs : List Char) : after c cs <:+ cs := List.drop_suffix _ cs

theorem eq_of_close? {a : List Lexeme × List Char} {ls : List Lexeme} {r : List Char} (h : close? a = some (ls, r)) :
    a = (ls, ')' :: r) := by
  unfold close? at h
  split at h <;> simp_all

/-- Every call moves the cursor forward, if those that it makes do. -/
theorem meets_forward (i : Scanning) : i.body.Meets Forward (RunsOut rest height · i) (Forward i) := by
  fun_cases body i with
  | case1 scope depth => exact ⟨List.suffix_rfl, .inl rfl⟩
  | case2 scope depth c cs h => exact ⟨List.suffix_rfl, .inr ⟨h.1, by rw [h.2.1]; rfl⟩⟩
  | case3 scope depth c cs h =>
    refine ⟨runsOut_of_height rfl Nat.zero_lt_one, fun (ls, r) hr => ?_⟩
    refine ⟨runsOut_of_suffix rfl hr, fun (ls', r') ⟨hr', hend⟩ => ?_⟩
    exact ⟨(hr'.trans hr).trans (List.suffix_cons c cs), hend⟩
  | case4 cs => exact ⟨runsOut_of_suffix rfl List.suffix_rfl, fun (ls, r) hr => hr⟩
  | case5 c cs h => exact after_suffix c cs
  | case6 opened read text => exact List.suffix_rfl
  | case7 opened read text cs => exact List.suffix_cons _ cs
  | case8 opened read text cs =>
    have hrun : RunsOut rest height (run .interpolation 0 cs) (literal opened read text ('\\' :: '(' :: cs)) :=
      runsOut_of_suffix rfl (List.suffix_cons _ cs)
    have hfront : cs <:+ '\\' :: '(' :: cs := (List.suffix_cons _ cs).trans (List.suffix_cons _ _)
    refine ⟨hrun, fun a ⟨ha, _⟩ => ?_⟩
    dsimp only
    cases hclose : close? a with
    | none => exact List.nil_suffix
    | some p =>
      obtain ⟨ls, r⟩ := p
      obtain rfl := eq_of_close? hclose
      have hbehind : r <:+ cs := (List.suffix_cons _ r).trans ha
      exact ⟨runsOut_of_suffix rfl (hbehind.trans (List.suffix_cons _ cs)), fun (ls', r') hr' =>
        hr'.trans (hbehind.trans hfront)⟩
  | case9 opened read text c cs h =>
    exact ⟨runsOut_of_suffix rfl (List.suffix_cons c cs), fun (ls, r) hr =>
      hr.trans ((List.suffix_cons c cs).trans (List.suffix_cons _ _))⟩
  | case10 opened read text c cs =>
    exact ⟨runsOut_of_suffix rfl List.suffix_rfl, fun (ls, r) hr => hr.trans (List.suffix_cons c cs)⟩

/-- Every call ends, with the cursor further on. -/
theorem exists_answers (i : Scanning) : ∃ a, Body.Answers body i.body a ∧ i.Forward a :=
  Body.exists_answers meets_forward (wellFounded_runsOut rest height) i

theorem forward_of_answers {i : Scanning} {a : List Lexeme × List Char} (h : Body.Answers body i.body a) :
    i.Forward a :=
  h.of_meets meets_forward (meets_forward i)

/-- Every call that a call makes is further on, or on the way to it. -/
theorem runsOut_of_calls {i j : Scanning} (h : Body.Calls body i.body j) : RunsOut rest height j i :=
  h.of_meets (fun _ _ => forward_of_answers) (meets_forward i)

/-! ## The depth -/

/-- No depth is below zero. -/
def DepthNonneg : Scanning → Prop
  | run _ depth _ => 0 ≤ depth
  | next _ _ | literal _ _ _ _ => True

theorem depthPast_nonneg {scope : Scope} {depth : Int} {c : Char} (hd : 0 ≤ depth)
    (h : ¬(scope = .interpolation ∧ c = ')' ∧ depth = 0)) : 0 ≤ depthPast scope depth c := by
  cases scope with
  | source => exact hd
  | interpolation =>
    simp only [depthPast]
    split
    · omega
    · split
      · rename_i hclose
        have hne : depth ≠ 0 := fun hzero => h ⟨rfl, hclose, hzero⟩
        omega
      · exact hd

theorem meets_depthNonneg (i : Scanning) (hi : i.DepthNonneg) :
    i.body.Meets (fun _ _ => True) DepthNonneg fun _ => True := by
  fun_cases body i with
  | case3 scope depth c cs h =>
    exact ⟨trivial, fun _ _ => ⟨depthPast_nonneg hi h, fun _ _ => trivial⟩⟩
  | case8 opened read text cs =>
    refine ⟨Int.le_refl 0, fun a _ => ?_⟩
    dsimp only
    cases close? a with
    | none => trivial
    | some p => exact ⟨trivial, fun _ _ => trivial⟩
  | case4 | case9 | case10 => exact ⟨trivial, fun _ _ => trivial⟩
  | case1 | case2 | case5 | case6 | case7 => trivial

/-- No depth falls below zero. -/
theorem depthNonneg_of_reaches {i j : Scanning} (h : Body.Reaches body i j) (hi : i.DepthNonneg) : j.DepthNonneg :=
  h.of_meets meets_depthNonneg hi

/-! ## What is answered -/

/-- The rest of a literal behind some plain text. -/
def literalBehind? (text cs : List Char) : Option (List Lexeme × List Char) :=
  (literal? (cs.drop (PlainText.extent cs))).map fun q => (textRun (text ++ cs.take (PlainText.extent cs)) ++ q.1, q.2)

/-- The lexemes of a literal behind `read`, or what it is if it is never closed. -/
def orUnclosed (opened : List Char) (read : List Lexeme) :
    Option (List Lexeme × List Char) → List Lexeme × List Char
  | some (ls, r) => (read ++ ls, r)
  | none => ([trivia opened], [])

/-- The call answers what the source is split into. -/
def Agrees : Scanning → List Lexeme × List Char → Prop
  | run .source _ cs, a => a = (split cs, [])
  | run .interpolation depth cs, a => ∀ d : Nat, depth = d → close? a = body? d cs
  | next c cs, a => a = if c = '"' then orUnclosed (c :: cs) [stringStart] (literal? cs) else ([first c cs], after c cs)
  | literal opened read text cs, a => a = orUnclosed opened read (literalBehind? text cs)

section Behind

variable (text : List Char) {cs : List Char}

theorem literalBehind?_of_extent (h : PlainText.extent cs = 0) :
    literalBehind? text cs = (literal? cs).map fun q => (textRun text ++ q.1, q.2) := by
  simp [literalBehind?, h]

theorem literalBehind?_nil : literalBehind? [] cs = literal? cs := by
  rcases Nat.eq_zero_or_pos (PlainText.extent cs) with h | h
  · simp [literalBehind?_of_extent [] h, textRun]
  · have hne : cs ≠ [] := by
      rintro rfl
      simp [PlainText.extent] at h
    simp [literalBehind?, literal?_plaintext h, textRun, hne, Nat.ne_of_gt h]

/-- Plain text goes on with units that do. -/
theorem literalBehind?_unit {unit : List Char} (h : PlainText.extent (unit ++ cs) = unit.length + PlainText.extent cs) :
    literalBehind? text (unit ++ cs) = literalBehind? (text ++ unit) cs := by
  simp [literalBehind?, h, List.take_length_add_append, List.drop_length_add_append]

theorem literalBehind?_interpolation (cs : List Char) : literalBehind? text ('\\' :: '(' :: cs) =
    (body? 0 cs).bind fun p => (literal? p.2).map fun q =>
      (textRun text ++ interpolationStart :: p.1 ++ interpolationEnd :: q.1, q.2) := by
  rw [literalBehind?_of_extent text rfl, literal?_interpolation, Option.map_bind]
  simp [Function.comp_def]

end Behind

section Agreement

variable {opened text unit cs r ls' : List Char} {c : Char} {read ls : List Lexeme} {depth : Int}
  {a : List Lexeme × List Char}

theorem agrees_literal_unit (hunit : PlainText.extent (unit ++ cs) = unit.length + PlainText.extent cs)
    (ha : (literal opened read (text ++ unit) cs).Agrees a) : (literal opened read text (unit ++ cs)).Agrees a := by
  simp only [Agrees, literalBehind?_unit text hunit]
  exact ha

theorem agrees_literal_interpolation (hrun : some (ls, r) = body? 0 cs)
    (ha : (literal opened (read ++ textRun text ++ interpolationStart :: ls ++ [interpolationEnd]) [] r).Agrees a) :
    (literal opened read text ('\\' :: '(' :: cs)).Agrees a := by
  simp only [Agrees, literalBehind?_nil] at ha
  simp only [Agrees, literalBehind?_interpolation, ← hrun, Option.bind_some, ha]
  cases literal? r <;> simp [orUnclosed]

theorem close?_append (ls : List Lexeme) (a : List Lexeme × List Char) :
    close? (ls ++ a.1, a.2) = (close? a).map fun q => (ls ++ q.1, q.2) := by
  obtain ⟨ls', r⟩ := a
  unfold close?
  split <;> simp_all

theorem depthPast_eq {d : Nat} (h : ¬(c = ')' ∧ (d : Int) = 0)) :
    depthPast .interpolation d c = (depthAfter d c : Nat) := by
  simp only [depthPast, depthAfter]
  split
  · simp
  · split
    · rename_i hclose
      have hne : (d : Int) ≠ 0 := fun hzero => h ⟨hclose, hzero⟩
      omega
    · rfl

theorem agrees_run_source (hnext : (next c cs).Agrees (ls, r)) (hrun : (run .source depth r).Agrees a) :
    (run .source depth (c :: cs)).Agrees (ls ++ a.1, a.2) := by
  simp only [Agrees] at hnext hrun ⊢
  by_cases hc : c = '"'
  · subst hc
    cases hl : literal? cs with
    | none =>
      simp only [hl, orUnclosed, if_true, Prod.mk.injEq] at hnext
      simp [hnext, hrun, split_unclosed hl]
    | some p =>
      simp only [hl, orUnclosed, if_true, Prod.mk.injEq] at hnext
      simp [hnext, hrun, split_literal hl]
  · simp only [if_neg hc, Prod.mk.injEq] at hnext
    simp [hnext, hrun, split_other cs hc]

theorem agrees_run_interpolation (h : ¬(c = ')' ∧ depth = 0)) (hnext : (next c cs).Agrees (ls, r))
    (hrun : (run .interpolation (depthPast .interpolation depth c) r).Agrees a) :
    (run .interpolation depth (c :: cs)).Agrees (ls ++ a.1, a.2) := by
  rintro d rfl
  have hbody := hrun (depthAfter d c) (depthPast_eq h)
  rw [close?_append, hbody]
  simp only [Agrees] at hnext
  by_cases hc : c = '"'
  · subst hc
    have hdepth : depthAfter d '"' = d := rfl
    rw [body?_quote, hdepth]
    cases hl : literal? cs with
    | none =>
      simp only [hl, orUnclosed, if_true, Prod.mk.injEq] at hnext
      simp [hnext]
    | some p =>
      simp only [hl, orUnclosed, if_true, Prod.mk.injEq] at hnext
      simp [hnext]
  · simp only [if_neg hc, Prod.mk.injEq] at hnext
    have hother : ¬(c = ')' ∧ d = 0) := fun ⟨hclose, hzero⟩ => h ⟨hclose, by simp [hzero]⟩
    simp [hnext, body?_other c cs d hother hc]

end Agreement

/-- Every call answers what the source is split into, if those that it makes do. -/
theorem meets_agrees (i : Scanning) : i.body.Meets Agrees (fun _ => True) (Agrees i) := by
  fun_cases body i with
  | case1 scope depth =>
    cases scope with
    | source => simp [Body.Meets, Agrees]
    | interpolation => simp [Body.Meets, Agrees, close?]
  | case2 scope depth c cs h =>
    obtain ⟨rfl, rfl, rfl⟩ := h
    intro d hd
    obtain rfl : d = 0 := by omega
    simp [close?]
  | case3 scope depth c cs h =>
    refine ⟨trivial, fun (ls, r) hnext => ⟨trivial, fun (ls', r') hrun => ?_⟩⟩
    cases scope with
    | source => exact agrees_run_source hnext hrun
    | interpolation => exact agrees_run_interpolation (fun hclose => h ⟨rfl, hclose⟩) hnext hrun
  | case4 cs => exact ⟨trivial, fun (ls, r) h => by simpa [Body.Meets, Agrees, literalBehind?_nil] using h⟩
  | case5 c cs h => simp [Body.Meets, Agrees, h]
  | case6 opened read text => simp [Body.Meets, Agrees, literalBehind?, orUnclosed]
  | case7 opened read text cs =>
    simp [Body.Meets, Agrees, literalBehind?_of_extent, PlainText.extent, orUnclosed]
  | case8 opened read text cs =>
    refine ⟨trivial, fun a hrun => ?_⟩
    have hbody : close? a = body? 0 cs := hrun 0 rfl
    dsimp only
    cases hclose : close? a with
    | none => simp [goOn, Body.Meets, Agrees, literalBehind?_interpolation, ← hbody, hclose, orUnclosed]
    | some p => exact ⟨trivial, fun a ha => agrees_literal_interpolation (hclose ▸ hbody) ha⟩
  | case9 opened read text c cs h =>
    have hunit : PlainText.extent (['\\', c] ++ cs) = 2 + PlainText.extent cs :=
      (TextUnit.escape c h).extent_raw_append cs
    exact ⟨trivial, fun a ha => agrees_literal_unit hunit ha⟩
  | case10 opened read text c cs hquote hopen hpair =>
    have hunit : PlainText.extent ([c] ++ cs) = 1 + PlainText.extent cs := by
      rw [List.singleton_append, PlainText.extent, Nat.add_comm]
      · exact hquote
      · exact hopen
      · exact hpair
    exact ⟨trivial, fun a ha => agrees_literal_unit hunit ha⟩

theorem agrees_of_answers {i : Scanning} {a : List Lexeme × List Char} (h : Body.Answers body i.body a) : i.Agrees a :=
  h.of_meets meets_agrees (meets_agrees i)

/-- Over a whole source, the lexemes are answered that it is split into. -/
theorem answers_run_iff {depth : Int} {cs : List Char} {a : List Lexeme × List Char} :
    Body.Answers body (run .source depth cs).body a ↔ a = (split cs, []) := by
  obtain ⟨b, hb, -⟩ := exists_answers (run .source depth cs)
  rw [hb.eq_iff, agrees_of_answers hb]

end Scanning

end Formula.Lexeme
