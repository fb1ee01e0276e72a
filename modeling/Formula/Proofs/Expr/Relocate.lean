import Formula.Proofs.Expr.Complete

/-!
# Expressions elsewhere in a source

Where the tokens of an expression stand decides the offsets of its nodes and of its errors, and nothing else: reading
copies offsets and never looks at them. So tokens that are moved, in whatever way, form the expression that is moved in
the same way, or fail alike.

- `Expr.relocate`: an expression elsewhere, and so for tokens, unfinished expressions and errors.
- `Unfinished.step_relocate`, `Unfinished.read_relocate`: one token elsewhere, and some tokens elsewhere.
- `Grammar.Derives.relocate`: tokens elsewhere are derived as the expression elsewhere.
- `Expr.ofTokens_relocate`: tokens elsewhere form the expression elsewhere, or fail alike.
-/

namespace Formula

variable (g : Nat → Nat)

/-! ## Moving things -/

/-- The token, moved. -/
def Token.relocate (t : Token) : Token := { t with offset := g t.offset }

namespace Expr

mutual

/-- The expression, each of its nodes moved. -/
def relocate : Expr → Expr
  | number x => number x
  | string s => string s
  | bool b => bool b
  | nil => nil
  | identifier name o => identifier name (g o)
  | unary op operand o => unary op operand.relocate (g o)
  | binary left op right o => binary left.relocate op right.relocate (g o)
  | grouping inner => grouping inner.relocate
  | call callee arguments o => call callee.relocate (relocateAll arguments) (g o)
  | method receiver name o => method receiver.relocate name (g o)
  | interpolation inner o => interpolation inner.relocate (g o)

/-- Some expressions, each of their nodes moved. -/
def relocateAll : List Expr → List Expr
  | [] => []
  | e :: es => e.relocate :: relocateAll es

end

theorem relocateAll_append (es es' : List Expr) :
    relocateAll g (es ++ es') = relocateAll g es ++ relocateAll g es' := by
  induction es with
  | nil => rfl
  | cons e es ih => rw [List.cons_append, relocateAll, relocateAll, ih, List.cons_append]

/-- The pieces of a string literal are joined alike everywhere. -/
theorem relocate_ofSegments (quote : Nat) (es : List Expr) :
    (ofSegments es quote).relocate g = ofSegments (relocateAll g es) (g quote) := by
  cases es with
  | nil => rfl
  | cons e es =>
    induction es generalizing e with
    | nil => rfl
    | cons d ds ih => exact ih (.binary e .add d quote)

end Expr

/-- The operator, moved with what it has of its operands. -/
def Pending.relocate : Pending → Pending
  | unary op o => unary op (g o)
  | binary left op o => binary (left.relocate g) op (g o)

/-- The enclosure, moved with what was read of it. -/
def Enclosure.relocate : Enclosure → Enclosure
  | grouping => grouping
  | call callee arguments o => call (callee.relocate g) (Expr.relocateAll g arguments) (g o)
  | interpolation segments quote o => interpolation (Expr.relocateAll g segments) (g quote) (g o)

/-- What is expected next, moved with what was read of it. -/
def Focus.relocate : Focus → Focus
  | operand => operand
  | firstArgument callee o => firstArgument (callee.relocate g) (g o)
  | methodName receiver => methodName (receiver.relocate g)
  | operator e => operator (e.relocate g)
  | segment segments quote => segment (Expr.relocateAll g segments) (g quote)

/-- The error, moved. -/
def ParseError.relocate : ParseError → ParseError
  | unexpectedToken found o => unexpectedToken found (g o)
  | unexpectedEndOfInput o => unexpectedEndOfInput (g o)
  | expectedClosingParen found o => expectedClosingParen found (g o)
  | expectedMethodName found o => expectedMethodName found (g o)
  | expectedInterpolationEnd found o => expectedInterpolationEnd found (g o)
  | unterminatedString o => unterminatedString (g o)
  | unexpectedTrailingTokens found o => unexpectedTrailingTokens found (g o)

namespace Unfinished

/-- Some enclosures and the operators that wait outside each, moved. -/
def relocateOuter (outer : List (Enclosure × List Pending)) : List (Enclosure × List Pending) :=
  outer.map fun p => (p.1.relocate g, p.2.map (·.relocate g))

theorem relocateOuter_cons (enclosure : Enclosure) (ps : List Pending) (rest : List (Enclosure × List Pending)) :
    relocateOuter g ((enclosure, ps) :: rest) =
      (enclosure.relocate g, ps.map (·.relocate g)) :: relocateOuter g rest := rfl

/-- The unfinished expression, moved. -/
def relocate (u : Unfinished) : Unfinished :=
  ⟨u.focus.relocate g, u.pending.map (·.relocate g), relocateOuter g u.outer⟩

/-- The result of a step, moved. -/
def Step.relocate : Step → Step
  | more u => more (u.relocate g)
  | done e => done (e.relocate g)
  | failed err => failed (err.relocate g)

end Unfinished

/-! ## Waiting operators -/

namespace Pending

theorem relocate_apply (p : Pending) (e : Expr) : (p.apply e).relocate g = (p.relocate g).apply (e.relocate g) := by
  cases p <;> rfl

theorem relocate_applyAll (ps : List Pending) (e : Expr) :
    (applyAll ps e).relocate g = applyAll (ps.map (·.relocate g)) (e.relocate g) := by
  induction ps generalizing e with
  | nil => rfl
  | cons p ps ih =>
    have := ih (p.apply e)
    rw [relocate_apply] at this
    exact this

theorem precedes_relocate (op : BinaryOperator) (p : Pending) : (p.relocate g).precedes op = p.precedes op := by
  cases p <;> rfl

/-- Moving changes nothing about which operators take their operand first. -/
theorem precedes_comp_relocate (op : BinaryOperator) :
    (fun p : Pending => p.precedes op) ∘ (fun p : Pending => p.relocate g) = fun p => p.precedes op :=
  funext (precedes_relocate g op)

end Pending

/-! ## One token -/

namespace Unfinished

section Steps

variable (ps : List Pending) (outer : List (Enclosure × List Pending)) (t : Token) (e : Expr)

theorem atom?_relocate : atom? (t.relocate g) = (atom? t).map (·.relocate g) := by
  obtain ⟨k, x, o⟩ := t
  cases k <;> rfl

theorem misplaced_relocate {expected : String → Nat → ParseError}
    (h : ∀ found o, (expected found o).relocate g = expected found (g o)) :
    misplaced (t.relocate g) expected = (misplaced t expected).relocate g := by
  unfold misplaced
  by_cases ht : t.kind = .eof
  · have ht' : (t.relocate g).kind = .eof := ht
    rw [if_pos ht, if_pos ht']
    rfl
  · have ht' : (t.relocate g).kind ≠ .eof := ht
    rw [if_neg ht, if_neg ht', Step.relocate, h]
    rfl

theorem stepOperand_relocate : stepOperand (ps.map (·.relocate g)) (relocateOuter g outer) (t.relocate g) =
    (stepOperand ps outer t).relocate g := by
  unfold stepOperand
  rw [atom?_relocate]
  cases atom? t with
  | some e => rfl
  | none =>
    dsimp only [Option.map_none, Token.relocate]
    cases UnaryOperator.ofKind? t.kind with
    | some op => rfl
    | none =>
      dsimp only
      split
      · rfl
      · rfl
      · exact misplaced_relocate g t fun _ _ => rfl

theorem stepClose_relocate : stepClose (e.relocate g) (relocateOuter g outer) (t.relocate g) =
    (stepClose e outer t).relocate g := by
  cases outer with
  | nil => rfl
  | cons p rest =>
    obtain ⟨enclosure, qs⟩ := p
    rw [relocateOuter_cons]
    cases enclosure with
    | grouping =>
      dsimp only [stepClose, Enclosure.relocate, Token.relocate]
      split
      · rfl
      · exact misplaced_relocate g t fun _ _ => rfl
    | call callee arguments o =>
      have harguments : Expr.relocateAll g arguments ++ [e.relocate g] = Expr.relocateAll g (arguments ++ [e]) :=
        (Expr.relocateAll_append g arguments [e]).symm
      dsimp only [stepClose, Enclosure.relocate, Token.relocate]
      rw [harguments]
      split
      · rfl
      · rfl
      · exact misplaced_relocate g t fun _ _ => rfl
    | interpolation segments quote o =>
      have hsegments : Expr.relocateAll g segments ++ [.interpolation (e.relocate g) (g o)] =
          Expr.relocateAll g (segments ++ [.interpolation e o]) :=
        (Expr.relocateAll_append g segments [.interpolation e o]).symm
      dsimp only [stepClose, Enclosure.relocate, Token.relocate]
      rw [hsegments]
      split
      · rfl
      · exact misplaced_relocate g t fun _ _ => rfl

theorem stepOperator_relocate :
    stepOperator (e.relocate g) (ps.map (·.relocate g)) (relocateOuter g outer) (t.relocate g) =
      (stepOperator e ps outer t).relocate g := by
  unfold stepOperator
  dsimp only [Token.relocate]
  cases BinaryOperator.ofKind? t.kind with
  | some op =>
    dsimp only
    rw [List.takeWhile_map, List.dropWhile_map, Pending.precedes_comp_relocate, ← Pending.relocate_applyAll]
    rfl
  | none =>
    dsimp only
    split
    · rfl
    · rfl
    · rw [← Pending.relocate_applyAll]
      exact stepClose_relocate g outer t _

theorem stepSegment_relocate (es : List Expr) (q : Nat) :
    stepSegment (Expr.relocateAll g es) (g q) (ps.map (·.relocate g)) (relocateOuter g outer) (t.relocate g) =
      (stepSegment es q ps outer t).relocate g := by
  unfold stepSegment
  dsimp only [Token.relocate]
  split
  · rename_i s _
    exact congrArg (fun es => Step.more ⟨.segment es _, _, _⟩) (Expr.relocateAll_append g es [.string s]).symm
  · rfl
  · exact congrArg (fun e => Step.more ⟨.operator e, _, _⟩) (Expr.relocate_ofSegments g q es).symm
  · rfl
  · rfl

/-- One token elsewhere does what it does where it stands. -/
theorem step_relocate (u : Unfinished) : (u.relocate g).step (t.relocate g) = (u.step t).relocate g := by
  obtain ⟨f, ps, outer⟩ := u
  cases f with
  | operand => exact stepOperand_relocate g ps outer t
  | firstArgument callee o =>
    dsimp only [step, relocate, Focus.relocate, Token.relocate]
    split
    · rfl
    · exact stepOperand_relocate g [] ((.call callee [] o, ps) :: outer) t
  | methodName receiver =>
    dsimp only [step, relocate, Focus.relocate, Token.relocate]
    split
    · rfl
    · exact misplaced_relocate g t fun _ _ => rfl
  | operator e => exact stepOperator_relocate g ps outer t e
  | segment es q => exact stepSegment_relocate g ps outer t es q

end Steps

/-! ## All tokens -/

/-- Before the end of the input, tokens elsewhere are read as they are where they stand. -/
theorem read_relocate {ts : List Token} (h : ∃ t ∈ ts, t.kind = .eof) (u : Unfinished) :
    (u.relocate g).read (ts.map (·.relocate g)) =
      ((u.read ts).map fun p => (p.1.relocate g, p.2.map (·.relocate g))).mapError (·.relocate g) := by
  induction ts generalizing u with
  | nil => obtain ⟨t, ht, -⟩ := h; cases ht
  | cons t ts ih =>
    rw [List.map_cons, read, read, step_relocate]
    cases hs : u.step t with
    | more v =>
      -- no move is made on the end of the input, so it is still to come
      have hrest : ∃ t ∈ ts, t.kind = .eof := by
        obtain ⟨t', ht', hk⟩ := h
        rcases List.mem_cons.mp ht' with rfl | ht'
        · exact absurd hk (moves_of_step hs).kind_ne_eof
        · exact ⟨t', ht', hk⟩
      exact ih hrest v
    | done e => rfl
    | failed err => rfl

/-- A run is a run elsewhere. -/
theorem Runs.relocate {u v : Unfinished} {ts : List Token} (h : Runs u ts v) :
    Runs (u.relocate g) (ts.map (·.relocate g)) (v.relocate g) := by
  induction h with
  | nil => exact .nil
  | cons hm _ ih => exact .cons (moves_of_step (by rw [step_relocate, hm.step]; rfl)) ih

theorem finish_relocate {u : Unfinished} {e : Expr} (h : u.finish = .ok e) :
    (u.relocate g).finish = .ok (e.relocate g) := by
  obtain ⟨e', ps, rfl, rfl⟩ := finish_eq_ok_iff.mp h
  rw [Pending.relocate_applyAll]
  rfl

end Unfinished

/-- Tokens elsewhere are derived as the expression elsewhere. -/
theorem Grammar.Derives.relocate {ts : List Token} {e : Expr} (h : Derives .equality ts e) :
    Derives .equality (ts.map (·.relocate g)) (e.relocate g) := by
  obtain ⟨u, hrun, hu⟩ := derives_iff_runs.mp h
  exact derives_iff_runs.mpr ⟨u.relocate g, hrun.relocate g, Unfinished.finish_relocate g hu⟩

namespace Expr

/-- **Tokens elsewhere form the expression elsewhere, or fail alike.** Tokens that the grammar does not see need not be
the same. -/
theorem ofTokens_relocate {ts us : List Token} (h : ∃ t ∈ ts, t.kind = .eof)
    (hus : significant us = (significant ts).map (·.relocate g)) :
    ofTokens us = ((ofTokens ts).map (·.map (·.relocate g))).mapError (·.relocate g) := by
  have hsig : ∃ t ∈ significant ts, t.kind = .eof := by
    obtain ⟨t, ht, hk⟩ := h
    exact ⟨t, List.mem_filter.mpr ⟨ht, by rw [hk]; rfl⟩, hk⟩
  have hread : readPrefix ((significant ts).map (·.relocate g)) = _ := Unfinished.read_relocate g hsig .start
  have hend : atEnd ((significant ts).map (·.relocate g)) = atEnd (significant ts) := by
    cases significant ts <;> rfl
  simp only [ofTokens, hus, hend, hread]
  split
  · rfl
  · rw [readPrefix]
    cases Unfinished.start.read (significant ts) with
    | error err => rfl
    | ok p =>
      obtain ⟨e, rest⟩ := p
      cases rest with
      | nil => rfl
      | cons t rest =>
        show (if t.kind = .eof then Except.ok (some (e.relocate g))
            else .error (ParseError.unexpectedTrailingTokens t.describe (g t.offset))) =
          (Except.map (Option.map (Expr.relocate g)) (if t.kind = .eof then Except.ok (some e)
            else .error (ParseError.unexpectedTrailingTokens t.describe t.offset))).mapError (ParseError.relocate g)
        split <;> rfl

end Expr

end Formula
