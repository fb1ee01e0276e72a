import Formula.Proofs.Expr.Complete
import Formula.Proofs.Expr.Productions

/-!
# Descent and unfinished expressions

The procedures of the grammar and the unfinished expression read the same. What a call reads from the front of the
tokens, the unfinished expression reads from any place where the call may stand, with the same operators waiting and
the same brackets open before and behind it; where a call fails, it fails alike.

- `Production.Simulates`: what an unfinished expression does where a call stands.
- `Production.simulates_of_answers`: it does so for every answer.
- `Production.answers_equality_iff`: the answer for a whole expression is what `Expr.readPrefix` reads.
-/

namespace Formula.Grammar.Production

open Unfinished Pending

/-! ## Where a call stands and what it leaves -/

/-- The operators in front of an operand are not left to the rules that do not know them. -/
def Fits (r : Rule) (ts : List Token) : Prop :=
  Rule.prefixed.rank < r.rank → ∀ t ∈ ts.head?, UnaryOperator.ofKind? t.kind = none

/-- No suffix is next, and no operator unless it is looser than the rank. -/
def Stops (n : Nat) (ts : List Token) : Prop := ∀ t ∈ ts.head?, t.kind ≠ .symbol .leftParen ∧ t.kind ≠ .symbol .dot ∧
  ∀ op, BinaryOperator.ofKind? t.kind = some op → op.level < n

/-- What is read is read up to such a place. -/
def Leaves {α : Type} (n : Nat) : Outcome α → Prop
  | .ok (_, rest) => Stops n rest
  | .error _ => True

/-- The unfinished expression goes on behind what a call read. -/
def resume (ps : List Pending) (outer : List (Enclosure × List Pending)) : Outcome Expr → Outcome Expr
  | .ok (e, rest) => Unfinished.read ⟨.operator e, ps, outer⟩ rest
  | .error err => .error err

section Reading

variable {n : Nat} {r : Rule} {t : Token} {ts : List Token} {e : Expr} {p : Pending} {ps : List Pending}
  {outer : List (Enclosure × List Pending)} {u v : Unfinished}

theorem fits_nil (r : Rule) : Fits r [] := by simp [Fits]

theorem fits_of_rank_le (h : r.rank ≤ Rule.prefixed.rank) : Fits r ts := fun h' => absurd h' (Nat.not_lt.mpr h)

theorem stops_nil (n : Nat) : Stops n [] := by simp [Stops]

theorem Stops.mono {m : Nat} (h : Stops n ts) (hm : n ≤ m) : Stops m ts := fun t ht =>
  ⟨(h t ht).1, (h t ht).2.1, fun op hop => Nat.lt_of_lt_of_le ((h t ht).2.2 op hop) hm⟩

/-- No operator between operands is tighter than those in front of one. -/
theorem Stops.prefixed (h : Stops n ts) : Stops Rule.prefixed.rank ts := fun t ht =>
  ⟨(h t ht).1, (h t ht).2.1, fun op _ => level_lt_prefixed op⟩

theorem read_of_moves (h : Moves u t v) : u.read (t :: ts) = v.read ts := by
  rw [Unfinished.read, h.step]

/-- Where no suffix is next and no operator that is as tight, the waiting operator takes its operand. -/
theorem read_apply (h : Stops (p.rank + 1) ts) :
    Unfinished.read ⟨.operator e, p :: ps, outer⟩ ts = Unfinished.read ⟨.operator (p.apply e), ps, outer⟩ ts := by
  cases ts with
  | nil => cases outer <;> rfl
  | cons t ts =>
    obtain ⟨hparen, hdot, hlevel⟩ := h t rfl
    have hstep : stepOperator e (p :: ps) outer t = stepOperator (p.apply e) ps outer t := by
      unfold stepOperator
      cases hop : BinaryOperator.ofKind? t.kind with
      | none =>
        dsimp only
        split
        · contradiction
        · contradiction
        · rfl
      | some op =>
        have hprec : p.precedes op = true := precedes_iff.mpr (Nat.le_of_lt_succ (hlevel op hop))
        simp [hprec]
    simp only [Unfinished.read, Unfinished.step, hstep]

/-- Where no suffix and no operator is next, a complete operand ends the innermost bracket. -/
theorem step_of_stops (h : Stops 0 (t :: ts)) :
    Unfinished.step ⟨.operator e, [], outer⟩ t = stepClose e outer t := by
  obtain ⟨hparen, hdot, hlevel⟩ := h t rfl
  have hop : BinaryOperator.ofKind? t.kind = none := by
    rw [Option.eq_none_iff_forall_ne_some]
    exact fun op hop => Nat.not_lt_zero _ (hlevel op hop)
  simp only [Unfinished.step, stepOperator, hop, applyAll_nil]

end Reading

/-! ## The ends of brackets -/

section Brackets

variable {rest : List Token} {e : Expr} {ps : List Pending} {outer : List (Enclosure × List Pending)}

theorem read_closeGrouping (h : Stops 0 rest) : Unfinished.read ⟨.operator e, [], (.grouping, ps) :: outer⟩ rest =
    match accept? (.symbol .rightParen) rest with
    | some us => Unfinished.read ⟨.operator (.grouping e), ps, outer⟩ us
    | none => .error (missing .expectedClosingParen rest) := by
  cases rest with
  | nil => rfl
  | cons t rest =>
    simp only [Unfinished.read, step_of_stops h, stepClose, accept?, missing, misplaced]
    by_cases hk : t.kind = .symbol .rightParen
    · simp [hk]
    · simp [hk]

theorem read_closeArgument {c : Expr} {es : List Expr} {o : Nat} (h : Stops 0 rest) :
    Unfinished.read ⟨.operator e, [], (.call c es o, ps) :: outer⟩ rest =
      match accept? (.symbol .comma) rest with
      | some us => Unfinished.read ⟨.operand, [], (.call c (es ++ [e]) o, ps) :: outer⟩ us
      | none =>
        match accept? (.symbol .rightParen) rest with
        | some us => Unfinished.read ⟨.operator (.call c (es ++ [e]) o), ps, outer⟩ us
        | none => .error (missing .expectedClosingParen rest) := by
  cases rest with
  | nil => rfl
  | cons t rest =>
    simp only [Unfinished.read, step_of_stops h, stepClose, accept?, missing, misplaced]
    by_cases hc : t.kind = .symbol .comma
    · simp [hc]
    · by_cases hk : t.kind = .symbol .rightParen
      · simp [hk]
      · simp [hc, hk]

theorem read_closeInterpolation {es : List Expr} {quote o : Nat} (h : Stops 0 rest) :
    Unfinished.read ⟨.operator e, [], (.interpolation es quote o, ps) :: outer⟩ rest =
      match accept? .interpolationEnd rest with
      | some us => Unfinished.read ⟨.segment (es ++ [.interpolation e o]) quote, ps, outer⟩ us
      | none => .error (missing .expectedInterpolationEnd rest) := by
  cases rest with
  | nil => rfl
  | cons t rest =>
    simp only [Unfinished.read, step_of_stops h, stepClose, accept?, missing, misplaced]
    by_cases hk : t.kind = .interpolationEnd
    · simp [hk]
    · simp [hk]

/-- Where no `)` is next, a first argument is an argument. -/
theorem read_firstArgument {c : Expr} {o : Nat} (h : accept? (.symbol .rightParen) rest = none) :
    Unfinished.read ⟨.firstArgument c o, ps, outer⟩ rest =
      Unfinished.read ⟨.operand, [], (.call c [] o, ps) :: outer⟩ rest := by
  cases rest with
  | nil => rfl
  | cons t rest =>
    have hk : t.kind ≠ .symbol .rightParen := by simpa [accept?] using h
    simp only [Unfinished.read, Unfinished.step]

/-- Outside of all brackets, a complete operand is the expression. -/
theorem read_end (h : Stops 0 rest) : Unfinished.read ⟨.operator e, [], []⟩ rest = .ok (e, rest) := by
  cases rest with
  | nil => rfl
  | cons t rest => simp only [Unfinished.read, step_of_stops h, stepClose]

end Brackets

/-! ## Calls -/

/-- An unfinished expression in the place of the call reads what the call does. -/
def Simulates : (i : Call) → Outcome i.1.Result → Prop
  | (.rule r, ts), a => Fits r ts → (r ≠ .atom → Leaves r.rank a) ∧
      ∀ ps outer, Accepts ps r.rank → Unfinished.read ⟨.operand, ps, outer⟩ ts = resume ps outer a
  | (.operators r left, ts), a => Stops (r.rank + 1) ts → Leaves r.rank a ∧
      ∀ ps outer, Accepts ps r.rank → Unfinished.read ⟨.operator left, ps, outer⟩ ts = resume ps outer a
  | (.suffixes e, ts), a => Leaves Rule.applied.rank a ∧
      ∀ ps outer, Unfinished.read ⟨.operator e, ps, outer⟩ ts = resume ps outer a
  | (.grouping, ts), a => ∀ ps outer, Unfinished.read ⟨.operand, [], (.grouping, ps) :: outer⟩ ts = resume ps outer a
  | (.arguments, ts), a => ∀ c o ps outer, Unfinished.read ⟨.firstArgument c o, ps, outer⟩ ts =
      resume ps outer (a.map fun p => (.call c p.1 o, p.2))
  | (.moreArguments es, ts), a => ∀ c o ps outer, Unfinished.read ⟨.operand, [], (.call c es o, ps) :: outer⟩ ts =
      resume ps outer (a.map fun p => (.call c p.1 o, p.2))
  | (.segments es quote, ts), a => ∀ ps outer, Unfinished.read ⟨.segment es quote, ps, outer⟩ ts = resume ps outer a

/-- A whole expression is read with no operator waiting outside it, and leaves none behind it. -/
theorem Simulates.equality {ts : List Token} {a : Outcome Expr} (h : Simulates (.rule .equality, ts) a) :
    Leaves 0 a ∧ ∀ outer, Unfinished.read ⟨.operand, [], outer⟩ ts = resume [] outer a := by
  obtain ⟨hleaves, hread⟩ := h (fits_of_rank_le (by decide))
  exact ⟨hleaves (by decide), fun outer => hread [] outer (accepts_nil _)⟩

/-- The contract of the body of a call. -/
abbrev Follows (i : Call) (m : CallBody i.1.Result) : Prop := m.Meets Simulates (fun _ => True) (Simulates i)

section Contract

variable {t : Token} {ts : List Token} {r : Rule}

theorem meets_read {α : Type} {p : Production} {next : p.Result → List Token → CallBody α} {P : Outcome α → Prop}
    (hok : ∀ x rest, Simulates (p, ts) (.ok (x, rest)) → (next x rest).Meets Simulates (fun _ => True) P)
    (herror : ∀ err, Simulates (p, ts) (.error err) → P (.error err)) :
    (read p ts next).Meets Simulates (fun _ => True) P := by
  refine ⟨trivial, fun a ha => ?_⟩
  match a, ha with
  | .ok (x, rest), ha => exact hok x rest ha
  | .error err, ha => exact herror err ha

theorem meets_expect {α : Type} {k : Kind} {expected : String → Nat → ParseError} {next : List Token → CallBody α}
    {P : Outcome α → Prop} (hok : ∀ us, accept? k ts = some us → (next us).Meets Simulates (fun _ => True) P)
    (herror : accept? k ts = none → P (.error (missing expected ts))) :
    (expect k expected ts next).Meets Simulates (fun _ => True) P := by
  unfold expect
  split
  · exact hok _ ‹_›
  · exact herror ‹_›

/-- A rule for operators between operands has operands by the next rule, and that is not for atoms. -/
theorem operand_of_rank_lt (ts : List Token) (hr : r.rank < Rule.prefixed.rank) :
    r.operand.rank = r.rank + 1 ∧ r.operand ≠ .atom ∧ Fits r.operand ts := by
  cases r with
  | equality | order | sum | product => exact ⟨rfl, by decide, fits_of_rank_le (by decide)⟩
  | prefixed | applied | atom => exact absurd hr (by decide)

theorem follows_binary (hr : r.rank < Rule.prefixed.rank) : Follows (.rule r, ts)
    (read (.rule r.operand) ts fun left rest => .call (.operators r left, rest) .done) := by
  obtain ⟨hrank, hatom, hfits⟩ := operand_of_rank_lt ts hr
  have hle : r.rank ≤ r.operand.rank := hrank ▸ Nat.le_succ _
  refine meets_read (fun left rest hleft => ⟨trivial, fun a ha _ => ?_⟩) fun err herr _ => ?_
  · obtain ⟨hstops, hread⟩ := hleft hfits
    obtain ⟨hleaves, hread'⟩ := ha (hrank ▸ hstops hatom)
    refine ⟨fun _ => hleaves, fun ps outer hps => ?_⟩
    rw [hread ps outer (hps.mono hle)]
    exact hread' ps outer hps
  · exact ⟨fun _ => trivial, fun ps outer hps => (herr hfits).2 ps outer (hps.mono hle)⟩

theorem operator?_eq_some {op : BinaryOperator} (h : operator? r t = some op) :
    ∃ s, t.kind = .symbol s ∧ Joins r s op := by
  obtain ⟨hop, hlevel⟩ := Option.filter_eq_some_iff.mp h
  obtain ⟨r', s, hk, hjoins⟩ := BinaryOperator.exists_joins hop
  obtain rfl : r' = r := Rule.eq_of_rank_eq (hjoins.level.symm.trans (of_decide_eq_true hlevel))
  exact ⟨s, hk, hjoins⟩

/-- Operators that are no tighter than a rule and none of its own are looser. -/
theorem Stops.of_operator?_eq_none (h : Stops (r.rank + 1) (t :: ts)) (hop : operator? r t = none) :
    Stops r.rank (t :: ts) := by
  intro t' ht
  cases ht
  obtain ⟨hparen, hdot, hlevel⟩ := h t rfl
  refine ⟨hparen, hdot, fun op hop' => Nat.lt_of_le_of_ne (Nat.le_of_lt_succ (hlevel op hop')) fun heq => ?_⟩
  simp [operator?, hop', heq] at hop

theorem read_operator {s : Symbol} {op : BinaryOperator} {left : Expr} {ps : List Pending}
    {outer : List (Enclosure × List Pending)} (hk : t.kind = .symbol s) (h : Joins r s op) (hps : Accepts ps r.rank) :
    Unfinished.read ⟨.operator left, ps, outer⟩ (t :: ts) =
      Unfinished.read ⟨.operand, .binary left op t.offset :: ps, outer⟩ ts := by
  obtain ⟨k, x, o⟩ := t
  obtain rfl : k = .symbol s := hk
  have htake : ps.takeWhile (·.precedes op) = [] := @takeWhile_precedes_append r s op ps [] h (by simp) hps
  have hdrop : ps.dropWhile (·.precedes op) = ps := @dropWhile_precedes_append r s op ps [] h (by simp) hps
  rw [read_of_moves (.join h), htake, hdrop, applyAll_nil]

theorem follows_operators (left : Expr) : Follows (.operators r left, ts) (operatorsBody r left ts) := by
  cases ts with
  | nil => exact fun _ => ⟨stops_nil _, fun _ _ _ => rfl⟩
  | cons t ts =>
    rw [operatorsBody]
    split
    · rename_i op hop
      obtain ⟨s, hk, hjoins⟩ := operator?_eq_some hop
      obtain ⟨hrank, hatom, hfits⟩ := operand_of_rank_lt ts (hjoins.level ▸ level_lt_prefixed op)
      have haccepts (ps : List Pending) : Accepts (.binary left op t.offset :: ps) r.operand.rank := by
        intro p hp
        cases hp
        exact Nat.le_of_eq (hrank ▸ congrArg (· + 1) hjoins.level)
      refine meets_read (fun right rest hright => ⟨trivial, fun a ha _ => ?_⟩) fun err herr _ => ?_
      · -- the operator waits for its right operand alone, and takes it before the next operator of the rule is read
        obtain ⟨hleaves, hread⟩ := hright hfits
        have hstops : Stops (r.rank + 1) rest := hrank ▸ hleaves hatom
        obtain ⟨hleaves', hread'⟩ := ha hstops
        refine ⟨hleaves', fun ps outer hps => ?_⟩
        have hwaits : (Pending.binary left op t.offset).rank = r.rank := hjoins.level
        rw [read_operator hk hjoins hps, hread _ outer (haccepts ps), resume, read_apply (hwaits ▸ hstops)]
        exact hread' ps outer hps
      · refine ⟨trivial, fun ps outer hps => ?_⟩
        rw [read_operator hk hjoins hps]
        exact (herr hfits).2 _ outer (haccepts ps)
    · rename_i hop
      exact fun hstops => ⟨hstops.of_operator?_eq_none hop, fun _ _ _ => rfl⟩

/-- What begins with no operator and is read by the tighter rule is read by the rule for operators in front. -/
theorem Simulates.prefixed {a : Outcome Expr} (h : Simulates (.rule .applied, ts) a) (hfits : Fits .applied ts) :
    Simulates (.rule .prefixed, ts) a := by
  intro _
  obtain ⟨hleaves, hread⟩ := h hfits
  refine ⟨fun _ => ?_, fun ps outer hps => hread ps outer (hps.mono (Nat.le_succ _))⟩
  cases a with
  | error err => trivial
  | ok x => exact Stops.prefixed (hleaves (by decide))

theorem follows_prefixed : Follows (.rule .prefixed, ts) (prefixedBody ts) := by
  cases ts with
  | nil => exact ⟨trivial, fun _ ha => ha.prefixed (fits_nil _)⟩
  | cons t ts =>
    rw [prefixedBody]
    split
    · rename_i op hop
      obtain ⟨k, x, o⟩ := t
      obtain ⟨s, rfl, hlead⟩ := UnaryOperator.exists_leads hop
      have hfits : Fits .prefixed ts := fits_of_rank_le (Nat.le_refl _)
      have haccepts (ps : List Pending) : Accepts (.unary op o :: ps) Rule.prefixed.rank :=
        accepts_of_prefixed_le (Nat.le_refl _)
      refine meets_read (fun e rest he _ => ?_) fun err herr _ => ?_
      · obtain ⟨hleaves, hread⟩ := he hfits
        have hstops : Stops Rule.prefixed.rank rest := hleaves (by decide)
        refine ⟨fun _ => hstops, fun ps outer _ => ?_⟩
        rw [read_of_moves (.lead hlead), hread _ outer (haccepts ps), resume, read_apply (hstops.mono (Nat.le_succ _))]
        rfl
      · refine ⟨fun _ => trivial, fun ps outer _ => ?_⟩
        rw [read_of_moves (.lead hlead)]
        exact (herr hfits).2 _ outer (haccepts ps)
    · rename_i hop
      have hfits : Fits .applied (t :: ts) := by
        intro _ t' ht
        cases ht
        exact hop
      exact ⟨trivial, fun _ ha => ha.prefixed hfits⟩

theorem follows_applied : Follows (.rule .applied, ts) (body (.rule .applied, ts)) := by
  refine meets_read (fun e rest he => ⟨trivial, fun a ha hfits => ?_⟩) fun err herr hfits => ?_
  · have hatom : Fits .atom ts := fun _ => hfits (by decide)
    refine ⟨fun _ => ha.1, fun ps outer hps => ?_⟩
    rw [(he hatom).2 ps outer (hps.mono (by decide))]
    exact ha.2 ps outer
  · have hatom : Fits .atom ts := fun _ => hfits (by decide)
    exact ⟨fun _ => trivial, fun ps outer hps => (herr hatom).2 ps outer (hps.mono (by decide))⟩

theorem follows_method (e : Expr) {x : String} {o : Nat} :
    Follows (.suffixes e, ⟨.symbol .dot, x, o⟩ :: ts) (methodBody e ts) := by
  cases ts with
  | nil => exact ⟨trivial, fun _ _ => read_of_moves .dot⟩
  | cons t ts =>
    obtain ⟨k, x', o'⟩ := t
    rw [methodBody]
    split
    · rename_i name hk
      obtain rfl : k = .identifier name := hk
      refine ⟨trivial, fun a ha => ⟨ha.1, fun ps outer => ?_⟩⟩
      rw [read_of_moves .dot, read_of_moves .methodName]
      exact ha.2 ps outer
    · rename_i hk
      refine ⟨trivial, fun ps outer => ?_⟩
      rw [read_of_moves .dot]
      simp only [Unfinished.read, Unfinished.step, resume, missing, misplaced]

theorem follows_suffixes (e : Expr) : Follows (.suffixes e, ts) (suffixesBody e ts) := by
  cases ts with
  | nil => exact ⟨stops_nil _, fun _ _ => rfl⟩
  | cons t ts =>
    obtain ⟨k, x, o⟩ := t
    rw [suffixesBody]
    split
    · rename_i hk
      obtain rfl : k = .symbol .leftParen := hk
      refine meets_read (fun es rest hes => ⟨trivial, fun a ha => ⟨ha.1, fun ps outer => ?_⟩⟩) fun err herr =>
        ⟨trivial, fun ps outer => ?_⟩
      · rw [read_of_moves .openCall, hes e o ps outer]
        exact ha.2 ps outer
      · rw [read_of_moves .openCall]
        exact herr e o ps outer
    · rename_i hk
      obtain rfl : k = .symbol .dot := hk
      exact follows_method e
    · rename_i hparen hdot
      refine ⟨fun t ht => ?_, fun _ _ => rfl⟩
      cases ht
      exact ⟨hparen, hdot, fun op _ => Nat.lt_succ_of_lt (level_lt_prefixed op)⟩

theorem follows_atom : Follows (.rule .atom, ts) (atomBody ts) := by
  cases ts with
  | nil => exact fun _ => ⟨fun _ => trivial, fun _ _ _ => rfl⟩
  | cons t ts =>
    rw [atomBody]
    split
    · rename_i e he
      exact fun _ => ⟨fun h => absurd rfl h, fun ps outer _ => read_of_moves (.atom he)⟩
    · rename_i hatom
      obtain ⟨k, x, o⟩ := t
      dsimp only
      split
      · refine ⟨trivial, fun a ha _ => ⟨fun h => absurd rfl h, fun ps outer _ => ?_⟩⟩
        rw [read_of_moves .openGrouping]
        exact ha ps outer
      · refine ⟨trivial, fun a ha _ => ⟨fun h => absurd rfl h, fun ps outer _ => ?_⟩⟩
        rw [read_of_moves .openString]
        exact ha ps outer
      · -- an unfinished expression would take an operator here, so this one must not stand where there is one
        intro hfits
        have hop : UnaryOperator.ofKind? k = none := hfits (by decide) _ rfl
        refine ⟨fun _ => trivial, fun ps outer _ => ?_⟩
        simp only [Unfinished.read, Unfinished.step, stepOperand, hatom, hop, resume, missing, misplaced]

theorem follows_grouping : Follows (.grouping, ts) (body (.grouping, ts)) := by
  refine meets_read (fun e rest he => ?_) fun err herr => ?_
  · obtain ⟨hstops, hread⟩ := he.equality
    refine meets_expect (fun us haccept ps outer => ?_) fun haccept ps outer => ?_
    all_goals
      rw [hread, resume, read_closeGrouping hstops, haccept]
      rfl
  · exact fun ps outer => herr.equality.2 _

theorem follows_arguments : Follows (.arguments, ts) (argumentsBody ts) := by
  unfold argumentsBody
  split
  · rename_i rest haccept
    obtain ⟨x, o, rfl⟩ := eq_of_accept? haccept
    exact fun _ _ _ _ => read_of_moves .emptyCall
  · rename_i haccept
    refine ⟨trivial, fun a ha c o ps outer => ?_⟩
    rw [read_firstArgument haccept]
    exact ha c o ps outer

theorem follows_moreArguments (es : List Expr) : Follows (.moreArguments es, ts) (moreArgumentsBody es ts) := by
  refine meets_read (fun e rest he => ?_) fun err herr => ?_
  · obtain ⟨hstops, hread⟩ := he.equality
    split
    · rename_i us hcomma
      refine ⟨trivial, fun a ha c o ps outer => ?_⟩
      rw [hread, resume, read_closeArgument hstops, hcomma]
      exact ha c o ps outer
    · rename_i hcomma
      refine meets_expect (fun us haccept c o ps outer => ?_) fun haccept c o ps outer => ?_
      all_goals
        rw [hread, resume, read_closeArgument hstops, hcomma, haccept]
        rfl
  · exact fun c o ps outer => herr.equality.2 _

theorem follows_segments (es : List Expr) (quote : Nat) :
    Follows (.segments es quote, ts) (segmentsBody es quote ts) := by
  cases ts with
  | nil => exact fun _ _ => rfl
  | cons t ts =>
    obtain ⟨k, x, o⟩ := t
    rw [segmentsBody]
    dsimp only
    split
    · refine ⟨trivial, fun a ha ps outer => ?_⟩
      rw [read_of_moves .plaintext]
      exact ha ps outer
    · refine meets_read (fun e rest he => ?_) fun err herr ps outer => ?_
      · obtain ⟨hstops, hread⟩ := he.equality
        refine meets_expect (fun us haccept => ⟨trivial, fun a ha ps outer => ?_⟩) fun haccept ps outer => ?_
        all_goals
          rw [read_of_moves .openInterpolation, hread, resume, read_closeInterpolation hstops, haccept]
        · exact ha ps outer
        · rfl
      · rw [read_of_moves .openInterpolation]
        exact herr.equality.2 _
    · exact fun ps outer => read_of_moves .closeString
    · exact fun ps outer => rfl
    · intro ps outer
      simp only [Unfinished.read, Unfinished.step, stepSegment, resume]

end Contract

/-- Every call does what an unfinished expression in its place does, if those that it makes do. -/
theorem follows_body (i : Call) : Follows i (body i) := by
  obtain ⟨p, ts⟩ := i
  cases p with
  | rule r =>
    cases r with
    | equality | order | sum | product => exact follows_binary (by decide)
    | prefixed => exact follows_prefixed
    | applied => exact follows_applied
    | atom => exact follows_atom
  | operators r left => exact follows_operators left
  | suffixes e => exact follows_suffixes e
  | grouping => exact follows_grouping
  | arguments => exact follows_arguments
  | moreArguments es => exact follows_moreArguments es
  | segments es quote => exact follows_segments es quote

theorem simulates_of_answers {i : Call} {a : Outcome i.1.Result} (h : Body.Answers body (body i) a) : Simulates i a :=
  h.of_meets follows_body (follows_body i)

/-- What the rule for whole expressions answers is what is read as an expression. -/
theorem answers_equality_iff {ts : List Token} {a : Outcome Expr} :
    Body.Answers body (body (.rule .equality, ts)) a ↔ a = Expr.readPrefix ts := by
  obtain ⟨b, hb, -⟩ := exists_answers (.rule .equality, ts)
  obtain ⟨hstops, hread⟩ := (simulates_of_answers hb).equality
  have hprefix : Expr.readPrefix ts = b := by
    rw [Expr.readPrefix, Unfinished.start, hread]
    cases b with
    | error err => rfl
    | ok x => exact read_end hstops
  rw [hb.eq_iff, hprefix]

end Formula.Grammar.Production
