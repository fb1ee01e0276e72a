import Formula.Proofs.Expr.Sound

/-!
# What is derived is read

Tokens that a rule derives are read as the expression it gives: the run ends behind a complete operand, and the
operators that still wait give the expression once they take it. Each of them binds at least as tightly as the rule,
so an operator of a looser rule that follows closes them all, and those that waited before do not close too early.

- `Grammar.Derives.runs`: a run for every derivation, from any place where its rule may stand.
- `Grammar.derives_iff_runs`: the derivations of whole expressions are the runs that can end.
- `Expr.ofTokens_eq_ok_iff_derives`: tokens hold nothing if their sentence is empty, and hold exactly the expressions
  that their sentence derives.
-/

namespace Formula

open Grammar Unfinished

namespace Pending

theorem rank_lt_applied (p : Pending) : p.rank < Rule.applied.rank := by
  cases p with
  | unary => exact Nat.lt_succ_self _
  | binary _ op _ => exact Nat.lt_succ_of_lt (level_lt_prefixed op)

/-- Behind a derivation by a tight rule no operator waits. -/
theorem eq_nil_of_applied_le {r : Rule} {qs : List Pending} (hr : Rule.applied.rank ≤ r.rank)
    (h : ∀ p ∈ qs, r.rank ≤ p.rank) : qs = [] := by
  rw [List.eq_nil_iff_forall_not_mem]
  intro p hp
  have := h p hp
  have := p.rank_lt_applied
  omega

section Split

variable {r : Rule} {s : Symbol} {op : BinaryOperator} {ps qs : List Pending}

/-- An operator closes those within its rule, -/
theorem takeWhile_precedes_append (h : Joins r s op) (hq : ∀ p ∈ qs, r.rank ≤ p.rank) (hp : Accepts ps r.rank) :
    (qs ++ ps).takeWhile (·.precedes op) = qs := by
  rw [List.takeWhile_append_of_pos fun p hp => precedes_iff.mpr (h.level ▸ hq p hp)]
  cases ps with
  | nil => simp
  | cons p ps =>
    have hlt := (rank_lt_operandRank (h.level ▸ level_lt_prefixed op)).mp (hp p rfl)
    have : p.precedes op = false := by
      rw [← Bool.not_eq_true, precedes_iff, h.level]
      omega
    simp [this]

/-- and no others. -/
theorem dropWhile_precedes_append (h : Joins r s op) (hq : ∀ p ∈ qs, r.rank ≤ p.rank) (hp : Accepts ps r.rank) :
    (qs ++ ps).dropWhile (·.precedes op) = ps := by
  have := List.takeWhile_append_dropWhile (p := (·.precedes op)) (l := qs ++ ps)
  rw [takeWhile_precedes_append h hq hp] at this
  exact List.append_cancel_left this

end Split

end Pending

open Pending

/-- A run from where an operand is expected is a run from behind the `(` of a call. -/
theorem Unfinished.Runs.firstArgument {c : Expr} {o : Nat} {ps : List Pending} {outer : List (Enclosure × List Pending)}
    {ts : List Token} {u : Unfinished} (h : Runs ⟨.operand, [], (.call c [] o, ps) :: outer⟩ ts u) (hs : Starts ts) :
    Runs ⟨.firstArgument c o, ps, outer⟩ ts u := by
  obtain ⟨t, us, rfl, ht⟩ := hs
  cases h with
  | cons hm hr => exact .cons (.firstArgument ht hm) hr

namespace Grammar

mutual

/-- From any place where the rule may stand, what it derives is read up to a complete operand. -/
theorem Derives.runs : ∀ {r : Rule} {ts : List Token} {e : Expr}, Derives r ts e →
    ∀ (ps : List Pending) (outer : List (Enclosure × List Pending)), Accepts ps r.rank →
      ∃ e' qs, applyAll qs e' = e ∧ (∀ p ∈ qs, r.rank ≤ p.rank) ∧
        Runs ⟨.operand, ps, outer⟩ ts ⟨.operator e', qs ++ ps, outer⟩
  | r, _, _, @Derives.tighter _ r' _ _ h hd, ps, outer, ha => by
    have hr := Rule.rank_of_tighter? h
    obtain ⟨e', qs, he, hq, hrun⟩ := hd.runs ps outer (ha.mono (by omega))
    exact ⟨e', qs, he, fun p hp => Nat.le_trans (by omega) (hq p hp), hrun⟩
  | r, _, _, @Derives.binary _ r' s op _ _ _ _ x o h h' hl hd, ps, outer, ha => by
    have hr := Rule.rank_of_tighter? h'
    obtain ⟨l, qs, rfl, hq, hrun⟩ := hl.runs ps outer ha
    -- the operator closes what its left operand left waiting, and nothing that waited before
    have hm : Moves ⟨.operator l, qs ++ ps, outer⟩ ⟨.symbol s, x, o⟩ _ := .join h
    rw [takeWhile_precedes_append h hq ha, dropWhile_precedes_append h hq ha] at hm
    have ha' : Accepts (.binary (applyAll qs l) op o :: ps) r'.rank := by
      intro p hp
      cases hp
      simp only [operandRank, h.level]
      omega
    obtain ⟨e', qs', rfl, hq', hrun'⟩ := hd.runs _ outer ha'
    refine ⟨e', qs' ++ [.binary (applyAll qs l) op o], by simp [applyAll_append, Pending.apply], ?_, ?_⟩
    · intro p hp
      rcases List.mem_append.mp hp with hp | hp
      · exact Nat.le_trans (by omega) (hq' p hp)
      · rw [List.mem_singleton.mp hp]
        exact Nat.le_of_eq h.level.symm
    · simpa using hrun.append (.cons hm hrun')
  | _, _, _, @Derives.unary _ op _ _ _ o h hd, ps, outer, _ => by
    obtain ⟨e', qs, rfl, hq, hrun⟩ := hd.runs (.unary op o :: ps) outer (accepts_of_prefixed_le (Nat.le_refl _))
    refine ⟨e', qs ++ [.unary op o], by simp [applyAll_append, Pending.apply], ?_, ?_⟩
    · intro p hp
      rcases List.mem_append.mp hp with hp | hp
      · exact hq p hp
      · rw [List.mem_singleton.mp hp]
        exact Nat.le_refl _
    · simpa using Runs.cons (.lead h) hrun
  | _, _, _, .emptyCall hd, ps, outer, ha => by
    obtain ⟨e', qs, rfl, hq, hrun⟩ := hd.runs ps outer ha
    obtain rfl := eq_nil_of_applied_le (Nat.le_refl _) hq
    exact ⟨_, [], rfl, by simp, hrun.append (.cons .openCall (.cons .emptyCall .nil))⟩
  | _, _, _, @Derives.call _ _ _ _ _ _ o _ hd has, ps, outer, ha => by
    obtain ⟨c, qs, rfl, hq, hrun⟩ := hd.runs ps outer ha
    obtain rfl := eq_nil_of_applied_le (Nat.le_refl _) hq
    obtain ⟨e', qs', es, rfl, hrun'⟩ := has.runs c o ps outer
    exact ⟨_, [], rfl, by simp, (hrun.append (.cons .openCall hrun')).append (Moves.runs .closeCall)⟩
  | _, _, _, .method hd, ps, outer, ha => by
    obtain ⟨e', qs, rfl, hq, hrun⟩ := hd.runs ps outer ha
    obtain rfl := eq_nil_of_applied_le (Nat.le_refl _) hq
    exact ⟨_, [], rfl, by simp, hrun.append (.cons .dot (.cons .methodName .nil))⟩
  | _, _, _, .bool, _, _, _ | _, _, _, .nil, _, _, _ | _, _, _, .number, _, _, _ | _, _, _, .identifier, _, _, _ =>
    ⟨_, [], rfl, by simp, (Moves.atom rfl).runs⟩
  | _, _, _, .grouping hd, ps, outer, _ => by
    obtain ⟨e', qs, rfl, -, hrun⟩ := hd.runs [] ((.grouping, ps) :: outer) (accepts_nil _)
    rw [List.append_nil] at hrun
    exact ⟨_, [], rfl, by simp, (Runs.cons .openGrouping hrun).append (Moves.runs .closeGrouping)⟩
  | _, _, _, @Derives.string _ _ _ _ _ o _ hs hsum, ps, outer, _ => by
    obtain rfl := sums_iff.mp hsum
    exact ⟨_, [], rfl, by simp, (Runs.cons .openString (hs.runs o ps outer)).append (Moves.runs .closeString)⟩

/-- What is derived as arguments is read up to the last of them. -/
theorem Arguments.runs : ∀ {ts : List Token} {es : List Expr}, Arguments ts es →
    ∀ (c : Expr) (o : Nat) (ps : List Pending) (outer : List (Enclosure × List Pending)),
      ∃ e' qs ds, ds ++ [applyAll qs e'] = es ∧
        Runs ⟨.firstArgument c o, ps, outer⟩ ts ⟨.operator e', qs, (.call c ds o, ps) :: outer⟩
  | _, _, .one hd, c, o, ps, outer => by
    obtain ⟨e', qs, rfl, -, hrun⟩ := hd.runs [] ((.call c [] o, ps) :: outer) (accepts_nil _)
    rw [List.append_nil] at hrun
    exact ⟨e', qs, [], rfl, hrun.firstArgument hd.starts⟩
  | _, _, .more has hd, c, o, ps, outer => by
    obtain ⟨e₁, qs₁, ds, rfl, hrun₁⟩ := has.runs c o ps outer
    obtain ⟨e₂, qs₂, rfl, -, hrun₂⟩ := hd.runs [] ((.call c (ds ++ [applyAll qs₁ e₁]) o, ps) :: outer) (accepts_nil _)
    rw [List.append_nil] at hrun₂
    exact ⟨e₂, qs₂, _, rfl, hrun₁.append (.cons .comma hrun₂)⟩

/-- What is derived as pieces of a string literal is read as these pieces. -/
theorem Segments.runs : ∀ {ts : List Token} {es : List Expr}, Segments ts es →
    ∀ (q : Nat) (ps : List Pending) (outer : List (Enclosure × List Pending)),
      Runs ⟨.segment [] q, ps, outer⟩ ts ⟨.segment es q, ps, outer⟩
  | _, _, .none, _, _, _ => .nil
  | _, _, .plaintext hs, q, ps, outer => (hs.runs q ps outer).append (Moves.runs .plaintext)
  | _, _, @Segments.interpolation _ _ es _ _ _ o _ hs hd, q, ps, outer => by
    have hrun := hs.runs q ps outer
    obtain ⟨e', qs, rfl, -, hrun'⟩ := hd.runs [] ((.interpolation es q o, ps) :: outer) (accepts_nil _)
    rw [List.append_nil] at hrun'
    exact (hrun.append (.cons .openInterpolation hrun')).append (Moves.runs .closeInterpolation)

end

/-- The derivations of whole expressions are the runs that can end. -/
theorem derives_iff_runs {ts : List Token} {e : Expr} :
    Derives .equality ts e ↔ ∃ u, Runs .start ts u ∧ u.finish = .ok e := by
  constructor
  · intro h
    obtain ⟨e', qs, rfl, -, hrun⟩ := h.runs [] [] (accepts_nil _)
    rw [List.append_nil] at hrun
    exact ⟨_, hrun, finish_eq_ok_iff.mpr ⟨e', qs, rfl, rfl⟩⟩
  · rintro ⟨u, hrun, he⟩
    exact hrun.derives he

end Grammar

namespace Expr

/-- Tokens form the expressions that their sentence derives. -/
theorem ofTokens_eq_some_iff_derives {ts : List Token} {e : Expr} :
    ofTokens ts = .ok (some e) ↔ Derives .equality (sentence ts) e := by
  rw [ofTokens_eq_some_iff, derives_iff_runs]

/-- **The parser accepts its grammar.** Tokens hold nothing if their sentence is empty, and hold exactly the expressions
that their sentence derives. -/
theorem ofTokens_eq_ok_iff_derives (ts : List Token) :
    (ofTokens ts = .ok none ↔ sentence ts = []) ∧
      ∀ e, ofTokens ts = .ok (some e) ↔ Derives .equality (sentence ts) e :=
  ⟨ofTokens_eq_none_iff, fun _ => ofTokens_eq_some_iff_derives⟩

end Expr

end Formula
