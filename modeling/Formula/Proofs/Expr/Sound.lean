import Formula.Proofs.Expr.Moves

/-!
# What is read is derived

An unfinished expression stands for the tokens that were read: those in front of its open brackets, those of the
operators that wait, and those of what is at hand. Every move keeps this, so where a run can end, its tokens derive
the expression.

- `Waits`: the tokens of some waiting operators, each of which accepts what is inside it as its operand.
- `Opens`: the tokens of some open brackets.
- `Unfinished.Covers`, `Unfinished.Moves.covers`: the invariant and its step.
- `Unfinished.Runs.derives`: the tokens of a run that can end derive its expression.
-/

namespace Formula

open Grammar

/-! ## Waiting operators -/

namespace Pending

/-- How tight the rule of the result is. -/
def rank : Pending → Nat
  | unary _ _ => Rule.prefixed.rank
  | binary _ op _ => op.level

/-- How tight the rule of the operand has to be. -/
def operandRank : Pending → Nat
  | unary _ _ => Rule.prefixed.rank
  | binary _ op _ => op.level + 1

/-- The innermost operator takes operands of this rank. -/
def Accepts (ps : List Pending) (n : Nat) : Prop := ∀ p ∈ ps.head?, p.operandRank ≤ n

theorem level_lt_prefixed (op : BinaryOperator) : op.level < Rule.prefixed.rank := by
  cases op <;> decide

theorem precedes_iff {p : Pending} {op : BinaryOperator} : p.precedes op = true ↔ op.level ≤ p.rank := by
  cases p with
  | unary => simpa [precedes, rank] using Nat.le_of_lt (level_lt_prefixed op)
  | binary => simp [precedes, rank]

theorem rank_lt_operandRank {p : Pending} {n : Nat} (hn : n < Rule.prefixed.rank) :
    p.operandRank ≤ n ↔ p.rank < n := by
  cases p <;> simp only [operandRank, rank] <;> omega

theorem accepts_nil (n : Nat) : Accepts [] n := by simp [Accepts]

theorem Accepts.mono {ps : List Pending} {m n : Nat} (h : Accepts ps m) (hn : m ≤ n) : Accepts ps n :=
  fun p hp => Nat.le_trans (h p hp) hn

theorem accepts_of_prefixed_le {ps : List Pending} {n : Nat} (h : Rule.prefixed.rank ≤ n) : Accepts ps n := by
  intro p _
  cases p with
  | unary => exact h
  | binary _ op _ => exact Nat.le_trans (level_lt_prefixed op) h

/-- The operators that stay behind a new one accept its left operand. -/
theorem accepts_dropWhile (ps : List Pending) (op : BinaryOperator) :
    Accepts (ps.dropWhile (·.precedes op)) op.level := by
  intro p hp
  have h := List.head?_dropWhile_not (·.precedes op) ps
  rw [Option.mem_def.mp hp] at h
  rw [rank_lt_operandRank (level_lt_prefixed op), ← Nat.not_le, ← precedes_iff]
  simpa using h

theorem level_le_of_mem_takeWhile {ps : List Pending} {op : BinaryOperator} {p : Pending}
    (h : p ∈ ps.takeWhile (·.precedes op)) : op.level ≤ p.rank :=
  precedes_iff.mp (List.all_eq_true.mp List.all_takeWhile p h)

@[simp] theorem applyAll_nil (e : Expr) : applyAll [] e = e := rfl

@[simp] theorem applyAll_cons (p : Pending) (ps : List Pending) (e : Expr) :
    applyAll (p :: ps) e = applyAll ps (p.apply e) := rfl

theorem applyAll_append (ps qs : List Pending) (e : Expr) : applyAll (ps ++ qs) e = applyAll qs (applyAll ps e) :=
  List.foldl_append

end Pending

open Pending

/-- The operators wait behind the tokens, innermost first. -/
inductive Waits : List Pending → List Token → Prop
  | none : Waits [] []
  | unary {s : Symbol} {op : UnaryOperator} {ps : List Pending} {ts : List Token} {x : String} {o : Nat}
      (h : Leads s op) : Waits ps ts → Waits (.unary op o :: ps) (ts ++ [⟨.symbol s, x, o⟩])
  | binary {r : Rule} {s : Symbol} {op : BinaryOperator} {ps : List Pending} {ts us : List Token} {l : Expr}
      {x : String} {o : Nat} (h : Joins r s op) : Waits ps ts → Accepts ps op.level → Derives r us l →
      Waits (.binary l op o :: ps) (ts ++ (us ++ [⟨.symbol s, x, o⟩]))

/-- The innermost operator takes its operand, and the next one accepts the result. -/
theorem Waits.apply {p : Pending} {ps : List Pending} {ts us : List Token} {r : Rule} {e : Expr}
    (h : Waits (p :: ps) ts) (he : Derives r us e) (ha : Accepts (p :: ps) r.rank) :
    ∃ ts₁ ts₂ r', ts = ts₁ ++ ts₂ ∧ Waits ps ts₁ ∧ Derives r' (ts₂ ++ us) (p.apply e) ∧ Accepts ps r'.rank ∧
      r'.rank = p.rank := by
  have hp : p.operandRank ≤ r.rank := ha p rfl
  cases h with
  | unary h hw => exact ⟨_, _, .prefixed, rfl, hw, .unary h (he.weaken hp), accepts_of_prefixed_le (Nat.le_refl _), rfl⟩
  | @binary r' _ op _ ts us' l x o h hw hl hd =>
    have hr : op.level = r'.rank := h.level
    obtain ⟨r₁, h₁⟩ : ∃ r₁, r'.tighter? = some r₁ := by cases h <;> exact ⟨_, rfl⟩
    have hr₁ := Rule.rank_of_tighter? h₁
    have hle : r₁.rank ≤ r.rank := by simp only [operandRank] at hp; omega
    refine ⟨ts, _, r', rfl, hw, ?_, hl.mono (Nat.le_of_eq hr), hr.symm⟩
    simpa [Pending.apply] using Derives.binary (x := x) (o := o) h h₁ hd (he.weaken hle)

/-- Some of the innermost operators take their operands, as long as the result may be by the given rule. -/
theorem Waits.applyAll {ps qs : List Pending} {ts us : List Token} {r r' : Rule} {e : Expr} (h : Waits (ps ++ qs) ts)
    (he : Derives r' us e) (ha : Accepts (ps ++ qs) r'.rank) (hr : r.rank ≤ r'.rank)
    (hps : ∀ p ∈ ps, r.rank ≤ p.rank) :
    ∃ ts₁ ts₂, ts = ts₁ ++ ts₂ ∧ Waits qs ts₁ ∧ Derives r (ts₂ ++ us) (Pending.applyAll ps e) := by
  induction ps generalizing ts us r' e with
  | nil => exact ⟨ts, [], by simp, h, he.weaken hr⟩
  | cons p ps ih =>
    obtain ⟨ts₁, ts₂, r₁, rfl, hw, hd, ha₁, hr₁⟩ := h.apply he ha
    have hr : r.rank ≤ r₁.rank := hr₁ ▸ hps p List.mem_cons_self
    obtain ⟨ts₃, ts₄, rfl, hw', hd'⟩ := ih hw hd ha₁ hr fun q hq => hps q (List.mem_cons_of_mem p hq)
    exact ⟨ts₃, ts₄ ++ ts₂, by simp, hw', by simpa using hd'⟩

/-- All waiting operators take their operands. -/
theorem Waits.derives {ps : List Pending} {ts us : List Token} {e : Expr} (h : Waits ps ts)
    (he : Derives .applied us e) : Derives .equality (ts ++ us) (Pending.applyAll ps e) := by
  rw [← List.append_nil ps] at h
  obtain ⟨ts₁, ts₂, rfl, hw, hd⟩ := h.applyAll (r := .equality) he (accepts_of_prefixed_le (by decide)) (by decide)
    fun _ _ => Nat.zero_le _
  cases hw
  exact hd

/-! ## Open brackets -/

/-- The brackets are open behind the tokens, innermost first, with the operators that wait outside each. -/
inductive Opens : List (Enclosure × List Pending) → List Token → Prop
  | none : Opens [] []
  | grouping {ps : List Pending} {outer : List (Enclosure × List Pending)} {ts us : List Token} {x : String} {o : Nat} :
      Opens outer ts → Waits ps us → Opens ((.grouping, ps) :: outer) (ts ++ us ++ [⟨.symbol .leftParen, x, o⟩])
  | firstArgument {c : Expr} {ps : List Pending} {outer : List (Enclosure × List Pending)} {ts us vs : List Token}
      {x : String} {o : Nat} : Opens outer ts → Waits ps us → Derives .applied vs c →
      Opens ((.call c [] o, ps) :: outer) (ts ++ us ++ vs ++ [⟨.symbol .leftParen, x, o⟩])
  | nextArgument {c : Expr} {es : List Expr} {ps : List Pending} {outer : List (Enclosure × List Pending)}
      {ts us vs ws : List Token} {x x' : String} {o o' : Nat} : Opens outer ts → Waits ps us → Derives .applied vs c →
      Arguments ws es → Opens ((.call c es o, ps) :: outer)
        (ts ++ us ++ vs ++ ⟨.symbol .leftParen, x, o⟩ :: ws ++ [⟨.symbol .comma, x', o'⟩])
  | interpolation {es : List Expr} {ps : List Pending} {outer : List (Enclosure × List Pending)} {ts us vs : List Token}
      {x x' : String} {q o : Nat} : Opens outer ts → Waits ps us → Segments vs es →
      Opens ((.interpolation es q o, ps) :: outer)
        (ts ++ us ++ ⟨.stringStart, x, q⟩ :: vs ++ [⟨.interpolationStart, x', o⟩])

/-- One more argument of an open call. -/
theorem Opens.argument {c e : Expr} {es : List Expr} {o : Nat} {ps : List Pending}
    {outer : List (Enclosure × List Pending)} {ts ws : List Token} (h : Opens ((.call c es o, ps) :: outer) ts)
    (he : Derives .equality ws e) : ∃ ts₁ us vs ws' x, ts ++ ws = ts₁ ++ us ++ vs ++ ⟨.symbol .leftParen, x, o⟩ :: ws' ∧
      Opens outer ts₁ ∧ Waits ps us ∧ Derives .applied vs c ∧ Arguments ws' (es ++ [e]) := by
  cases h with
  | @firstArgument _ _ _ ts us vs x _ ho hw hc => exact ⟨ts, us, vs, ws, x, by simp, ho, hw, hc, .one he⟩
  | @nextArgument _ _ _ _ ts us vs ws' x x' _ o' ho hw hc ha =>
    exact ⟨ts, us, vs, ws' ++ ⟨.symbol .comma, x', o'⟩ :: ws, x, by simp, ho, hw, hc, .more ha he⟩

/-! ## What is at hand -/

/-- What is expected next stands behind the tokens. -/
inductive Focus.Covers : Focus → List Token → Prop
  | operand : Covers .operand []
  | firstArgument {c : Expr} {ts : List Token} {x : String} {o : Nat} : Derives .applied ts c →
      Covers (.firstArgument c o) (ts ++ [⟨.symbol .leftParen, x, o⟩])
  | methodName {e : Expr} {ts : List Token} {x : String} {o : Nat} : Derives .applied ts e →
      Covers (.methodName e) (ts ++ [⟨.symbol .dot, x, o⟩])
  | operator {e : Expr} {ts : List Token} : Derives .applied ts e → Covers (.operator e) ts
  | segment {es : List Expr} {ts : List Token} {x : String} {q : Nat} : Segments ts es →
      Covers (.segment es q) (⟨.stringStart, x, q⟩ :: ts)

namespace Unfinished

/-- The unfinished expression stands for the tokens. -/
def Covers (u : Unfinished) (ts : List Token) : Prop :=
  ∃ ts₁ ts₂ ts₃, ts = ts₁ ++ ts₂ ++ ts₃ ∧ Opens u.outer ts₁ ∧ Waits u.pending ts₂ ∧ u.focus.Covers ts₃

theorem covers_start : Covers .start [] := ⟨[], [], [], rfl, .none, .none, .operand⟩

theorem derives_atom? {t : Token} {e : Expr} (h : atom? t = some e) : Derives .applied [t] e := by
  obtain ⟨k, x, o⟩ := t
  unfold atom? at h
  dsimp only at h
  split at h <;> cases h
  · exact .tighter rfl .bool
  · exact .tighter rfl .nil
  · exact .tighter rfl .number
  · exact .tighter rfl .identifier

/-- The tokens since the innermost bracket derive what was read behind it. -/
theorem Covers.operand {e : Expr} {ps : List Pending} {outer : List (Enclosure × List Pending)} {ts : List Token}
    (h : Covers ⟨.operator e, ps, outer⟩ ts) :
    ∃ ts₁ ts₂, ts = ts₁ ++ ts₂ ∧ Opens outer ts₁ ∧ Derives .equality ts₂ (Pending.applyAll ps e) := by
  obtain ⟨ts₁, ts₂, ts₃, rfl, ho, hw, hf⟩ := h
  cases hf with
  | operator he => exact ⟨ts₁, ts₂ ++ ts₃, by simp, ho, hw.derives he⟩

/-- Every move keeps that the unfinished expression stands for the tokens that were read. -/
theorem Moves.covers {u v : Unfinished} {t : Token} {ts : List Token} (h : Moves u t v) (hu : u.Covers ts) :
    v.Covers (ts ++ [t]) := by
  induction h generalizing ts with
  | @atom t e ps outer h =>
    obtain ⟨ts₁, ts₂, ts₃, rfl, ho, hw, hf⟩ := hu
    cases hf
    exact ⟨ts₁, ts₂, [t], by simp, ho, hw, .operator (derives_atom? h)⟩
  | @lead s op x o ps outer h =>
    obtain ⟨ts₁, ts₂, ts₃, rfl, ho, hw, hf⟩ := hu
    cases hf
    exact ⟨ts₁, ts₂ ++ [⟨.symbol s, x, o⟩], [], by simp, ho, .unary h hw, .operand⟩
  | @openGrouping x o ps outer =>
    obtain ⟨ts₁, ts₂, ts₃, rfl, ho, hw, hf⟩ := hu
    cases hf
    exact ⟨ts₁ ++ ts₂ ++ [⟨.symbol .leftParen, x, o⟩], [], [], by simp, .grouping ho hw, .none, .operand⟩
  | @openString x o ps outer =>
    obtain ⟨ts₁, ts₂, ts₃, rfl, ho, hw, hf⟩ := hu
    cases hf
    exact ⟨ts₁, ts₂, [⟨.stringStart, x, o⟩], by simp, ho, hw, .segment .none⟩
  | @emptyCall c x o o' ps outer =>
    obtain ⟨ts₁, ts₂, ts₃, rfl, ho, hw, hf⟩ := hu
    cases hf with
    | @firstArgument _ us x' _ hc =>
      exact ⟨ts₁, ts₂, us ++ [⟨.symbol .leftParen, x', o⟩, ⟨.symbol .rightParen, x, o'⟩], by simp, ho, hw,
        .operator (.emptyCall hc)⟩
  | @firstArgument c t o ps outer u _ _ ih =>
    obtain ⟨ts₁, ts₂, ts₃, rfl, ho, hw, hf⟩ := hu
    cases hf with
    | @firstArgument _ us x _ hc =>
      exact ih ⟨ts₁ ++ ts₂ ++ us ++ [⟨.symbol .leftParen, x, o⟩], [], [], by simp, .firstArgument ho hw hc, .none,
        .operand⟩
  | @methodName e name x o ps outer =>
    obtain ⟨ts₁, ts₂, ts₃, rfl, ho, hw, hf⟩ := hu
    cases hf with
    | @methodName _ us x' o' he =>
      exact ⟨ts₁, ts₂, us ++ [⟨.symbol .dot, x', o'⟩, ⟨.identifier name, x, o⟩], by simp, ho, hw,
        .operator (.method he)⟩
  | @join r s op e x o ps outer h =>
    obtain ⟨ts₁, ts₂, ts₃, rfl, ho, hw, hf⟩ := hu
    cases hf with
    | operator he =>
      -- the operators that bind at least as tightly take their operands, and the result is the left operand
      rw [← List.takeWhile_append_dropWhile (p := (·.precedes op)) (l := ps)] at hw
      obtain ⟨us₁, us₂, rfl, hw', hd⟩ := hw.applyAll (r := r) he (accepts_of_prefixed_le (by decide))
        (by cases h <;> decide) fun p hp => h.level ▸ level_le_of_mem_takeWhile hp
      exact ⟨ts₁, us₁ ++ (us₂ ++ ts₃ ++ [⟨.symbol s, x, o⟩]), [], by simp, ho,
        .binary h hw' (accepts_dropWhile ps op) hd, .operand⟩
  | @openCall e x o ps outer =>
    obtain ⟨ts₁, ts₂, ts₃, rfl, ho, hw, hf⟩ := hu
    cases hf with
    | operator he =>
      exact ⟨ts₁, ts₂, ts₃ ++ [⟨.symbol .leftParen, x, o⟩], by simp, ho, hw, .firstArgument he⟩
  | @dot e x o ps outer =>
    obtain ⟨ts₁, ts₂, ts₃, rfl, ho, hw, hf⟩ := hu
    cases hf with
    | operator he => exact ⟨ts₁, ts₂, ts₃ ++ [⟨.symbol .dot, x, o⟩], by simp, ho, hw, .methodName he⟩
  | @closeGrouping e x o ps qs outer =>
    obtain ⟨ts₁, ts₂, rfl, ho, he⟩ := hu.operand
    cases ho with
    | @grouping _ _ ts₃ us x' o' ho hw =>
      exact ⟨ts₃, us, ⟨.symbol .leftParen, x', o'⟩ :: ts₂ ++ [⟨.symbol .rightParen, x, o⟩], by simp, ho, hw,
        .operator (.tighter rfl (.grouping he))⟩
  | @comma e c es x o o' ps qs outer =>
    obtain ⟨ts₁, ts₂, rfl, ho, he⟩ := hu.operand
    obtain ⟨ts₃, us, vs, ws, x', hts, ho, hw, hc, ha⟩ := ho.argument he
    rw [hts]
    exact ⟨ts₃ ++ us ++ vs ++ ⟨.symbol .leftParen, x', o⟩ :: ws ++ [⟨.symbol .comma, x, o'⟩], [], [], by simp,
      .nextArgument ho hw hc ha, .none, .operand⟩
  | @closeCall e c es x o o' ps qs outer =>
    obtain ⟨ts₁, ts₂, rfl, ho, he⟩ := hu.operand
    obtain ⟨ts₃, us, vs, ws, x', hts, ho, hw, hc, ha⟩ := ho.argument he
    rw [hts]
    exact ⟨ts₃, us, vs ++ ⟨.symbol .leftParen, x', o⟩ :: ws ++ [⟨.symbol .rightParen, x, o'⟩], by simp, ho, hw,
      .operator (.call hc ha)⟩
  | @closeInterpolation e es x q o o' ps qs outer =>
    obtain ⟨ts₁, ts₂, rfl, ho, he⟩ := hu.operand
    cases ho with
    | @interpolation _ _ _ ts₃ us vs x' x'' _ _ ho hw hs =>
      exact ⟨ts₃, us, ⟨.stringStart, x', q⟩ :: (vs ++ ⟨.interpolationStart, x'', o⟩ :: ts₂ ++
        [⟨.interpolationEnd, x, o'⟩]), by simp, ho, hw, .segment (.interpolation hs he)⟩
  | @plaintext es s x q o ps outer =>
    obtain ⟨ts₁, ts₂, ts₃, rfl, ho, hw, hf⟩ := hu
    cases hf with
    | @segment _ us x' _ hs =>
      exact ⟨ts₁, ts₂, ⟨.stringStart, x', q⟩ :: (us ++ [⟨.plaintext s, x, o⟩]), by simp, ho, hw,
        .segment (.plaintext hs)⟩
  | @openInterpolation es x q o ps outer =>
    obtain ⟨ts₁, ts₂, ts₃, rfl, ho, hw, hf⟩ := hu
    cases hf with
    | @segment _ us x' _ hs =>
      exact ⟨ts₁ ++ ts₂ ++ ⟨.stringStart, x', q⟩ :: us ++ [⟨.interpolationStart, x, o⟩], [], [], by simp,
        .interpolation ho hw hs, .none, .operand⟩
  | @closeString es x q o ps outer =>
    obtain ⟨ts₁, ts₂, ts₃, rfl, ho, hw, hf⟩ := hu
    cases hf with
    | @segment _ us x' _ hs =>
      exact ⟨ts₁, ts₂, ⟨.stringStart, x', q⟩ :: us ++ [⟨.stringEnd, x, o⟩], by simp, ho, hw,
        .operator (.tighter rfl (.literal hs))⟩

theorem Runs.covers {u v : Unfinished} {ts us : List Token} (h : Runs u us v) (hu : u.Covers ts) :
    v.Covers (ts ++ us) := by
  induction h generalizing ts with
  | nil => simpa using hu
  | cons hm _ ih => simpa using ih (hm.covers hu)

/-- The tokens of a run that can end derive its expression. -/
theorem Runs.derives {u : Unfinished} {ts : List Token} {e : Expr} (h : Runs .start ts u) (he : u.finish = .ok e) :
    Derives .equality ts e := by
  obtain ⟨e', ps, rfl, rfl⟩ := finish_eq_ok_iff.mp he
  obtain ⟨ts₁, ts₂, hts, ho, hd⟩ := (h.covers covers_start).operand
  cases ho
  rw [List.nil_append] at hts
  rw [hts]
  exact hd

end Unfinished

end Formula
