import Mathlib.Data.List.Induction
import Formula.Proofs.Expr.Grammar

/-!
# The parts of an expression

The occurrences of expressions in an expression, each behind its own parts and those from left to right, the whole
last. The names among them come from the tokens: a name that is looked up stands behind no dot, and a method's name
stands behind one.

- `Expr.parts`: the parts of an expression, itself among them.
- `Token.Mentions`: a name stands in the tokens, and no dot in front of it.
- `Grammar.Derives.writtenIn`: every name of an expression is written in its tokens.
-/

namespace Formula

namespace Expr

mutual

/-- The parts of an expression, each behind its own, and the whole. -/
def parts : Expr → List Expr
  | number x => [number x]
  | string s => [string s]
  | bool b => [bool b]
  | nil => [nil]
  | identifier name o => [identifier name o]
  | unary op operand o => operand.parts ++ [unary op operand o]
  | binary left op right o => left.parts ++ right.parts ++ [binary left op right o]
  | grouping inner => inner.parts ++ [grouping inner]
  | call callee arguments o => callee.parts ++ partsAll arguments ++ [call callee arguments o]
  | method receiver name o => receiver.parts ++ [method receiver name o]
  | interpolation inner o => inner.parts ++ [interpolation inner o]

/-- The parts of some expressions. -/
def partsAll : List Expr → List Expr
  | [] => []
  | e :: es => e.parts ++ partsAll es

end

@[simp] theorem mem_partsAll {d : Expr} {es : List Expr} : d ∈ partsAll es ↔ ∃ e ∈ es, d ∈ e.parts := by
  induction es with
  | nil => simp [partsAll]
  | cons e es ih => simp [partsAll, ih]

theorem partsAll_append (es es' : List Expr) : partsAll (es ++ es') = partsAll es ++ partsAll es' := by
  induction es with
  | nil => rfl
  | cons e es ih => rw [List.cons_append, partsAll, partsAll, ih, List.append_assoc]

/-- An expression is a part of itself. -/
theorem mem_parts_self (e : Expr) : e ∈ e.parts := by
  cases e <;> simp [parts]

/-- The parts of a string literal are those of its pieces, and what joins them. -/
theorem mem_parts_ofSegments {d : Expr} {es : List Expr} {q : Nat} (h : d ∈ (ofSegments es q).parts) :
    (∃ e ∈ es, d ∈ e.parts) ∨ d = string "" ∨ ∃ l r, d = binary l .add r q := by
  induction es using List.reverseRecOn with
  | nil => exact .inr (.inl (List.mem_singleton.mp h))
  | append_singleton es e ih =>
    by_cases hne : es = []
    · subst hne
      exact .inl ⟨e, List.mem_cons_self, h⟩
    rw [ofSegments_append_singleton hne, parts] at h
    rcases List.mem_append.mp h with h | h
    · rcases List.mem_append.mp h with h | h
      · rcases ih h with ⟨e', he', hd⟩ | hd
        · exact .inl ⟨e', List.mem_append_left _ he', hd⟩
        · exact .inr hd
      · exact .inl ⟨e, by simp, h⟩
    · exact .inr (.inr ⟨_, _, List.mem_singleton.mp h⟩)

end Expr

/-! ## Names in tokens -/

namespace Token

/-- The name stands in the tokens, and no dot in front of it. -/
def Mentions (ts : List Token) (name : String) : Prop :=
  ∃ pre t post, ts = pre ++ t :: post ∧ t.kind = .identifier name ∧ ∀ d ∈ pre.getLast?, d.kind ≠ .symbol .dot

namespace Mentions

variable {ts : List Token} {name : String}

theorem append_right (h : Mentions ts name) (us : List Token) : Mentions (ts ++ us) name := by
  obtain ⟨pre, t, post, rfl, ht, hd⟩ := h
  exact ⟨pre, t, post ++ us, by simp, ht, hd⟩

/-- What stands behind something else than a dot may stand there. -/
theorem append_cons (h : Mentions ts name) {d : Token} (hd : d.kind ≠ .symbol .dot) (us : List Token) :
    Mentions (us ++ d :: ts) name := by
  obtain ⟨pre, t, post, rfl, ht, hpre⟩ := h
  refine ⟨us ++ d :: pre, t, post, by simp, ht, ?_⟩
  cases pre with
  | nil => simpa using hd
  | cons e pre => simpa using hpre

end Mentions

end Token

open Token

/-- If the expression is a name, it is written in the tokens: a name that is looked up as one behind no dot. -/
def Expr.WrittenIn (ts : List Token) : Expr → Prop
  | .identifier name _ => Mentions ts name
  | .method _ name _ => ∃ t ∈ ts, t.kind = .identifier name
  | _ => True

namespace Expr.WrittenIn

variable {ts : List Token} {e : Expr}

theorem append_right (h : e.WrittenIn ts) (us : List Token) : e.WrittenIn (ts ++ us) := by
  cases e with
  | identifier => exact Mentions.append_right h us
  | method =>
    obtain ⟨t, ht, hname⟩ := h
    exact ⟨t, List.mem_append_left us ht, hname⟩
  | _ => trivial

theorem append_cons (h : e.WrittenIn ts) {d : Token} (hd : d.kind ≠ .symbol .dot) (us : List Token) :
    e.WrittenIn (us ++ d :: ts) := by
  cases e with
  | identifier => exact Mentions.append_cons h hd us
  | method =>
    obtain ⟨t, ht, hname⟩ := h
    exact ⟨t, by simp [ht], hname⟩
  | _ => trivial

theorem cons (h : e.WrittenIn ts) {d : Token} (hd : d.kind ≠ .symbol .dot) : e.WrittenIn (d :: ts) :=
  h.append_cons hd []

end Expr.WrittenIn

namespace Grammar

/-- No operator is a dot. -/
theorem Joins.ne_dot {r : Rule} {s : Symbol} {op : BinaryOperator} (h : Joins r s op) :
    Kind.symbol s ≠ .symbol .dot := by
  cases h <;> simp

theorem Leads.ne_dot {s : Symbol} {op : UnaryOperator} (h : Leads s op) : Kind.symbol s ≠ .symbol .dot := by
  cases h <;> simp

mutual

/-- The names of an expression are written in its tokens. -/
theorem Derives.writtenIn : ∀ {r : Rule} {ts : List Token} {e : Expr}, Derives r ts e →
    ∀ {d : Expr}, d ∈ e.parts → d.WrittenIn ts
  | _, _, _, .tighter _ hd, _, h => hd.writtenIn h
  | _, _, _, .binary hs _ hl hr, _, h => by
    simp only [Expr.parts, List.mem_append, List.mem_singleton] at h
    rcases h with (h | h) | rfl
    · exact (hl.writtenIn h).append_right _
    · exact (hr.writtenIn h).append_cons hs.ne_dot _
    · trivial
  | _, _, _, .unary hs hd, _, h => by
    simp only [Expr.parts, List.mem_append, List.mem_singleton] at h
    rcases h with h | rfl
    · exact (hd.writtenIn h).cons hs.ne_dot
    · trivial
  | _, _, _, .emptyCall hd, _, h => by
    simp only [Expr.parts, Expr.partsAll, List.append_nil, List.mem_append, List.mem_singleton] at h
    rcases h with h | rfl
    · exact (hd.writtenIn h).append_right _
    · trivial
  | _, _, _, .call hd has, _, h => by
    rw [List.append_assoc, List.cons_append]
    rw [Expr.parts, List.mem_append, List.mem_append, List.mem_singleton] at h
    rcases h with (h | h) | rfl
    · exact (hd.writtenIn h).append_right _
    · exact ((has.writtenIn h).append_right _).append_cons (by simp) _
    · trivial
  | _, _, _, @Derives.method _ _ name _ x' _ o' hd, _, h => by
    simp only [Expr.parts, List.mem_append, List.mem_singleton] at h
    rcases h with h | rfl
    · exact (hd.writtenIn h).append_right _
    · exact ⟨⟨.identifier name, x', o'⟩, by simp, rfl⟩
  | _, _, _, .identifier, _, h => by
    obtain rfl := List.mem_singleton.mp h
    exact ⟨[], _, [], rfl, rfl, nofun⟩
  | _, _, _, .bool, _, h | _, _, _, .nil, _, h | _, _, _, .number, _, h => by
    obtain rfl := List.mem_singleton.mp h
    trivial
  | _, _, _, .grouping hd, _, h => by
    simp only [Expr.parts, List.mem_append, List.mem_singleton] at h
    rcases h with h | rfl
    · exact ((hd.writtenIn h).append_right _).cons (by simp)
    · trivial
  | _, _, _, .string hs hsum, _, h => by
    obtain rfl := sums_iff.mp hsum
    rcases Expr.mem_parts_ofSegments h with ⟨e, he, h⟩ | rfl | ⟨l, r, rfl⟩
    · exact ((hs.writtenIn he h).append_right _).cons (by simp)
    · trivial
    · trivial

theorem Arguments.writtenIn : ∀ {ts : List Token} {es : List Expr}, Arguments ts es →
    ∀ {d : Expr}, d ∈ Expr.partsAll es → d.WrittenIn ts
  | _, _, .one hd, _, h => by
    rw [Expr.partsAll, Expr.partsAll, List.append_nil] at h
    exact hd.writtenIn h
  | _, _, .more has hd, _, h => by
    rw [Expr.partsAll_append, Expr.partsAll, Expr.partsAll, List.append_nil] at h
    rcases List.mem_append.mp h with h | h
    · exact (has.writtenIn h).append_right _
    · exact (hd.writtenIn h).append_cons (by simp) _

theorem Segments.writtenIn : ∀ {ts : List Token} {es : List Expr}, Segments ts es →
    ∀ {e : Expr}, e ∈ es → ∀ {d : Expr}, d ∈ e.parts → d.WrittenIn ts
  | _, _, .none, _, he, _, _ => by cases he
  | _, _, .plaintext hs, _, he, _, h => by
    rcases List.mem_append.mp he with he | he
    · exact (hs.writtenIn he h).append_right _
    · rw [List.mem_singleton.mp he] at h
      obtain rfl := List.mem_singleton.mp h
      trivial
  | _, _, .interpolation hs hd, _, he, _, h => by
    rw [List.append_assoc, List.cons_append]
    rcases List.mem_append.mp he with he | he
    · exact (hs.writtenIn he h).append_right _
    · rw [List.mem_singleton.mp he, Expr.parts, List.mem_append, List.mem_singleton] at h
      rcases h with h | rfl
      · exact ((hd.writtenIn h).append_right _).append_cons (by simp) _
      · trivial

end

end Grammar

end Formula
