import Formula.Expr.Parse

/-!
# The grammar of expressions

The grammar as it is written down for a reader, without a word on how tokens are read. From loose to tight:

- `equality := order | equality ("==" | "!=") order`
- `order := sum | order (">" | ">=" | "<" | "<=") sum`
- `sum := product | sum ("+" | "-") product`
- `product := prefixed | product ("*" | "/") prefixed`
- `prefixed := applied | ("-" | "!") prefixed`
- `applied := atom | applied "(" arguments? ")" | applied "." NAME`
- `atom := "true" | "false" | "nil" | NUMBER | NAME | "(" equality ")" | START segments END`
- `arguments := equality | arguments "," equality`
- `segments := (PLAINTEXT | INTERPOLATION_START equality INTERPOLATION_END)*`

`Derives`, `Arguments` and `Segments` say which tokens these are and which trees they stand for; the pieces of a string
literal stand for their sum, as `Sums` says.

- `sums_iff`: this sum is `Expr.ofSegments`.
- `Derives.weaken`: what a rule derives, every looser rule derives.
- `Derives.starts`: a derivation has a first token, and it is no `)`.
-/

namespace Formula.Grammar

/-- The rules for one expression, from loose to tight. -/
inductive Rule where
  | equality | order | sum | product | prefixed | applied | atom
  deriving DecidableEq

namespace Rule

/-- The next tighter rule. -/
def tighter? : Rule → Option Rule
  | equality => order
  | order => sum
  | sum => product
  | product => prefixed
  | prefixed => applied
  | applied => atom
  | atom => none

/-- How tight the rule is. -/
def rank : Rule → Nat
  | equality => 0 | order => 1 | sum => 2 | product => 3 | prefixed => 4 | applied => 5 | atom => 6

theorem rank_of_tighter? {r r' : Rule} (h : r.tighter? = some r') : r'.rank = r.rank + 1 := by
  cases r <;> cases h <;> rfl

theorem eq_of_rank_eq {r r' : Rule} (h : r.rank = r'.rank) : r = r' := by
  cases r <;> cases r' <;> first | rfl | (simp [rank] at h)

theorem exists_tighter?_of_rank_lt {r r' : Rule} (h : r.rank < r'.rank) : ∃ r₁, r.tighter? = some r₁ := by
  cases r with
  | atom => cases r' <;> simp [rank] at h
  | _ => exact ⟨_, rfl⟩

end Rule

/-- The operators that a rule joins its operands by, and how they are written. -/
inductive Joins : Rule → Symbol → BinaryOperator → Prop
  | equal : Joins .equality .equalEqual .equal
  | notEqual : Joins .equality .bangEqual .notEqual
  | greater : Joins .order .greater .greater
  | greaterEqual : Joins .order .greaterEqual .greaterEqual
  | less : Joins .order .less .less
  | lessEqual : Joins .order .lessEqual .lessEqual
  | add : Joins .sum .plus .add
  | sub : Joins .sum .minus .sub
  | mul : Joins .product .star .mul
  | div : Joins .product .slash .div

/-- The operators in front of an operand, and how they are written. -/
inductive Leads : Symbol → UnaryOperator → Prop
  | negate : Leads .minus .negate
  | not : Leads .bang .not

/-- The tree is the sum of the pieces of a string literal, from left to right and at its opening quote. No piece is the
empty text, and a single piece stands alone. -/
inductive Sums (quote : Nat) : List Expr → Expr → Prop
  | none : Sums quote [] (.string "")
  | one {e : Expr} : Sums quote [e] e
  | more {d e l : Expr} {es : List Expr} : Sums quote (d :: es) l → Sums quote (d :: es ++ [e]) (.binary l .add e quote)

mutual

/-- By the rule, the tokens are the expression. Operators between operands lean to the left, those in front of an
operand to the right, calls and methods to the left. -/
inductive Derives : Rule → List Token → Expr → Prop
  | tighter {r r' : Rule} {ts : List Token} {e : Expr} (h : r.tighter? = some r') : Derives r' ts e → Derives r ts e
  | binary {r r' : Rule} {s : Symbol} {op : BinaryOperator} {ts ts' : List Token} {l e : Expr} {x : String} {o : Nat}
      (h : Joins r s op) (h' : r.tighter? = some r') : Derives r ts l → Derives r' ts' e →
      Derives r (ts ++ ⟨.symbol s, x, o⟩ :: ts') (.binary l op e o)
  | unary {s : Symbol} {op : UnaryOperator} {ts : List Token} {e : Expr} {x : String} {o : Nat} (h : Leads s op) :
      Derives .prefixed ts e → Derives .prefixed (⟨.symbol s, x, o⟩ :: ts) (.unary op e o)
  | emptyCall {ts : List Token} {e : Expr} {x x' : String} {o o' : Nat} : Derives .applied ts e →
      Derives .applied (ts ++ [⟨.symbol .leftParen, x, o⟩, ⟨.symbol .rightParen, x', o'⟩]) (.call e [] o)
  | call {ts ts' : List Token} {e : Expr} {es : List Expr} {x x' : String} {o o' : Nat} : Derives .applied ts e →
      Arguments ts' es →
      Derives .applied (ts ++ ⟨.symbol .leftParen, x, o⟩ :: ts' ++ [⟨.symbol .rightParen, x', o'⟩]) (.call e es o)
  | method {ts : List Token} {e : Expr} {name x x' : String} {o o' : Nat} : Derives .applied ts e →
      Derives .applied (ts ++ [⟨.symbol .dot, x, o⟩, ⟨.identifier name, x', o'⟩]) (.method e name o')
  | bool {b : Bool} {x : String} {o : Nat} : Derives .atom [⟨.bool b, x, o⟩] (.bool b)
  | nil {x : String} {o : Nat} : Derives .atom [⟨.nil, x, o⟩] .nil
  | number {v : Float} {x : String} {o : Nat} : Derives .atom [⟨.number v, x, o⟩] (.number v)
  | identifier {name x : String} {o : Nat} : Derives .atom [⟨.identifier name, x, o⟩] (.identifier name o)
  | grouping {ts : List Token} {e : Expr} {x x' : String} {o o' : Nat} : Derives .equality ts e →
      Derives .atom (⟨.symbol .leftParen, x, o⟩ :: ts ++ [⟨.symbol .rightParen, x', o'⟩]) (.grouping e)
  | string {ts : List Token} {es : List Expr} {e : Expr} {x x' : String} {o o' : Nat} : Segments ts es →
      Sums o es e → Derives .atom (⟨.stringStart, x, o⟩ :: ts ++ [⟨.stringEnd, x', o'⟩]) e

/-- The tokens are these expressions with commas between them; there is at least one. -/
inductive Arguments : List Token → List Expr → Prop
  | one {ts : List Token} {e : Expr} : Derives .equality ts e → Arguments ts [e]
  | more {ts ts' : List Token} {es : List Expr} {e : Expr} {x : String} {o : Nat} : Arguments ts es →
      Derives .equality ts' e → Arguments (ts ++ ⟨.symbol .comma, x, o⟩ :: ts') (es ++ [e])

/-- The tokens are these pieces of a string literal. -/
inductive Segments : List Token → List Expr → Prop
  | none : Segments [] []
  | plaintext {ts : List Token} {es : List Expr} {s x : String} {o : Nat} : Segments ts es →
      Segments (ts ++ [⟨.plaintext s, x, o⟩]) (es ++ [.string s])
  | interpolation {ts ts' : List Token} {es : List Expr} {e : Expr} {x x' : String} {o o' : Nat} : Segments ts es →
      Derives .equality ts' e →
      Segments (ts ++ ⟨.interpolationStart, x, o⟩ :: ts' ++ [⟨.interpolationEnd, x', o'⟩]) (es ++ [.interpolation e o])

end

/-- The tokens that the grammar is about: the significant ones in front of the first end of the input. -/
def sentence (ts : List Token) : List Token := (ts.filter (·.kind.isSignificant)).takeWhile (·.kind ≠ .eof)

theorem kind_ne_eof_of_mem_sentence {ts : List Token} {t : Token} (h : t ∈ sentence ts) : t.kind ≠ .eof := by
  simpa using List.all_eq_true.mp List.all_takeWhile t h

/-! ## String literals -/

section Sums

variable {quote : Nat} {d e : Expr} {es : List Expr}

/-- More pieces are added one after the other. -/
theorem Sums.foldl (fs : List Expr) (h : Sums quote (d :: es) e) :
    Sums quote (d :: es ++ fs) (fs.foldl (fun left right => .binary left .add right quote) e) := by
  induction fs generalizing es e with
  | nil => rwa [List.append_nil]
  | cons f fs ih =>
    have hmore : Sums quote (d :: (es ++ [f])) (.binary e .add f quote) := h.more
    have hrest := ih hmore
    rwa [List.cons_append, List.append_assoc, List.singleton_append] at hrest

/-- The sum of the pieces of a string literal is what they are joined to. -/
theorem sums_iff : Sums quote es e ↔ e = .ofSegments es quote := by
  constructor
  · intro h
    induction h with
    | none => rfl
    | one => rfl
    | more _ ih => rw [Expr.ofSegments_append_singleton (List.cons_ne_nil _ _), ih]
  · rintro rfl
    cases es with
    | nil => exact .none
    | cons e es => exact Sums.foldl es .one

end Sums

theorem Derives.literal {ts : List Token} {es : List Expr} {x x' : String} {o o' : Nat} (h : Segments ts es) :
    Derives .atom (⟨.stringStart, x, o⟩ :: ts ++ [⟨.stringEnd, x', o'⟩]) (.ofSegments es o) :=
  .string h (sums_iff.mpr rfl)

/-! ## Looser rules -/

/-- What a rule derives, every looser rule derives. -/
theorem Derives.weaken {r r' : Rule} {ts : List Token} {e : Expr} (h : Derives r' ts e) (hr : r.rank ≤ r'.rank) :
    Derives r ts e := by
  induction hd : r'.rank - r.rank generalizing r with
  | zero =>
    obtain rfl := Rule.eq_of_rank_eq (show r.rank = r'.rank by omega)
    exact h
  | succ n ih =>
    obtain ⟨r₁, h₁⟩ := Rule.exists_tighter?_of_rank_lt (show r.rank < r'.rank by omega)
    have := Rule.rank_of_tighter? h₁
    exact .tighter h₁ (ih (by omega) (by omega))

/-! ## The first token -/

/-- The tokens start with one that is no `)`. -/
def Starts (ts : List Token) : Prop := ∃ t ts', ts = t :: ts' ∧ t.kind ≠ .symbol .rightParen

theorem Starts.append {ts : List Token} (h : Starts ts) (ts' : List Token) : Starts (ts ++ ts') := by
  obtain ⟨t, us, rfl, ht⟩ := h
  exact ⟨t, us ++ ts', rfl, ht⟩

/-- A derivation has a first token, and it is no `)`. -/
theorem Derives.starts : ∀ {r : Rule} {ts : List Token} {e : Expr}, Derives r ts e → Starts ts
  | _, _, _, .tighter _ h => h.starts
  | _, _, _, .binary _ _ h _ => h.starts.append _
  | _, _, _, .unary h _ => ⟨_, _, rfl, by cases h <;> simp⟩
  | _, _, _, .emptyCall h | _, _, _, .method h => h.starts.append _
  | _, _, _, .call h _ => by
    rw [List.append_assoc]
    exact h.starts.append _
  | _, _, _, .bool | _, _, _, .nil | _, _, _, .number | _, _, _, .identifier | _, _, _, .grouping _
  | _, _, _, .string _ _ => ⟨_, _, rfl, by simp⟩

end Formula.Grammar
