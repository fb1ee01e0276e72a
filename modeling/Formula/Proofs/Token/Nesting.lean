import Formula.Expr.Parse
import Formula.Proofs.Token.Brackets

/-!
# Open literals and interpolations

A stack of the string literals and interpolations that are open behind some tokens, innermost first. Inside a literal
only its pieces and its closing quote may stand, and they may stand nowhere else.

- `Token.nest`, `Token.nestAll`: what one more token, and what more tokens, do to the stack.
- `Token.nestAll_scan`: behind all lexemes of a source nothing is open.
-/

namespace Formula

/-- A string literal or an interpolation that was opened. -/
inductive Bracket where
  /-- A literal; the offset is that of its opening quote. -/
  | literal (quote : Nat)
  | interpolation
  deriving DecidableEq

namespace Token

/-- What is open behind one more token, innermost first, if the token may stand there. Outside of literals the innermost
bracket can only be an interpolation, which is what an interpolation's end closes. -/
def nest : List Bracket → Token → Option (List Bracket)
  | .literal q :: bs, t =>
    match t.kind with
    | .plaintext _ => some (.literal q :: bs)
    | .interpolationStart => some (.interpolation :: .literal q :: bs)
    | .stringEnd => some bs
    | _ => none
  | bs, t =>
    match t.kind with
    | .stringStart => some (.literal t.offset :: bs)
    | .interpolationEnd => bs.tail?
    | .plaintext _ | .interpolationStart | .stringEnd | .eof => none
    | _ => some bs

/-- What is open behind some more tokens. -/
def nestAll (bs : List Bracket) (ts : List Token) : Option (List Bracket) := ts.foldlM nest bs

section Nest

variable {bs bs' : List Bracket} {t : Token} {ts us : List Token} {q : Nat} {x : String} {o : Nat}

theorem nestAll_cons : nestAll bs (t :: ts) = (nest bs t).bind fun bs' => nestAll bs' ts := rfl

theorem nestAll_append : nestAll bs (ts ++ us) = (nestAll bs ts).bind fun bs' => nestAll bs' us := List.foldlM_append

/-- No literal is innermost. -/
def OutsideLiteral (bs : List Bracket) : Prop := ∀ q bs', bs ≠ .literal q :: bs'

theorem outsideLiteral_nil : OutsideLiteral [] := nofun

theorem outsideLiteral_interpolation : OutsideLiteral (.interpolation :: bs) := nofun

theorem nest_of_standsAlone (h : OutsideLiteral bs) (ht : t.kind.standsAlone = true) : nest bs t = some bs := by
  rw [nest]
  · split <;> simp_all [Kind.standsAlone]
  · exact h

theorem nest_stringStart (h : OutsideLiteral bs) : nest bs ⟨.stringStart, x, o⟩ = some (.literal o :: bs) := by
  rw [nest]
  exact h

/-- Outside of literals, the pieces and the end of a literal have no place. -/
theorem not_piece_of_nest (h : OutsideLiteral bs) (hn : nest bs t = some bs') :
    (∀ s, t.kind ≠ .plaintext s) ∧ t.kind ≠ .interpolationStart ∧ t.kind ≠ .stringEnd := by
  rw [nest] at hn
  · split at hn <;> simp_all
  · exact h

/-- What the grammar does not see leaves everything as it is. -/
theorem nest_of_not_isSignificant (ht : t.kind.isSignificant = false) (hn : nest bs t = some bs') : bs' = bs := by
  unfold nest at hn
  split at hn
  · split at hn <;> simp_all [Kind.isSignificant]
  · split at hn <;> simp_all [Kind.isSignificant]

/-- What the grammar sees nests alike. -/
theorem nestAll_significant (hn : nestAll bs ts = some bs') : nestAll bs (Expr.significant ts) = some bs' := by
  induction ts generalizing bs with
  | nil => exact hn
  | cons t ts ih =>
    rw [nestAll_cons] at hn
    obtain ⟨cs, ht, hts⟩ := Option.bind_eq_some_iff.mp hn
    cases hs : t.kind.isSignificant with
    | true =>
      rw [Expr.significant_cons hs, nestAll_cons, ht]
      exact ih hts
    | false =>
      rw [Expr.significant_cons_inert hs]
      rw [nest_of_not_isSignificant hs ht] at hts
      exact ih hts

end Nest

/-! ## What is bracketed leaves nothing open -/

mutual

theorem Items.nestAll : ∀ {ts own : List Token}, Items ts own → ∀ {bs : List Bracket}, OutsideLiteral bs →
    Token.nestAll bs ts = some bs
  | _, _, .nil, _, _ => rfl
  | _, _, .alone ht _ hts, _, hb => by
    rw [nestAll_cons, nest_of_standsAlone hb ht]
    exact hts.nestAll hb
  | _, _, .literal hl hts, _, hb => by
    rw [nestAll_append, hl.nestAll hb]
    exact hts.nestAll hb

theorem Literal.nestAll : ∀ {ts : List Token}, Literal ts → ∀ {bs : List Bracket}, OutsideLiteral bs →
    Token.nestAll bs ts = some bs
  | _, .mk hts, _, hb => by
    rw [List.cons_append, nestAll_cons, nest_stringStart hb, Option.bind_some, nestAll_append, hts.nestAll]
    rfl

theorem Pieces.nestAll : ∀ {ts : List Token}, Pieces ts → ∀ {bs : List Bracket} {q : Nat},
    Token.nestAll (.literal q :: bs) ts = some (.literal q :: bs)
  | _, .nil, _, _ => rfl
  | _, .plaintext hts, _, _ => hts.nestAll
  | _, @Pieces.interpolation body _ ts x x' o o' hi _ hts, bs, q => by
    have hopen : nest (.literal q :: bs) ⟨.interpolationStart, x, o⟩ = some (.interpolation :: .literal q :: bs) := rfl
    have hclose : nest (.interpolation :: .literal q :: bs) ⟨.interpolationEnd, x', o'⟩ = some (.literal q :: bs) := rfl
    rw [List.cons_append, nestAll_cons, hopen, Option.bind_some, nestAll_append,
      hi.nestAll outsideLiteral_interpolation, Option.bind_some, nestAll_cons, hclose]
    exact hts.nestAll

end

/-- Behind all lexemes of a source nothing is open. -/
theorem nestAll_scan (source : String) : nestAll [] (place 0 (Lexeme.split source.toList)) = some [] := by
  obtain ⟨items, own, rest, hp, hi, hrest⟩ := items_of_split source.toList 0
  rw [hp, nestAll_append, hi.nestAll outsideLiteral_nil]
  rcases hrest with rfl | ⟨t, rfl, ht⟩
  · rfl
  · have halone : t.kind.standsAlone = true := by rw [ht.1]; rfl
    rw [Option.bind_some, nestAll_cons, nest_of_standsAlone outsideLiteral_nil halone]
    rfl

end Token

end Formula
