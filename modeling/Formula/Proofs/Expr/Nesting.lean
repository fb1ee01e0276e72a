import Formula.Proofs.Expr.Moves
import Formula.Proofs.Token.Nesting

/-!
# Literals and interpolations of unfinished expressions

Reading an expression opens and closes literals and interpolations exactly as its tokens do.

- `Unfinished.brackets`: the literals and interpolations that an unfinished expression stands in.
- `Unfinished.Moves.nest`, `Unfinished.Runs.nestAll`: a move, and a run, keep them in step with the tokens.
-/

namespace Formula

open Token

/-- An interpolation stands in its literal; the other enclosures are neither. -/
def Enclosure.brackets : Enclosure → List Bracket
  | .interpolation _ quote _ => [.interpolation, .literal quote]
  | _ => []

/-- The literal whose next piece is expected. -/
def Focus.brackets : Focus → List Bracket
  | .segment _ quote => [.literal quote]
  | _ => []

namespace Unfinished

/-- The literals and interpolations of some enclosures, innermost first. -/
def outerBrackets (outer : List (Enclosure × List Pending)) : List Bracket := outer.flatMap (·.1.brackets)

/-- The literals and interpolations that are open, innermost first. -/
def brackets (u : Unfinished) : List Bracket := u.focus.brackets ++ outerBrackets u.outer

/-- Within an enclosure no literal is innermost. -/
theorem outsideLiteral_outerBrackets (outer : List (Enclosure × List Pending)) :
    OutsideLiteral (outerBrackets outer) := by
  induction outer with
  | nil => exact outsideLiteral_nil
  | cons p outer ih =>
    obtain ⟨enclosure, ps⟩ := p
    cases enclosure with
    | grouping => exact ih
    | call => exact ih
    | interpolation => exact outsideLiteral_interpolation

/-- Only where a piece of a literal is expected, a literal is innermost. -/
theorem outsideLiteral_brackets {u : Unfinished} (h : ∀ es q, u.focus ≠ .segment es q) : OutsideLiteral u.brackets := by
  obtain ⟨f, ps, outer⟩ := u
  cases f with
  | segment es q => exact absurd rfl (h es q)
  | _ => exact outsideLiteral_outerBrackets outer

theorem standsAlone_of_atom? {t : Token} {e : Expr} (h : atom? t = some e) : t.kind.standsAlone = true := by
  unfold atom? at h
  split at h <;> simp_all [Kind.standsAlone]

/-- A move opens and closes what its token opens and closes. -/
theorem Moves.nest {u v : Unfinished} {t : Token} (h : Moves u t v) : Token.nest u.brackets t = some v.brackets := by
  induction h with
  | atom h => exact nest_of_standsAlone (outsideLiteral_outerBrackets _) (standsAlone_of_atom? h)
  | openString => exact nest_stringStart (outsideLiteral_outerBrackets _)
  | firstArgument _ _ ih => exact ih
  | closeInterpolation | plaintext | openInterpolation | closeString => rfl
  | _ => exact nest_of_standsAlone (outsideLiteral_outerBrackets _) rfl

theorem Runs.nestAll {u v : Unfinished} {ts : List Token} (h : Runs u ts v) :
    Token.nestAll u.brackets ts = some v.brackets := by
  induction h with
  | nil => rfl
  | cons hm _ ih =>
    rw [nestAll_cons, hm.nest]
    exact ih

end Unfinished

end Formula
