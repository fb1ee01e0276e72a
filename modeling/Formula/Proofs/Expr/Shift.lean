import Formula.Proofs.Expr.Relocate

/-!
# Expressions further on in a source

- `Expr.shift`: an expression some bytes further on; `Expr.shift_eq_relocate`: it is moved by that many bytes.
- `Grammar.Derives.shift`: tokens further on are derived as the expression further on.
-/

namespace Formula

namespace Expr

mutual

/-- The expression `n` bytes further on. -/
def shift (n : Nat) : Expr → Expr
  | number x => number x
  | string s => string s
  | bool b => bool b
  | nil => nil
  | identifier name o => identifier name (o + n)
  | unary op operand o => unary op (operand.shift n) (o + n)
  | binary left op right o => binary (left.shift n) op (right.shift n) (o + n)
  | grouping inner => grouping (inner.shift n)
  | call callee arguments o => call (callee.shift n) (shiftAll n arguments) (o + n)
  | method receiver name o => method (receiver.shift n) name (o + n)
  | interpolation inner o => interpolation (inner.shift n) (o + n)

/-- Some expressions `n` bytes further on. -/
def shiftAll (n : Nat) : List Expr → List Expr
  | [] => []
  | e :: es => e.shift n :: shiftAll n es

end

mutual

/-- An expression further on is moved by as many bytes at each of its nodes. -/
theorem shift_eq_relocate (n : Nat) : ∀ e : Expr, e.shift n = e.relocate (· + n)
  | number _ | string _ | bool _ | nil | identifier _ _ => rfl
  | unary _ operand _ => by rw [shift, relocate, shift_eq_relocate n operand]
  | binary left _ right _ => by rw [shift, relocate, shift_eq_relocate n left, shift_eq_relocate n right]
  | grouping inner => by rw [shift, relocate, shift_eq_relocate n inner]
  | call callee arguments _ => by rw [shift, relocate, shift_eq_relocate n callee, shiftAll_eq_relocateAll n arguments]
  | method receiver _ _ => by rw [shift, relocate, shift_eq_relocate n receiver]
  | interpolation inner _ => by rw [shift, relocate, shift_eq_relocate n inner]

theorem shiftAll_eq_relocateAll (n : Nat) : ∀ es : List Expr, shiftAll n es = relocateAll (· + n) es
  | [] => rfl
  | e :: es => by rw [shiftAll, relocateAll, shift_eq_relocate n e, shiftAll_eq_relocateAll n es]

end

end Expr

/-- Tokens further on are derived as the expression further on. -/
theorem Grammar.Derives.shift (n : Nat) {ts : List Token} {e : Expr} (h : Derives .equality ts e) :
    Derives .equality (ts.map (Token.shift n)) (e.shift n) := by
  rw [Expr.shift_eq_relocate]
  exact h.relocate (· + n)

end Formula
