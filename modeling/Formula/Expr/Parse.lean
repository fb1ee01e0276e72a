import Formula.Expr.Unfinished
import Formula.Token.Scan

/-!
# Parsing

A source holds at most one expression. Blanks, line ends, stray backslashes and inert text are dropped first; what is
left must be nothing, or one expression and the end of the input.

- `Expr.ofTokens`: the expression that tokens form.
- `Expr.ofSource`: the expression that a source holds.
-/

namespace Formula.Expr

/-- The tokens that the grammar sees. -/
def significant (ts : List Token) : List Token := ts.filter (·.kind.isSignificant)

/-- No token is left, or the end of the input is next. -/
def atEnd : List Token → Bool
  | [] => true
  | t :: _ => t.kind = .eof

/-- The expression at the front of some significant tokens, and the tokens behind it. -/
def readPrefix (ts : List Token) : Except ParseError (Expr × List Token) := Unfinished.start.read ts

/-- The expression that the tokens form, if there is one. -/
def ofTokens (ts : List Token) : Except ParseError (Option Expr) :=
  let ts := significant ts
  if atEnd ts then .ok none
  else
    match readPrefix ts with
    | .error err => .error err
    | .ok (e, []) => .ok (some e)
    | .ok (e, t :: _) =>
      if t.kind = .eof then .ok (some e) else .error (.unexpectedTrailingTokens t.describe t.offset)

/-- The expression that a source holds, if it holds one. -/
def ofSource (source : String) : Except ParseError (Option Expr) := ofTokens (Token.scan source)

/-! ## What the grammar sees -/

section Significant

variable {t : Token} {ts us : List Token}

theorem significant_cons (h : t.kind.isSignificant = true) : significant (t :: ts) = t :: significant ts :=
  List.filter_cons_of_pos h

theorem significant_cons_inert (h : t.kind.isSignificant = false) : significant (t :: ts) = significant ts :=
  List.filter_cons_of_neg (by simp [h])

theorem significant_append : significant (ts ++ us) = significant ts ++ significant us := List.filter_append _ _

theorem significant_shift (n : Nat) : significant (ts.map (Token.shift n)) = (significant ts).map (Token.shift n) :=
  List.filter_map

theorem isSignificant_of_mem (h : t ∈ significant ts) : t.kind.isSignificant = true := (List.mem_filter.mp h).2

end Significant

end Formula.Expr
