import Formula.Token

/-!
# Syntax errors

What can be wrong with a sequence of tokens. Each error carries the place where it was noticed, and those about a
token how that token is described.
-/

namespace Formula

/-- Why tokens form no expression. -/
inductive ParseError where
  /-- A token that starts no expression. -/
  | unexpectedToken (found : String) (offset : Nat)
  /-- The end, where something was still expected. -/
  | unexpectedEndOfInput (offset : Nat)
  /-- Another token in place of the `)` of a grouping or an argument list. -/
  | expectedClosingParen (found : String) (offset : Nat)
  /-- Another token in place of the name behind a `.`. -/
  | expectedMethodName (found : String) (offset : Nat)
  /-- Another token in place of the `)` of an interpolation. -/
  | expectedInterpolationEnd (found : String) (offset : Nat)
  /-- The end inside a string literal, whose opening quote is at the offset. -/
  | unterminatedString (offset : Nat)
  /-- A token behind a complete expression. -/
  | unexpectedTrailingTokens (found : String) (offset : Nat)
  deriving DecidableEq, Repr

namespace ParseError

/-- Where the error was noticed. -/
def offset : ParseError → Nat
  | unexpectedToken _ o | unexpectedEndOfInput o | expectedClosingParen _ o | expectedMethodName _ o
  | expectedInterpolationEnd _ o | unterminatedString o | unexpectedTrailingTokens _ o => o

/-- What is wrong, without the place. -/
def reason : ParseError → String
  | unexpectedToken found _ => "Expected expression, found " ++ found ++ "."
  | unexpectedEndOfInput _ => "Unexpected end of input."
  | expectedClosingParen found _ => "Expected closing parenthesis ')' but found " ++ found ++ "."
  | expectedMethodName found _ => "Expected method name after '.', found " ++ found ++ "."
  | expectedInterpolationEnd found _ => "Expected ')' to close the interpolation, found " ++ found ++ "."
  | unterminatedString _ => "Unterminated string literal."
  | unexpectedTrailingTokens found _ => "Extra tokens after expression: " ++ found ++ "."

/-- The error as it is reported. -/
def message (e : ParseError) : String := "Error at offset " ++ toString e.offset ++ ": " ++ e.reason

end ParseError

end Formula
