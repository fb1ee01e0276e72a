import Formula.Symbol
import Formula.Number.Format
import Formula.Text.Quoted

/-!
# Tokens

A token is a stretch of the source, what it means and where it starts, counted in bytes. A string literal is several
tokens: its quotes, the runs of plain text between them, and the two ends of each interpolation around the tokens of
the interpolated expression.

- `Kind.isSignificant`: tokens the grammar sees.
- `Kind.sameCategory`: equality of kinds up to what names, numbers and plain texts carry.
- `Kind.keyword?`: the names that are not identifiers.
- `Token.describe`: how an error message refers to a token.
-/

namespace Formula

/-- What a token means. -/
inductive Kind where
  /-- An operator, a bracket or punctuation. -/
  | symbol (s : Symbol)
  /-- The keyword `and`, reserved. -/
  | and
  /-- The keyword `or`, reserved. -/
  | or
  /-- A name. -/
  | identifier (name : String)
  /-- A number literal. -/
  | number (value : Float)
  /-- `true` or `false`. -/
  | bool (value : Bool)
  /-- `nil`. -/
  | nil
  /-- The quote that opens a string literal. -/
  | stringStart
  /-- A run of text in a string literal, its escapes decoded. -/
  | plaintext (text : String)
  /-- The `\(` that opens an interpolation. -/
  | interpolationStart
  /-- The `)` that closes an interpolation. -/
  | interpolationEnd
  /-- The quote that closes a string literal. -/
  | stringEnd
  /-- A backslash outside string literals. -/
  | backslash
  /-- Spaces, tabs, carriage returns and form feeds. -/
  | whitespace
  /-- A line end. -/
  | newline
  /-- A character that starts no token, or a string literal that is never closed. -/
  | trivia
  /-- The end of the source. -/
  | eof
  deriving DecidableEq

namespace Kind

/-- The kinds that the grammar looks at; the others are skipped. -/
def isSignificant : Kind → Bool
  | trivia | whitespace | newline | backslash => false
  | _ => true

/-- The kind without what a name, a number or a plain text carries. -/
def category : Kind → Kind
  | identifier _ => identifier ""
  | number _ => number 0
  | plaintext _ => plaintext ""
  | k => k

/-- Names match names, numbers match numbers and plain texts match plain texts; other kinds must be equal. -/
def sameCategory (a b : Kind) : Bool := a.category = b.category

/-- The kinds of the names that have a meaning of their own. -/
def keyword? : String → Option Kind
  | "true" => some (bool true)
  | "false" => some (bool false)
  | "nil" => some nil
  | "and" => some and
  | "or" => some or
  | _ => none

/-- The kind of a name: a keyword, or else an identifier. -/
def ofName (name : String) : Kind := (keyword? name).getD (identifier name)

/-- The kind as it is shown to a developer. -/
def inspect : Kind → String
  | symbol s => s.name
  | and => "And"
  | or => "Or"
  | identifier name => "Identifier(" ++ Text.quote name ++ ")"
  | number value => "Literal(Number(" ++ Number.inspect value ++ "))"
  | bool value => "Literal(Bool(" ++ toString value ++ "))"
  | nil => "Literal(Nil)"
  | stringStart => "Literal(String(Start))"
  | plaintext text => "Literal(String(Plaintext(" ++ Text.quote text ++ ")))"
  | interpolationStart => "Literal(String(InterpolationStart))"
  | interpolationEnd => "Literal(String(InterpolationEnd))"
  | stringEnd => "Literal(String(End))"
  | backslash => "Backslash"
  | whitespace => "Whitespace"
  | newline => "Newline"
  | trivia => "Trivia"
  | eof => "Eof"

end Kind

/-- A stretch of the source. -/
structure Token where
  kind : Kind
  /-- The source text that the token covers. -/
  lexeme : String
  /-- Where the token starts, in bytes. -/
  offset : Nat
  deriving DecidableEq

namespace Token

/-- How an error message refers to the token. -/
def describe (t : Token) : String :=
  if t.kind = .eof then "end of input" else "'" ++ t.lexeme ++ "'"

/-- The token `n` bytes further on. -/
def shift (n : Nat) (t : Token) : Token := { t with offset := t.offset + n }

end Token

end Formula
