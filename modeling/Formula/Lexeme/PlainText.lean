/-!
# Plain text in string literals

The text of a string literal reaches up to the next quote or interpolation. A backslash and the character after it
belong together: `\"`, `\\`, `\n`, `\t` and `\r` stand for one character, and any other pair stands for itself.

- `PlainText.extent`: how far plain text goes; `PlainText.extent_le`.
- `PlainText.decode`: the text that is meant.
- `PlainText.encode`: one way to write a text.
-/

namespace Formula.PlainText

/-- How many characters there are in front of the next quote or interpolation. -/
def extent : List Char → Nat
  | '"' :: _ => 0
  | '\\' :: '(' :: _ => 0
  | '\\' :: _ :: cs => extent cs + 2
  | _ :: cs => extent cs + 1
  | [] => 0

/-- What a backslash and the character after it stand for. -/
def decodeEscape : Char → List Char
  | '"' => ['"']
  | '\\' => ['\\']
  | 'n' => ['\n']
  | 't' => ['\t']
  | 'r' => ['\r']
  | c => ['\\', c]

/-- The text that a run of plain text stands for. -/
def decode : List Char → List Char
  | '\\' :: c :: cs => decodeEscape c ++ decode cs
  | c :: cs => c :: decode cs
  | [] => []

/-- Writes a backslash before each quote and each backslash. -/
def encode : List Char → List Char
  | [] => []
  | c :: cs => if c = '"' ∨ c = '\\' then '\\' :: c :: encode cs else c :: encode cs

theorem extent_le (cs : List Char) : extent cs ≤ cs.length := by
  fun_induction extent cs <;> simp <;> omega

end Formula.PlainText
