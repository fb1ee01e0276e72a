import Formula.Text.CaseTable
import Formula.Text.Cased

/-!
# Upper and lower case

Texts are mapped character by character, with one rule that looks at the neighbours: a capital sigma at the end of a
word becomes `ς` and not `σ`.

- `uppercase`, `lowercase`: the case mappings of a text.
-/

namespace Formula.Text

/-- The first character that is not case-ignorable is cased. -/
def startsCased (cs : List Char) : Bool :=
  match cs.dropWhile isCaseIgnorable with
  | c :: _ => isCased c
  | [] => false

/-- The capital sigma. -/
def capitalSigma : Char := 'Σ'

/-- The lower-case form of a sigma between the text `before` (last character first) and the text `after`: final if
a cased letter precedes it and none follows. -/
def lowerSigma (before after : List Char) : Char :=
  if startsCased before && !startsCased after then 'ς' else 'σ'

/-- Lower-case form of the characters that follow `before` (last character first). -/
def lowercaseAfter (before : List Char) : List Char → List Char
  | [] => []
  | c :: cs =>
    (if c = capitalSigma then [lowerSigma before cs] else lowerChar c) ++ lowercaseAfter (c :: before) cs

/-- The text in upper case. -/
def uppercase (s : String) : String := String.ofList (s.toList.flatMap upperChar)

/-- The text in lower case. -/
def lowercase (s : String) : String := String.ofList (lowercaseAfter [] s.toList)

end Formula.Text
