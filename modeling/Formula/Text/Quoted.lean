import Formula.Text.Visible

/-!
# Quoted texts

A text between double quotes on one line. Quotes, backslashes and the common controls have short escapes; any other
character that is hidden or combining is written as its code point in hexadecimal, `\u{301}`.

- `quote`: the quoted form of a text.
-/

namespace Formula.Text

/-- The code point of a character in hexadecimal, written `\u{…}`. -/
def codePointEscape (c : Char) : List Char :=
  ['\\', 'u', '\x7b'] ++ Nat.toDigits 16 c.toNat ++ ['\x7d']

/-- A character as it stands inside a quoted text. -/
def quoteChar (c : Char) : List Char :=
  match c with
  | '"' => ['\\', '"']
  | '\\' => ['\\', '\\']
  | '\n' => ['\\', 'n']
  | '\t' => ['\\', 't']
  | '\r' => ['\\', 'r']
  | '\x00' => ['\\', '0']
  | c => if isVisible c && !isCombining c then [c] else codePointEscape c

/-- The text between double quotes, escaped. -/
def quote (s : String) : String := String.ofList ('"' :: s.toList.flatMap quoteChar ++ ['"'])

end Formula.Text
