import Formula.Lexeme.Split

/-!
# Scanning

Scanning never fails: every source is a sequence of lexemes, and each becomes a token that starts where the one
before it ends. A token without text marks the end of the source.

- `Token.locate`: places lexemes one behind the other.
- `Token.scan`: the tokens of a source.
-/

namespace Formula.Token

/-- How many bytes the characters take. -/
def byteLength : List Char → Nat
  | [] => 0
  | c :: cs => c.utf8Size + byteLength cs

/-- The lexemes as tokens from the given offset on, followed by the end of the source. -/
def locate (offset : Nat) : List Lexeme → List Token
  | [] => [⟨.eof, "", offset⟩]
  | l :: ls => ⟨l.kind, String.ofList l.chars, offset⟩ :: locate (offset + byteLength l.chars) ls

/-- The tokens of a source. -/
def scan (source : String) : List Token := locate 0 (Lexeme.split source.toList)

/-! ## Offsets -/

@[simp] theorem byteLength_nil : byteLength [] = 0 := rfl

@[simp] theorem byteLength_cons (c : Char) (cs : List Char) : byteLength (c :: cs) = c.utf8Size + byteLength cs := rfl

@[simp] theorem byteLength_append (cs ds : List Char) : byteLength (cs ++ ds) = byteLength cs + byteLength ds := by
  induction cs with
  | nil => simp
  | cons c cs ih => simp [ih, Nat.add_assoc]

theorem byteLength_eq_utf8ByteSize (cs : List Char) : byteLength cs = (String.ofList cs).utf8ByteSize := by
  induction cs with
  | nil => rfl
  | cons c cs ih =>
    rw [← List.singleton_append, String.ofList_append, String.utf8ByteSize_append, ← ih, byteLength_append,
      ← String.singleton_eq_ofList, String.utf8ByteSize_singleton]
    simp

end Formula.Token
