import Formula.Proofs.Lexeme.Extend
import Formula.Proofs.Token.Partition

/-!
# The outermost level of a source

Outside of string literals a source can be cut in front of any lexeme: what stands in front is read as it is alone, and
so is what stands behind, further on.

- `Lexeme.ReadsOuter`: what the outermost level has read of a source, and what is left.
- `Token.GoesOn`: the outermost level goes on behind the first part of a source.
- `Token.scan_append`: the tokens of a source that is cut there.
-/

namespace Formula

namespace Lexeme

/-- On the outermost level, the characters are these lexemes, and the others are left. -/
inductive ReadsOuter : List Char → List Lexeme → List Char → Prop
  | nil {r : List Char} : ReadsOuter r [] r
  | literal {cs mid : List Char} {inner ls : List Lexeme} {r : List Char} : ReadsLiteral cs inner mid →
      ReadsOuter mid ls r → ReadsOuter ('"' :: cs) (stringStart :: inner ++ ls) r
  | other {c : Char} {cs : List Char} {ls : List Lexeme} {r : List Char} (h : c ≠ '"') : ReadsOuter (after c cs) ls r →
      ReadsOuter (c :: cs) (first c cs :: ls) r

namespace ReadsOuter

variable {cs : List Char} {ls : List Lexeme} {r : List Char}

theorem text_append (h : ReadsOuter cs ls r) : text ls ++ r = cs := by
  induction h with
  | nil => rfl
  | literal hl _ ih => simp [stringStart, ih, hl.text_append]
  | @other c cs ls r _ _ ih => rw [text_cons, List.append_assoc, ih, first_append_after]

/-- More can be read of what is left. -/
theorem append (h : ReadsOuter cs ls r) {ls' : List Lexeme} {r' : List Char} (h' : ReadsOuter r ls' r') :
    ReadsOuter cs (ls ++ ls') r' := by
  induction h with
  | nil => exact h'
  | literal hl _ ih =>
    rw [List.append_assoc]
    exact .literal hl (ih h')
  | other hc _ ih => exact .other hc (ih h')

/-- The lexemes of a source are those that were read and those of what is left. -/
theorem split_eq (h : ReadsOuter cs ls r) : split cs = ls ++ split r := by
  induction h with
  | nil => rfl
  | literal hl _ ih => rw [split_literal hl.literal?, ih, List.append_assoc]
  | @other c cs ls r hc _ ih => rw [split_other cs hc, ih, List.cons_append]

/-- What was read is read alike without what is left. -/
theorem split_text (h : ReadsOuter cs ls r) : split (text ls) = ls := by
  induction h with
  | nil => exact split_nil
  | literal hl _ ih => rw [text_literal, split_literal (hl.before _).literal?, ih]
  | @other c cs ls r hc hrest ih =>
    obtain ⟨ds, hds, hfirst, hafter⟩ := exists_first_end hrest.text_append.symm
    rw [text_cons, hds, split_other ds hc, hfirst, hafter, ih]

end ReadsOuter

end Lexeme

namespace Token

/-- Behind the first part of the source the outermost level goes on with the second. -/
def GoesOn (a b : String) : Prop := ∃ ls, Lexeme.ReadsOuter (a.toList ++ b.toList) ls b.toList

variable {a b : String} {ls : List Lexeme}

/-- What is read in front of the second part are the lexemes of the first. -/
theorem split_of_readsOuter (h : Lexeme.ReadsOuter (a.toList ++ b.toList) ls b.toList) :
    Lexeme.split a.toList = ls := by
  rw [← List.append_cancel_right h.text_append]
  exact h.split_text

/-- The tokens of a source without the end of the input. -/
theorem dropLast_scan (source : String) : (scan source).dropLast = place 0 (Lexeme.split source.toList) := by
  rw [scan_eq_place, List.dropLast_concat]

theorem locate_add (n offset : Nat) (ls : List Lexeme) :
    locate (offset + n) ls = (locate offset ls).map (shift n) := by
  induction ls generalizing offset with
  | nil => rfl
  | cons l ls ih =>
    rw [locate, locate, List.map_cons, ← ih, Nat.add_right_comm]
    rfl

/-- Where the outermost level goes on, the tokens are those of what stands in front and those of what stands behind,
further on. -/
theorem scan_append (h : GoesOn a b) : scan (a ++ b) = (scan a).dropLast ++ (scan b).map (shift a.utf8ByteSize) := by
  obtain ⟨ls, hls⟩ := h
  have hsplit : Lexeme.split (a ++ b).toList = Lexeme.split a.toList ++ Lexeme.split b.toList := by
    rw [String.toList_append, hls.split_eq, split_of_readsOuter hls]
  have hfar : locate (0 + a.utf8ByteSize) (Lexeme.split b.toList) = (scan b).map (shift a.utf8ByteSize) :=
    locate_add a.utf8ByteSize 0 (Lexeme.split b.toList)
  rw [scan, hsplit, locate_append, Lexeme.text_split, byteLength_toList, hfar, dropLast_scan]

end Token

end Formula
