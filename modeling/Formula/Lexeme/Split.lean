import Formula.Lexeme
import Formula.Lexeme.PlainText

/-!
# Splitting a source into lexemes

A string literal holds plain text and interpolations, an interpolation holds lexemes and string literals again. Both
are read together, each step leaving fewer characters than it was given, and both fail if the source ends before they
are closed. Inside an interpolation parentheses are counted, so that the `)` that closes it is found.

At the outermost level a quote that opens no complete literal makes the rest of the source one inert lexeme.

- `Lexeme.literal?`, `Lexeme.body?`: what follows an opening quote, what follows a `\(`; they are
  `Lexeme.readLiteral` and `Lexeme.readBody` without the proof that the rest is shorter.
- `Lexeme.split`: the lexemes of a source.
- `Lexeme.text`: the characters of some lexemes.
-/

namespace Formula.Lexeme

/-- What is left of `cs` after something was read from its front. -/
abbrev Rest (cs : List Char) := { r : List Char // r.length < cs.length }

/-- What is left of a text is less than any text as long as that one. -/
def Rest.of_le {cs ds : List Char} (r : Rest cs) (h : cs.length ≤ ds.length) : Rest ds :=
  ⟨r.val, Nat.lt_of_lt_of_le r.property h⟩

theorem length_drop_le (n : Nat) (cs : List Char) : (cs.drop n).length ≤ cs.length :=
  Nat.le_trans (Nat.le_of_eq List.length_drop) (Nat.sub_le _ _)

/-- The quote that opens a string literal. -/
def stringStart : Lexeme := ⟨.stringStart, ['"']⟩

/-- The quote that closes a string literal. -/
def stringEnd : Lexeme := ⟨.stringEnd, ['"']⟩

/-- The start of an interpolation. -/
def interpolationStart : Lexeme := ⟨.interpolationStart, ['\\', '(']⟩

/-- The end of an interpolation. -/
def interpolationEnd : Lexeme := ⟨.interpolationEnd, [')']⟩

/-- A run of plain text. -/
def plaintext (chars : List Char) : Lexeme := ⟨.plaintext (String.ofList (PlainText.decode chars)), chars⟩

/-- An inert stretch. -/
def trivia (chars : List Char) : Lexeme := ⟨.trivia, chars⟩

/-- How deep in parentheses an interpolation is behind the character. -/
def depthAfter (depth : Nat) (c : Char) : Nat :=
  if c = '(' then depth + 1 else if c = ')' then depth - 1 else depth

mutual

/-- The lexemes of a string literal behind its opening quote, and the characters behind its closing quote. -/
def readLiteral : (cs : List Char) → Option (List Lexeme × Rest cs)
  | [] => none
  | '"' :: cs => some ([stringEnd], ⟨cs, Nat.lt_succ_self _⟩)
  | '\\' :: '(' :: cs => do
    let (inner, r) ← readBody 0 cs
    let (outer, t) ← readLiteral r.val
    some (interpolationStart :: inner ++ interpolationEnd :: outer,
      t.of_le (Nat.le_succ_of_le (Nat.le_succ_of_le (Nat.le_of_lt r.property))))
  | '\\' :: c :: cs => do
    let n := PlainText.extent cs
    let (outer, t) ← readLiteral (cs.drop n)
    some (plaintext ('\\' :: c :: cs.take n) :: outer,
      t.of_le (Nat.le_succ_of_le (Nat.le_succ_of_le (length_drop_le n cs))))
  | c :: cs => do
    let n := PlainText.extent cs
    let (outer, t) ← readLiteral (cs.drop n)
    some (plaintext (c :: cs.take n) :: outer, t.of_le (Nat.le_succ_of_le (length_drop_le n cs)))
termination_by cs => cs.length
decreasing_by
  · exact Nat.lt_succ_of_lt (Nat.lt_succ_self _)
  · exact Nat.lt_succ_of_lt (Nat.lt_succ_of_lt r.property)
  · exact Nat.lt_succ_of_le (Nat.le_succ_of_le (length_drop_le _ cs))
  · exact Nat.lt_succ_of_le (length_drop_le _ cs)

/-- The lexemes of an interpolation at the given depth of parentheses, up to the `)` that closes it, and the
characters behind that `)`. -/
def readBody (depth : Nat) : (cs : List Char) → Option (List Lexeme × Rest cs)
  | [] => none
  | c :: cs =>
    if c = ')' ∧ depth = 0 then some ([], ⟨cs, Nat.lt_succ_self _⟩)
    else if c = '"' then do
      let (inner, r) ← readLiteral cs
      let (outer, t) ← readBody depth r.val
      some (stringStart :: inner ++ outer, t.of_le (Nat.le_succ_of_le (Nat.le_of_lt r.property)))
    else do
      let (outer, t) ← readBody (depthAfter depth c) (after c cs)
      some (first c cs :: outer, t.of_le (Nat.le_succ_of_le (length_after_le c cs)))
termination_by cs => cs.length
decreasing_by
  · exact Nat.lt_succ_self _
  · exact Nat.lt_succ_of_lt r.property
  · exact Nat.lt_succ_of_le (length_after_le c cs)

end

/-- The lexemes of a string literal behind its opening quote, and what is left behind its closing quote. -/
def literal? (cs : List Char) : Option (List Lexeme × List Char) :=
  (readLiteral cs).map fun p => (p.1, p.2.val)

/-- The lexemes of an interpolation at the given depth of parentheses, up to the `)` that closes it, and what is left
behind that `)`. -/
def body? (depth : Nat) (cs : List Char) : Option (List Lexeme × List Char) :=
  (readBody depth cs).map fun p => (p.1, p.2.val)

/-- The lexemes of a source, in order. -/
def split : List Char → List Lexeme
  | [] => []
  | c :: cs =>
    if c = '"' then
      match readLiteral cs with
      | some (inner, r) => stringStart :: inner ++ split r.val
      | none => [trivia (c :: cs)]
    else
      first c cs :: split (after c cs)
termination_by cs => cs.length
decreasing_by
  · exact Nat.lt_succ_of_lt r.property
  · exact Nat.lt_succ_of_le (length_after_le c cs)

/-! ## Equations -/

section Equations

variable (c : Char) (cs : List Char) (depth : Nat)

@[simp] theorem literal?_nil : literal? [] = none := by simp [literal?, readLiteral]

@[simp] theorem literal?_quote : literal? ('"' :: cs) = some ([stringEnd], cs) := by simp [literal?, readLiteral]

theorem literal?_interpolation : literal? ('\\' :: '(' :: cs) =
    (body? 0 cs).bind fun p => (literal? p.2).map fun q =>
      (interpolationStart :: p.1 ++ interpolationEnd :: q.1, q.2) := by
  rw [literal?, readLiteral]
  cases h : readBody 0 cs with
  | none => simp [body?, h]
  | some p =>
    obtain ⟨inner, r, hr⟩ := p
    cases h' : readLiteral r <;> simp [body?, literal?, Rest.of_le, h, h']

theorem literal?_escape (h : c ≠ '(') : literal? ('\\' :: c :: cs) =
    (literal? (cs.drop (PlainText.extent cs))).map fun q =>
      (plaintext ('\\' :: c :: cs.take (PlainText.extent cs)) :: q.1, q.2) := by
  rw [literal?, readLiteral]
  · cases h' : readLiteral (cs.drop (PlainText.extent cs)) <;> simp [literal?, Rest.of_le, h']
  · exact fun h' => h h'

/-- A character that is neither a quote nor the backslash of a pair starts plain text. -/
theorem literal?_char (h : c ≠ '"') (h' : c = '\\' → cs = []) : literal? (c :: cs) =
    (literal? (cs.drop (PlainText.extent cs))).map fun q =>
      (plaintext (c :: cs.take (PlainText.extent cs)) :: q.1, q.2) := by
  rw [literal?, readLiteral]
  · cases h' : readLiteral (cs.drop (PlainText.extent cs)) <;> simp [literal?, Rest.of_le, h']
  · exact fun hc => h hc
  · intro _ hc hcs; simp [h' hc] at hcs
  · intro _ _ hc hcs; simp [h' hc] at hcs

@[simp] theorem body?_nil : body? depth [] = none := by simp [body?, readBody]

@[simp] theorem body?_close : body? 0 (')' :: cs) = some ([], cs) := by simp [body?, readBody]

theorem body?_quote : body? depth ('"' :: cs) =
    (literal? cs).bind fun p => (body? depth p.2).map fun q => (stringStart :: p.1 ++ q.1, q.2) := by
  rw [body?, readBody, if_neg (by simp), if_pos rfl]
  cases h : readLiteral cs with
  | none => simp [literal?, h]
  | some p =>
    obtain ⟨inner, r, hr⟩ := p
    cases h' : readBody depth r <;> simp [body?, literal?, Rest.of_le, h, h']

theorem body?_other (h : ¬(c = ')' ∧ depth = 0)) (h' : c ≠ '"') : body? depth (c :: cs) =
    (body? (depthAfter depth c) (after c cs)).map fun q => (first c cs :: q.1, q.2) := by
  rw [body?, readBody, if_neg h, if_neg h']
  cases h'' : readBody (depthAfter depth c) (after c cs) <;> simp [body?, Rest.of_le, h'']

theorem length_of_literal? {cs : List Char} {ls : List Lexeme} {r : List Char} (h : literal? cs = some (ls, r)) :
    r.length < cs.length := by
  obtain ⟨p, _, hp⟩ := Option.map_eq_some_iff.mp h
  obtain ⟨rfl, rfl⟩ := Prod.mk.inj hp
  exact p.2.property

theorem length_of_body? {depth : Nat} {cs : List Char} {ls : List Lexeme} {r : List Char}
    (h : body? depth cs = some (ls, r)) : r.length < cs.length := by
  obtain ⟨p, _, hp⟩ := Option.map_eq_some_iff.mp h
  obtain ⟨rfl, rfl⟩ := Prod.mk.inj hp
  exact p.2.property

@[simp] theorem split_nil : split [] = [] := by rw [split]

theorem split_literal {cs : List Char} {ls : List Lexeme} {r : List Char} (h : literal? cs = some (ls, r)) :
    split ('"' :: cs) = stringStart :: ls ++ split r := by
  obtain ⟨⟨inner, t, ht⟩, hp, hq⟩ := Option.map_eq_some_iff.mp h
  simp only [Prod.mk.injEq] at hq
  rw [split, if_pos rfl, hp]
  simp [hq.1, hq.2]

theorem split_unclosed {cs : List Char} (h : literal? cs = none) : split ('"' :: cs) = [trivia ('"' :: cs)] := by
  rw [split, if_pos rfl, Option.map_eq_none_iff.mp h]

theorem split_other {c : Char} (h : c ≠ '"') : split (c :: cs) = first c cs :: split (after c cs) := by
  rw [split, if_neg h]

end Equations

/-! ## Text -/

/-- The characters of some lexemes, put together. -/
def text (ls : List Lexeme) : List Char := ls.flatMap Lexeme.chars

@[simp] theorem text_nil : text [] = [] := rfl

@[simp] theorem text_cons (l : Lexeme) (ls : List Lexeme) : text (l :: ls) = l.chars ++ text ls := rfl

@[simp] theorem text_append (ls ls' : List Lexeme) : text (ls ++ ls') = text ls ++ text ls' := by
  simp [text]

end Formula.Lexeme
