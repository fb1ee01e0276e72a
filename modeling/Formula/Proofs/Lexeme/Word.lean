import Formula.Numeral
import Formula.Proofs.Token.Layout

/-!
# Words and longest matches

The forms of lexemes outside string literals as they are written down for a reader, without a word on how far a lexeme
reaches. The first lexeme of a text is the longest word at its front, or, where there is none, a single character.

- `Word`: the words, and what each of them means.
- `Word.form`: a word starts with a character that tells its form, and no lexeme of the form is shorter.
- `Form.word`: a lexeme of a form that is known is a word.
- `Word.split_eq`: a word alone is one lexeme.
- `Lexeme.munches_first`: the first lexeme of a text is the longest word at its front.
- `Kind.Keyword`: the keywords; `Kind.keyword?_eq_some_iff`: they are what is looked up.
- `Word.of_identifier`, `Word.of_keyword`: names are identifiers or keywords.
- `Word.read?_eq`: a number has the value of its numeral.
-/

namespace Formula

/-- The characters are a lexeme of this meaning. -/
inductive Word : List Char → Kind → Prop
  | symbol (s : Symbol) : Word s.chars (.symbol s)
  | whole {ds : List Char} (h : ds ≠ []) (h' : ∀ d ∈ ds, d.isDigit = true) :
      Word ds (.number (Decimal.ofParts ds []).toFloat)
  | fraction {ds es : List Char} (h : ds ≠ []) (h' : ∀ d ∈ ds, d.isDigit = true) (he : es ≠ [])
      (he' : ∀ e ∈ es, e.isDigit = true) : Word (ds ++ '.' :: es) (.number (Decimal.ofParts ds es).toFloat)
  | name {c : Char} {cs : List Char} (h : isNameStart c = true) (h' : ∀ d ∈ cs, isNameChar d = true) :
      Word (c :: cs) (.ofName (String.ofList (c :: cs)))
  | blank {cs : List Char} (h : cs ≠ []) (h' : ∀ c ∈ cs, isBlank c = true) : Word cs .whitespace
  | newline : Word ['\n'] .newline
  | backslash : Word ['\\'] .backslash

/-! ## Digits -/

theorem toNat_of_isDigit {c : Char} (h : c.isDigit = true) : 48 ≤ c.toNat ∧ c.toNat ≤ 57 := by
  simpa [Char.isDigit, UInt32.le_iff_toNat_le] using h

/-- Digits come before all letters. -/
theorem not_ge_of_isDigit {c d : Char} (h : c.isDigit = true) (hd : 57 < d.toNat) : ¬ c.val ≥ d.val := by
  intro hge
  have hle : d.toNat ≤ c.toNat := UInt32.le_iff_toNat_le.mp hge
  have hlast := (toNat_of_isDigit h).2
  omega

theorem isAlpha_of_isDigit {c : Char} (h : c.isDigit = true) : c.isAlpha = false := by
  have hupper : c.isUpper = false := decide_eq_false fun hu => not_ge_of_isDigit h (by decide) hu.1
  have hlower : c.isLower = (decide (c.val ≥ 'a'.val) && decide (c.val ≤ 'z'.val)) := rfl
  have halpha : c.isAlpha = (c.isUpper || c.isLower) := rfl
  rw [halpha, hupper, hlower, decide_eq_false (not_ge_of_isDigit h (by decide))]
  rfl

theorem toLower_of_isDigit {c : Char} (h : c.isDigit = true) : c.toLower = c :=
  dif_neg fun hupper => not_ge_of_isDigit h (by decide) hupper.1

/-! ## Forms of first characters -/

namespace Form

/-- A lexeme of the form may start with the character. -/
def Starts (c : Char) : Form → Prop
  | number => c.isDigit = true
  | name => isNameStart c = true
  | blank => isBlank c = true
  | newline => c = '\n'
  | backslash => c = '\\'
  | symbol s => s.chars = [c]
  | unknown => True

theorem starts_ofChar (c : Char) : (ofChar c).Starts c := by
  unfold ofChar
  split
  · assumption
  split
  · assumption
  split
  · assumption
  split
  · assumption
  split
  · assumption
  split
  · rename_i hs
    exact Symbol.ofChar?_eq_some_iff.mp hs
  · trivial

theorem ofChar_of_isDigit {c : Char} (h : c.isDigit = true) : ofChar c = number := if_pos h

/-- Digits start no name. -/
theorem isNameStart_of_isDigit {c : Char} (h : c.isDigit = true) : isNameStart c = false := by
  obtain ⟨-, hle⟩ := toNat_of_isDigit h
  have hletter : Text.isLetter c = false := by
    rw [Text.isLetter, if_pos (by omega), isAlpha_of_isDigit h]
  have hunder : c ≠ '_' := by
    rintro rfl
    cases h
  have hdot : c ≠ middleDot := by
    rintro rfl
    cases h
  simp [isNameStart, hletter, hunder, hdot]

theorem ofChar_of_isNameStart {c : Char} (h : isNameStart c = true) : ofChar c = name := by
  have hdigit : ¬ c.isDigit = true := fun hd => by simp [isNameStart_of_isDigit hd] at h
  rw [ofChar, if_neg hdigit, if_pos h]

theorem ofChar_backslash : ofChar '\\' = backslash := by decide

theorem ofChar_of_chars {c : Char} {s : Symbol} (h : s.chars = [c]) : ofChar c = symbol s := by
  cases s <;> simp only [Symbol.chars, List.cons.injEq, and_true, reduceCtorEq, and_false] at h <;> subst h <;> decide

/-! ## Values of numbers -/

theorem numberValue_whole {ds : List Char} (h : ∀ d ∈ ds, d.isDigit = true) :
    numberValue ds = (Decimal.ofParts ds []).toFloat := by
  rw [numberValue, List.takeWhile_eq_self_iff.mpr h, List.dropWhile_eq_nil_iff.mpr h, List.drop_nil]

theorem takeWhile_fraction {ds : List Char} (h : ∀ d ∈ ds, d.isDigit = true) (x : List Char) :
    (ds ++ '.' :: x).takeWhile Char.isDigit = ds := by
  rw [List.takeWhile_append_of_pos h]
  simp

theorem dropWhile_fraction {ds : List Char} (h : ∀ d ∈ ds, d.isDigit = true) (x : List Char) :
    (ds ++ '.' :: x).dropWhile Char.isDigit = '.' :: x := by
  rw [List.dropWhile_append_of_pos h]
  simp

theorem numberValue_fraction {ds es : List Char} (h : ∀ d ∈ ds, d.isDigit = true) :
    numberValue (ds ++ '.' :: es) = (Decimal.ofParts ds es).toFloat := by
  rw [numberValue, takeWhile_fraction h, dropWhile_fraction h, List.drop_succ_cons, List.drop_zero]

/-! ## No word is longer -/

theorem length_le_takeWhile {p : Char → Bool} {ds cs : List Char} (h : ∀ d ∈ ds, p d = true) (hpre : ds <+: cs) :
    ds.length ≤ (cs.takeWhile p).length := by
  obtain ⟨x, rfl⟩ := hpre
  rw [List.takeWhile_append_of_pos h, List.length_append]
  omega

/-- A number goes on over digits, a point and more digits. -/
theorem length_le_numberExtent {ds es cs : List Char} (h : ∀ d ∈ ds, d.isDigit = true) (he : es ≠ [])
    (he' : ∀ e ∈ es, e.isDigit = true) (hpre : ds ++ '.' :: es <+: cs) :
    (ds ++ '.' :: es).length ≤ numberExtent cs := by
  obtain ⟨x, rfl⟩ := hpre
  rw [List.append_assoc, List.cons_append]
  have hlen : es.length ≤ ((es ++ x).takeWhile Char.isDigit).length := length_le_takeWhile he' (List.prefix_append _ _)
  have hpos := List.length_pos_iff.mpr he
  simp only [numberExtent, takeWhile_fraction h, dropWhile_fraction h, List.length_append, List.length_cons]
  split <;> omega

end Form

/-- A symbol is one character, or a symbol of one character that goes on with another. -/
theorem Symbol.chars_cases (s : Symbol) : (∃ c, s.chars = [c]) ∨
    ∃ (s' : Symbol) (c c' : Char), s'.chars = [c] ∧ s'.extend? c' = some s ∧ s.chars = [c, c'] := by
  cases s with
  | bangEqual => exact .inr ⟨.bang, _, _, rfl, rfl, rfl⟩
  | equalEqual => exact .inr ⟨.equal, _, _, rfl, rfl, rfl⟩
  | greaterEqual => exact .inr ⟨.greater, _, _, rfl, rfl, rfl⟩
  | lessEqual => exact .inr ⟨.less, _, _, rfl, rfl, rfl⟩
  | ampersandAmpersand => exact .inr ⟨.ampersand, _, _, rfl, rfl, rfl⟩
  | pipePipe => exact .inr ⟨.pipe, _, _, rfl, rfl, rfl⟩
  | _ => exact .inl ⟨_, rfl⟩

namespace Word

/-- A word starts with a character that tells its form, and a lexeme of the form reaches at least as far. -/
theorem form {w : List Char} {k : Kind} (h : Word w k) : ∃ c u, w = c :: u ∧ Form.ofChar c ≠ .unknown ∧
    (Form.ofChar c).kind w = k ∧ ∀ cs, u <+: cs → u.length ≤ (Form.ofChar c).extent cs := by
  cases h with
  | symbol s =>
    rcases s.chars_cases with ⟨c, hs⟩ | ⟨s', c, c', hs', hext, hs⟩
    · rw [hs]
      refine ⟨c, [], rfl, ?_⟩
      rw [Form.ofChar_of_chars hs]
      exact ⟨by simp, rfl, fun _ _ => Nat.zero_le _⟩
    · rw [hs]
      refine ⟨c, [c'], rfl, ?_⟩
      rw [Form.ofChar_of_chars hs']
      refine ⟨by simp, by simp [Form.kind, Form.symbolOf, hext], ?_⟩
      rintro _ ⟨x, rfl⟩
      simp [Form.extent, hext]
  | @whole ds hne hds =>
    obtain ⟨c, ds, rfl⟩ := List.exists_cons_of_ne_nil hne
    obtain ⟨hc, hrest⟩ := List.forall_mem_cons.mp hds
    refine ⟨c, ds, rfl, ?_⟩
    rw [Form.ofChar_of_isDigit hc]
    exact ⟨by simp, congrArg Kind.number (Form.numberValue_whole hds), fun cs hpre =>
      Nat.le_trans (Form.length_le_takeWhile hrest hpre) (Form.length_takeWhile_le_numberExtent cs)⟩
  | @fraction ds es hne hds he hes =>
    obtain ⟨c, ds, rfl⟩ := List.exists_cons_of_ne_nil hne
    obtain ⟨hc, hrest⟩ := List.forall_mem_cons.mp hds
    refine ⟨c, ds ++ '.' :: es, rfl, ?_⟩
    rw [Form.ofChar_of_isDigit hc]
    exact ⟨by simp, congrArg Kind.number (Form.numberValue_fraction hds), fun cs hpre =>
      Form.length_le_numberExtent hrest he hes hpre⟩
  | @name c cs hc hcs =>
    refine ⟨c, cs, rfl, ?_⟩
    rw [Form.ofChar_of_isNameStart hc]
    exact ⟨by simp, rfl, fun _ hpre => Form.length_le_takeWhile hcs hpre⟩
  | blank hne hcs =>
    obtain ⟨c, cs, rfl⟩ := List.exists_cons_of_ne_nil hne
    obtain ⟨hc, hrest⟩ := List.forall_mem_cons.mp hcs
    refine ⟨c, cs, rfl, ?_⟩
    rw [Form.ofChar_of_isBlank hc]
    exact ⟨by simp, rfl, fun _ hpre => Form.length_le_takeWhile hrest hpre⟩
  | newline =>
    refine ⟨'\n', [], rfl, ?_⟩
    rw [Form.ofChar_newline]
    exact ⟨by simp, rfl, fun _ _ => Nat.zero_le _⟩
  | backslash =>
    refine ⟨'\\', [], rfl, ?_⟩
    rw [Form.ofChar_backslash]
    exact ⟨by simp, rfl, fun _ _ => Nat.zero_le _⟩

/-- A word alone is one lexeme. -/
theorem split_eq {w : List Char} {k : Kind} (h : Word w k) : Lexeme.split w = [⟨k, w⟩] := by
  obtain ⟨c, u, rfl, hknown, hk, hlen⟩ := h.form
  have hquote : c ≠ '"' := by
    rintro rfl
    exact hknown (by decide)
  have hextent : Lexeme.extent c u = u.length := Nat.le_antisymm (Form.extent_le _ u) (hlen u List.prefix_rfl)
  rw [Lexeme.split_other u hquote, Lexeme.first, Lexeme.after, hextent, List.take_length, List.drop_length,
    Lexeme.split_nil, hk]

end Word

/-! ## The first lexeme is a word -/

namespace Form

theorem take_length_takeWhile (p : Char → Bool) (cs : List Char) :
    cs.take (cs.takeWhile p).length = cs.takeWhile p := (List.prefix_iff_eq_take.mp (List.takeWhile_prefix p)).symm

/-- A number goes on over digits, or over digits, a point and more digits. -/
theorem take_numberExtent (cs : List Char) : cs.take (numberExtent cs) = cs.takeWhile Char.isDigit ∨
    ∃ es, es ≠ [] ∧ (∀ e ∈ es, e.isDigit = true) ∧
      cs.take (numberExtent cs) = cs.takeWhile Char.isDigit ++ '.' :: es := by
  unfold numberExtent
  split
  · rename_i ds hds
    split
    · exact .inl (take_length_takeWhile _ cs)
    · rename_i n hn
      have hcs : cs = cs.takeWhile Char.isDigit ++ '.' :: ds := by rw [← hds, List.takeWhile_append_dropWhile]
      have htake : ds.take n.succ = ds.takeWhile Char.isDigit := hn ▸ take_length_takeWhile _ ds
      refine .inr ⟨ds.takeWhile Char.isDigit, ?_, fun e he => List.mem_takeWhile_imp he, ?_⟩
      · rw [← List.length_pos_iff, hn]
        exact Nat.succ_pos n
      · calc cs.take ((cs.takeWhile Char.isDigit).length + (n + 1) + 1)
            = (cs.takeWhile Char.isDigit ++ '.' :: ds).take ((cs.takeWhile Char.isDigit).length + (n + 2)) := by
              rw [← hcs]
              rfl
          _ = cs.takeWhile Char.isDigit ++ '.' :: ds.take (n + 1) := by
              rw [List.take_length_add_append, List.take_succ_cons]
          _ = cs.takeWhile Char.isDigit ++ '.' :: ds.takeWhile Char.isDigit := by rw [htake]
  · exact .inl (take_length_takeWhile _ cs)

/-- A lexeme of a form that is known is a word. -/
theorem word {c : Char} (h : ofChar c ≠ unknown) (cs : List Char) :
    Word (c :: cs.take ((ofChar c).extent cs)) ((ofChar c).kind (c :: cs.take ((ofChar c).extent cs))) := by
  have hstarts := starts_ofChar c
  cases hf : ofChar c with
  | number =>
    rw [hf] at hstarts
    have hdigits : ∀ d ∈ c :: cs.takeWhile Char.isDigit, d.isDigit = true :=
      List.forall_mem_cons.mpr ⟨hstarts, fun d hd => List.mem_takeWhile_imp hd⟩
    rw [extent, kind]
    rcases take_numberExtent cs with htake | ⟨es, hne, hes, htake⟩
    · rw [htake, numberValue_whole hdigits]
      exact .whole (List.cons_ne_nil _ _) hdigits
    · rw [htake, ← List.cons_append, numberValue_fraction hdigits]
      exact .fraction (List.cons_ne_nil _ _) hdigits hne hes
  | name =>
    rw [hf] at hstarts
    rw [extent, take_length_takeWhile]
    exact .name hstarts fun d hd => List.mem_takeWhile_imp hd
  | blank =>
    rw [hf] at hstarts
    rw [extent, take_length_takeWhile]
    exact .blank (List.cons_ne_nil _ _) (List.forall_mem_cons.mpr ⟨hstarts, fun d hd => List.mem_takeWhile_imp hd⟩)
  | newline =>
    rw [hf] at hstarts
    obtain rfl : c = '\n' := hstarts
    cases cs <;> exact .newline
  | backslash =>
    rw [hf] at hstarts
    obtain rfl : c = '\\' := hstarts
    cases cs <;> exact .backslash
  | symbol s =>
    rw [hf] at hstarts
    have hword := Word.symbol (symbolOf s (c :: cs.take ((symbol s).extent cs)))
    rwa [chars_symbolOf hstarts cs] at hword
  | unknown => exact absurd hf h

end Form

/-- What is read at the front of a text: its longest word, or a single inert character if it starts with none. -/
inductive Munches (cs : List Char) : List Char → Kind → Prop
  | word {w : List Char} {k : Kind} (h : Word w k) (hpre : w <+: cs)
      (longest : ∀ w' k', Word w' k' → w' <+: cs → w'.length ≤ w.length) : Munches cs w k
  | unknown {c : Char} (hpre : [c] <+: cs) (none : ∀ w k, Word w k → ¬ w <+: cs) : Munches cs [c] .trivia

/-- The first lexeme of a text is the longest word at its front. -/
theorem Lexeme.munches_first (c : Char) (cs : List Char) :
    Munches (c :: cs) (first c cs).chars (first c cs).kind := by
  have hpre : (first c cs).chars <+: c :: cs := ⟨after c cs, first_append_after c cs⟩
  by_cases h : Form.ofChar c = .unknown
  · have hchars : (first c cs).chars = [c] := by
      rw [first, extent, h]
      cases cs <;> rfl
    have hkind : (first c cs).kind = .trivia := by
      rw [first, h]
      rfl
    rw [hchars] at hpre
    rw [hchars, hkind]
    refine .unknown hpre fun w k hw hle => ?_
    obtain ⟨c', u, rfl, hknown, -⟩ := hw.form
    obtain ⟨rfl, -⟩ := List.cons_prefix_cons.mp hle
    exact hknown h
  · refine .word (Form.word h cs) hpre fun w k hw hle => ?_
    obtain ⟨c', u, rfl, -, -, hlen⟩ := hw.form
    obtain ⟨rfl, hu⟩ := List.cons_prefix_cons.mp hle
    simpa [first, extent, Form.extent_le] using hlen cs hu

/-! ## Keywords -/

namespace Kind

/-- The keywords and their kinds. -/
inductive Keyword : String → Kind → Prop
  | true : Keyword "true" (bool true)
  | false : Keyword "false" (bool false)
  | nil : Keyword "nil" nil
  | and : Keyword "and" and
  | or : Keyword "or" or

/-- The keywords are the names that are looked up, with the kinds that are found. -/
theorem keyword?_eq_some_iff {n : String} {k : Kind} : keyword? n = some k ↔ Keyword n k := by
  constructor
  · intro h
    unfold keyword? at h
    split at h <;> cases h <;> constructor
  · intro h
    cases h <;> rfl

/-- The kinds that keywords have, and no other words. -/
def isKeyword : Kind → Bool
  | bool _ | nil | and | or => true
  | _ => false

theorem isKeyword_of_keyword? {n : String} {k : Kind} (h : keyword? n = some k) : k.isKeyword = true := by
  cases keyword?_eq_some_iff.mp h <;> rfl

/-- Keywords of one kind are the same. -/
theorem Keyword.eq {m n : String} {k : Kind} (h : Keyword m k) (h' : Keyword n k) : m = n := by
  cases h <;> cases h' <;> rfl

/-- Only names that are no keywords are identifiers, and they are their own. -/
theorem of_ofName_eq_identifier {s n : String} (h : ofName s = identifier n) : n = s ∧ keyword? n = none := by
  unfold ofName at h
  cases hs : keyword? s with
  | none =>
    rw [hs] at h
    obtain rfl := Kind.identifier.inj h
    exact ⟨rfl, hs⟩
  | some k =>
    rw [hs] at h
    obtain rfl : k = identifier n := h
    cases isKeyword_of_keyword? hs

/-- A name of the kind of a keyword is that keyword. -/
theorem eq_of_keyword?_ofName {s n : String} (h : keyword? n = some (ofName s)) : s = n := by
  unfold ofName at h
  cases hs : keyword? s with
  | none =>
    rw [hs] at h
    cases isKeyword_of_keyword? h
  | some k =>
    rw [hs, Option.getD_some] at h
    exact (keyword?_eq_some_iff.mp hs).eq (keyword?_eq_some_iff.mp h)

end Kind

/-! ## Numerals -/

namespace Numeral

variable {c : Char} {cs ds es : List Char}

theorem takeSign_of_isDigit (h : c.isDigit = true) : takeSign (c :: cs) = (false, c :: cs) := by
  unfold takeSign
  split
  · rename_i heq
    obtain ⟨rfl, -⟩ := List.cons.inj heq
    cases h
  · rename_i heq
    obtain ⟨rfl, -⟩ := List.cons.inj heq
    cases h
  · rfl

theorem readName?_of_isDigit (h : c.isDigit = true) : readName? (c :: cs) = none := by
  have hne : ∀ d ds, d.isDigit = false → String.ofList ((c :: cs).map Char.toLower) ≠ String.ofList (d :: ds) := by
    intro d ds hd heq
    rw [String.ofList_inj, List.map_cons, toLower_of_isDigit h] at heq
    obtain ⟨rfl, -⟩ := List.cons.inj heq
    exact absurd h (Bool.eq_false_iff.mp hd)
  unfold readName?
  split
  · rename_i heq
    exact absurd heq (hne 'i' ['n', 'f'] rfl)
  · rename_i heq
    exact absurd heq (hne 'i' ['n', 'f', 'i', 'n', 'i', 't', 'y'] rfl)
  · rename_i heq
    exact absurd heq (hne 'n' ['a', 'n'] rfl)
  · rfl

/-- A numeral that starts with a digit has no sign and is no name. -/
theorem read?_of_isDigit (h : c.isDigit = true) :
    read? (String.ofList (c :: cs)) = (readUnsigned? (c :: cs)).map Decimal.toFloat := by
  have hsign : takeSign (String.ofList (c :: cs)).toList = (false, c :: cs) := by
    rw [String.toList_ofList, takeSign_of_isDigit h]
  simp only [read?, hsign, readName?_of_isDigit h]
  cases readUnsigned? (c :: cs) <;> rfl

/-- A minus in front of a numeral that starts with a digit negates it. -/
theorem read?_minus (h : c.isDigit = true) :
    read? (String.ofList ('-' :: c :: cs)) = (read? (String.ofList (c :: cs))).map fun x => -x := by
  have hsign : takeSign (String.ofList ('-' :: c :: cs)).toList = (true, c :: cs) := by
    rw [String.toList_ofList]
    rfl
  rw [read?_of_isDigit h]
  simp only [read?, hsign, readName?_of_isDigit h]
  rfl

theorem readUnsigned?_whole (hne : ds ≠ []) (h : ∀ d ∈ ds, d.isDigit = true) :
    readUnsigned? ds = some (Decimal.ofParts ds []) := by
  have htake : ds.takeWhile Char.isDigit = ds := List.takeWhile_eq_self_iff.mpr h
  have hdrop : ds.dropWhile Char.isDigit = [] := List.dropWhile_eq_nil_iff.mpr h
  simp [readUnsigned?, htake, hdrop, hne, readExponent?]

theorem readUnsigned?_fraction (hne : ds ≠ []) (h : ∀ d ∈ ds, d.isDigit = true) (h' : ∀ e ∈ es, e.isDigit = true) :
    readUnsigned? (ds ++ '.' :: es) = some (Decimal.ofParts ds es) := by
  have htake : es.takeWhile Char.isDigit = es := List.takeWhile_eq_self_iff.mpr h'
  have hdrop : es.dropWhile Char.isDigit = [] := List.dropWhile_eq_nil_iff.mpr h'
  simp [readUnsigned?, Form.takeWhile_fraction h, Form.dropWhile_fraction h, htake, hdrop, hne, readExponent?]

end Numeral

/-! ## Meanings of words -/

/-- Digits, or digits, a point and more digits. -/
def Positional (cs : List Char) : Prop :=
  (cs ≠ [] ∧ ∀ c ∈ cs, c.isDigit = true) ∨
    ∃ ds es, cs = ds ++ '.' :: es ∧ (ds ≠ [] ∧ ∀ d ∈ ds, d.isDigit = true) ∧ (es ≠ [] ∧ ∀ e ∈ es, e.isDigit = true)

theorem Positional.exists_isDigit {cs : List Char} (h : Positional cs) :
    ∃ c u, cs = c :: u ∧ c.isDigit = true := by
  rcases h with ⟨hne, hds⟩ | ⟨ds, es, rfl, ⟨hne, hds⟩, -⟩
  · obtain ⟨c, u, rfl⟩ := List.exists_cons_of_ne_nil hne
    exact ⟨c, u, rfl, hds c List.mem_cons_self⟩
  · obtain ⟨c, u, rfl⟩ := List.exists_cons_of_ne_nil hne
    exact ⟨c, u ++ '.' :: es, rfl, hds c List.mem_cons_self⟩

theorem Kind.ofName_ne_number (s : String) (v : Float) : ofName s ≠ number v := by
  unfold ofName keyword?
  split <;> simp

namespace Word

/-- A word has one meaning. -/
theorem kind_eq {w : List Char} {k k' : Kind} (h : Word w k) (h' : Word w k') : k = k' := by
  obtain ⟨c, u, rfl, -, hk, -⟩ := h.form
  obtain ⟨c', u', hcons, -, hk', -⟩ := h'.form
  obtain ⟨rfl, -⟩ := List.cons.inj hcons
  rw [← hk, hk']

/-- An identifier carries its text, which is no keyword. -/
theorem of_identifier {w : List Char} {n : String} (h : Word w (.identifier n)) :
    n = String.ofList w ∧ Kind.keyword? n = none := by
  generalize hk : Kind.identifier n = k at h
  cases h with
  | name => exact Kind.of_ofName_eq_identifier hk.symm
  | _ => cases hk

/-- The kind of a keyword is that of a whole name. -/
theorem of_keyword {w : List Char} {k : Kind} (h : Word w k) {n : String} (hk : Kind.keyword? n = some k) :
    String.ofList w = n := by
  cases h with
  | name => exact Kind.eq_of_keyword?_ofName hk
  | _ => cases Kind.isKeyword_of_keyword? hk

/-- A number is a numeral, and has its value. -/
theorem read?_eq {w : List Char} {v : Float} (h : Word w (.number v)) : Numeral.read? (String.ofList w) = some v := by
  generalize hk : Kind.number v = k at h
  cases h with
  | @whole ds hne hds =>
    obtain rfl := Kind.number.inj hk
    obtain ⟨c, ds, rfl⟩ := List.exists_cons_of_ne_nil hne
    rw [Numeral.read?_of_isDigit (hds c List.mem_cons_self), Numeral.readUnsigned?_whole hne hds]
    rfl
  | @fraction ds es hne hds he hes =>
    obtain rfl := Kind.number.inj hk
    obtain ⟨c, ds, rfl⟩ := List.exists_cons_of_ne_nil hne
    rw [List.cons_append, Numeral.read?_of_isDigit (hds c List.mem_cons_self), ← List.cons_append,
      Numeral.readUnsigned?_fraction hne hds hes]
    rfl
  | name => exact absurd hk.symm (Kind.ofName_ne_number _ v)
  | _ => cases hk

/-- A number is positional. -/
theorem positional {w : List Char} {v : Float} (h : Word w (.number v)) : Positional w := by
  generalize hk : Kind.number v = k at h
  cases h with
  | whole hne hds => exact .inl ⟨hne, hds⟩
  | fraction hne hds he hes => exact .inr ⟨_, _, rfl, ⟨hne, hds⟩, he, hes⟩
  | name => exact absurd hk.symm (Kind.ofName_ne_number _ v)
  | _ => cases hk

/-- A minus in front of a number negates it. -/
theorem read?_minus {w : List Char} {v : Float} (h : Word w (.number v)) :
    Numeral.read? (String.ofList ('-' :: w)) = some (-v) := by
  obtain ⟨c, u, rfl, hc⟩ := h.positional.exists_isDigit
  rw [Numeral.read?_minus hc, h.read?_eq]
  rfl

/-- Keywords are words. -/
theorem keyword {n : String} {k : Kind} (h : Kind.keyword? n = some k) : Word n.toList k := by
  cases Kind.keyword?_eq_some_iff.mp h <;> exact .name (by decide) (List.all_eq_true.mp (by decide))

end Word

namespace Munches

variable {cs w : List Char} {k : Kind}

/-- What is a word is read as that word. -/
theorem kind_eq (h : Munches cs w k) {k' : Kind} (h' : Word w k') : k = k' := by
  cases h with
  | word hw => exact hw.kind_eq h'
  | unknown hpre none => exact absurd hpre (none _ _ h')

theorem of_identifier {n : String} (h : Munches cs w (.identifier n)) :
    n = String.ofList w ∧ Kind.keyword? n = none := by
  cases h with
  | word hw => exact hw.of_identifier

theorem of_keyword (h : Munches cs w k) {n : String} (hk : Kind.keyword? n = some k) : String.ofList w = n := by
  cases h with
  | word hw => exact hw.of_keyword hk
  | unknown => cases Kind.isKeyword_of_keyword? hk

/-- What starts with a digit is a number, and has the value of its numeral. -/
theorem of_isDigit {c : Char} {u : List Char} (h : Munches cs (c :: u) k) (hc : c.isDigit = true) :
    ∃ v, k = .number v ∧ Numeral.read? (String.ofList (c :: u)) = some v := by
  cases h with
  | word hw =>
    obtain ⟨c', u', hcons, -, hk, -⟩ := hw.form
    obtain ⟨rfl, -⟩ := List.cons.inj hcons
    rw [Form.ofChar_of_isDigit hc] at hk
    subst hk
    exact ⟨_, rfl, hw.read?_eq⟩
  | unknown hpre none => exact absurd hpre (none _ _ (.whole (List.cons_ne_nil c []) (by simpa using hc)))

end Munches

end Formula
