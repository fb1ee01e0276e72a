import Formula.Proofs.Token.Brackets
import Formula.Proofs.Token.Cut

/-!
# Interpolations are scanned as sources

Inside an interpolation parentheses are counted, and on the outermost level they are not. Still both find the same
tokens: those between the ends of an interpolation, at any depth, are those of the text between them as a source of its
own, and a source whose parentheses are balanced outside of its literals is found again inside an interpolation.

- `Lexeme.ReadsBody.readsOuter`: inside an interpolation is read what the outermost level reads there.
- `Lexeme.Interpolates`: each interpolation among some lexemes is a source of its own; `Lexeme.interpolates_split`.
- `Kind.outermost`: the tokens outside of all literals; `Lexeme.depthBehind_outermost_split`: they alone decide how deep
  in parentheses a source ends.
- `Token.scan_interpolation`: both directions about whole sources.
-/

namespace Formula

namespace Lexeme

/-! ## An interpolation as a source -/

mutual

/-- The interpolations of a literal match, -/
theorem ReadsLiteral.matched : ∀ {cs : List Char} {ls : List Lexeme} {r : List Char}, ReadsLiteral cs ls r →
    Kind.Matched .interpolationStart .interpolationEnd (ls.map (·.kind))
  | _, _, _, .close => Kind.matched_singleton nofun nofun
  | _, _, _, .text _ _ hl => hl.matched.cons nofun nofun
  | _, _, _, .interpolation hb hl => by
    have hboth := (hb.matched.enclose (by decide)).append hl.matched
    simpa [interpolationStart, interpolationEnd] using hboth

/-- and so do those within an interpolation. -/
theorem ReadsBody.matched : ∀ {d : Nat} {cs : List Char} {ls : List Lexeme} {r : List Char}, ReadsBody d cs ls r →
    Kind.Matched .interpolationStart .interpolationEnd (ls.map (·.kind))
  | _, _, _, _, .close => Kind.matched_nil _ _
  | _, _, _, _, .literal hl hb => by
    rw [List.map_append]
    exact (hl.matched.cons (k := stringStart.kind) nofun nofun).append hb.matched
  | _, _, _, _, @ReadsBody.other d c cs _ _ _ _ hb =>
    hb.matched.cons (kind_first_ne c cs rfl) (kind_first_ne c cs rfl)

/-- What is read inside an interpolation is what the outermost level reads in front of its end. -/
theorem ReadsBody.readsOuter : ∀ {d : Nat} {cs : List Char} {ls : List Lexeme} {r : List Char}, ReadsBody d cs ls r →
    ReadsOuter cs ls (')' :: r)
  | _, _, _, _, .close => .nil
  | _, _, _, _, .literal hl hb => .literal hl hb.readsOuter
  | _, _, _, _, .other _ hc hb => .other hc hb.readsOuter

end

/-- Each interpolation among the lexemes is closed, and holds what its text is split into. -/
def Interpolates : List Lexeme → Prop
  | [] => True
  | l :: ls =>
    (l.kind = .interpolationStart → l = interpolationStart ∧ ∃ inner rest, ls = inner ++ interpolationEnd :: rest ∧
      Kind.Matched .interpolationStart .interpolationEnd (inner.map (·.kind)) ∧ split (text inner) = inner) ∧
    Interpolates ls

namespace Interpolates

variable {l : Lexeme} {ls ls' : List Lexeme}

theorem cons (h : Interpolates ls) (hl : l.kind ≠ .interpolationStart) : Interpolates (l :: ls) :=
  ⟨fun hk => absurd hk hl, h⟩

theorem append (h : Interpolates ls) (h' : Interpolates ls') : Interpolates (ls ++ ls') := by
  induction ls with
  | nil => exact h'
  | cons l ls ih =>
    obtain ⟨hhead, htail⟩ := h
    refine ⟨fun hk => ?_, ih htail⟩
    obtain ⟨hl, inner, rest, rfl, hinner⟩ := hhead hk
    exact ⟨hl, inner, rest ++ ls', by simp, hinner⟩

theorem of_append (h : Interpolates (ls ++ ls')) : Interpolates ls' := by
  induction ls with
  | nil => exact h
  | cons l ls ih => exact ih h.2

end Interpolates

mutual

theorem ReadsLiteral.interpolates : ∀ {cs : List Char} {ls : List Lexeme} {r : List Char}, ReadsLiteral cs ls r →
    Interpolates ls
  | _, _, _, .close => Interpolates.cons trivial nofun
  | _, _, _, .text _ _ hl => hl.interpolates.cons nofun
  | _, _, _, .interpolation hb hl =>
    ⟨fun _ => ⟨rfl, _, _, rfl, hb.matched, hb.readsOuter.split_text⟩, hb.interpolates.append (hl.interpolates.cons nofun)⟩

theorem ReadsBody.interpolates : ∀ {d : Nat} {cs : List Char} {ls : List Lexeme} {r : List Char}, ReadsBody d cs ls r →
    Interpolates ls
  | _, _, _, _, .close => trivial
  | _, _, _, _, .literal hl hb => (hl.interpolates.append hb.interpolates).cons nofun
  | _, _, _, _, @ReadsBody.other d c cs _ _ _ _ hb =>
    hb.interpolates.cons (kind_first_ne c cs rfl)

end

/-- Each interpolation of a source is a source. -/
theorem interpolates_split (cs : List Char) : Interpolates (split cs) := by
  induction cs using split_induction with
  | nil =>
    rw [split_nil]
    trivial
  | literal cs ls r hl ih =>
    rw [split_literal hl.literal?]
    exact (hl.interpolates.append ih).cons nofun
  | unclosed cs hl =>
    rw [split_unclosed hl]
    exact Interpolates.cons trivial nofun
  | other c cs hc ih =>
    rw [split_other cs hc]
    exact ih.cons (kind_first_ne c cs rfl)

end Lexeme

/-! ## The tokens outside of all literals -/

namespace Kind

/-- The kinds outside of string literals, where so many literals are open. -/
def outermost : Nat → List Kind → List Kind
  | _, [] => []
  | d, stringStart :: ks => outermost (d + 1) ks
  | d, stringEnd :: ks => outermost (d - 1) ks
  | 0, k :: ks => k :: outermost 0 ks
  | d + 1, _ :: ks => outermost (d + 1) ks

section Outermost

variable {k : Kind} (d : Nat) (ks : List Kind)

@[simp] theorem outermost_stringStart : outermost d (stringStart :: ks) = outermost (d + 1) ks := by cases d <;> rfl

@[simp] theorem outermost_stringEnd : outermost d (stringEnd :: ks) = outermost (d - 1) ks := by cases d <;> rfl

theorem outermost_zero (h : k.standsAlone = true) : outermost 0 (k :: ks) = k :: outermost 0 ks := by
  rw [outermost]
  · exact ne_of_standsAlone h rfl
  · exact ne_of_standsAlone h rfl

/-- Inside a literal, only quotes matter. -/
theorem outermost_succ (h : k ≠ stringStart) (h' : k ≠ stringEnd) :
    outermost (d + 1) (k :: ks) = outermost (d + 1) ks := by
  rw [outermost]
  · exact h
  · exact h'

end Outermost

end Kind

namespace Lexeme

mutual

/-- Behind a literal, one less is open, -/
theorem ReadsLiteral.outermost : ∀ {cs : List Char} {ls : List Lexeme} {r : List Char}, ReadsLiteral cs ls r →
    ∀ d ks, Kind.outermost (d + 1) (ls.map (·.kind) ++ ks) = Kind.outermost d ks
  | _, _, _, .close, d, ks => Kind.outermost_stringEnd (d + 1) ks
  | _, _, _, @ReadsLiteral.text run _ _ _ _ _ hl, d, ks => by
    rw [List.map_cons, List.cons_append, Kind.outermost_succ (k := (plaintext run).kind) _ _ nofun nofun]
    exact hl.outermost d ks
  | _, _, _, @ReadsLiteral.interpolation cs mid inner ls r hb hl, d, ks => by
    have hkinds : (interpolationStart :: inner ++ interpolationEnd :: ls).map (·.kind) ++ ks =
        .interpolationStart :: (inner.map (·.kind) ++ .interpolationEnd :: (ls.map (·.kind) ++ ks)) := by
      simp [interpolationStart, interpolationEnd]
    rw [hkinds, Kind.outermost_succ (k := .interpolationStart) _ _ nofun nofun, hb.outermost,
      Kind.outermost_succ (k := .interpolationEnd) _ _ nofun nofun]
    exact hl.outermost d ks

/-- and behind an interpolation the literal around it still is. -/
theorem ReadsBody.outermost : ∀ {e : Nat} {cs : List Char} {ls : List Lexeme} {r : List Char}, ReadsBody e cs ls r →
    ∀ d ks, Kind.outermost (d + 1) (ls.map (·.kind) ++ ks) = Kind.outermost (d + 1) ks
  | _, _, _, _, .close, _, _ => rfl
  | _, _, _, _, @ReadsBody.literal e cs mid inner ls r hl hb, d, ks => by
    have hkinds : (stringStart :: inner ++ ls).map (·.kind) ++ ks =
        .stringStart :: (inner.map (·.kind) ++ (ls.map (·.kind) ++ ks)) := by
      simp [stringStart]
    rw [hkinds, Kind.outermost_stringStart, hl.outermost]
    exact hb.outermost d ks
  | _, _, _, _, @ReadsBody.other _ c cs _ _ _ _ hb, d, ks => by
    rw [List.map_cons, List.cons_append, Kind.outermost_succ _ _ (kind_first_ne c cs rfl) (kind_first_ne c cs rfl)]
    exact hb.outermost d ks

end

/-- The parentheses outside of all literals decide how deep in parentheses a source ends. -/
theorem depthBehind_outermost_split (cs : List Char) (d : Nat) :
    Kind.depthBehind d (Kind.outermost 0 ((split cs).map (·.kind))) =
      Kind.depthBehind d ((split cs).map (·.kind)) := by
  induction cs using split_induction generalizing d with
  | nil => rw [split_nil]; rfl
  | literal cs ls r hl ih =>
    have hskip : Kind.outermost 0 ((stringStart :: ls ++ split r).map (·.kind)) =
        Kind.outermost 0 ((split r).map (·.kind)) := by
      rw [List.map_append, List.map_cons, List.cons_append]
      exact (Kind.outermost_stringStart 0 _).trans (hl.outermost 0 _)
    rw [split_literal hl.literal?, hskip, ih, List.map_append, Kind.depthBehind_append,
      (balanced_stringStart hl.balanced).depthBehind]
    rfl
  | unclosed cs hl => rw [split_unclosed hl]; rfl
  | other c cs hc ih =>
    rw [split_other cs hc, List.map_cons, Kind.outermost_zero _ (standsAlone_first c cs)]
    -- the lexeme changes the depth of what follows alike
    have hcons : ∀ ks, Kind.depthBehind d ((first c cs).kind :: ks) =
        (Kind.depthBehind d [(first c cs).kind]).bind fun d' => Kind.depthBehind d' ks := fun ks =>
      Kind.depthBehind_append d [(first c cs).kind] ks
    rw [hcons, hcons ((split (after c cs)).map (·.kind))]
    exact congrArg _ (funext ih)

end Lexeme

namespace Token

variable {source : String} {pre mid post : List Token} {s e : Token}

/-! ## Tokens -/

/-- Between the ends of an interpolation are the lexemes of the text there. -/
theorem exists_of_scan_interpolation (h : scan source = pre ++ s :: (mid ++ e :: post))
    (hs : s.kind = .interpolationStart) (he : e.kind = .interpolationEnd)
    (hmid : Kind.Matched .interpolationStart .interpolationEnd (mid.map (·.kind))) :
    ∃ us inner rest o, Lexeme.split source.toList =
        us ++ Lexeme.interpolationStart :: (inner ++ Lexeme.interpolationEnd :: rest) ∧
      Lexeme.split (Lexeme.text inner) = inner ∧ s = ⟨.interpolationStart, "\\(", o⟩ ∧
      o = byteLength (Lexeme.text us) ∧ mid = place (o + 2) inner ∧
      e = ⟨.interpolationEnd, ")", o + 2 + byteLength (Lexeme.text inner)⟩ := by
  rcases cases_of_scan_eq h with ⟨-, rfl, -⟩ | ⟨us, l, vs, hsplit, rfl, rfl⟩
  · cases hs
  have hall : Lexeme.Interpolates (l :: vs) := (hsplit ▸ Lexeme.interpolates_split source.toList).of_append
  obtain ⟨rfl, inner, rest, rfl, hinner, htext⟩ := hall.1 hs
  -- both `mid` and `inner` reach up to the closing end that matches
  have hplace := place_interpolation (byteLength (Lexeme.text us)) inner rest
  rw [scan_eq_place, hsplit, place_append, Nat.zero_add, List.append_assoc, ← List.cons_append, hplace,
    List.cons_append, List.cons_append, List.append_assoc, List.cons_append] at h
  have hbehind := (List.cons.inj (List.append_cancel_left h)).2
  obtain ⟨hmid, he, -⟩ := Kind.Matched.eq_of_append_cons (by decide) (by rwa [kind_place]) hmid rfl he hbehind
  exact ⟨us, inner, rest, _, hsplit, htext, rfl, rfl, hmid.symm, he.symm⟩

/-- A source that may stand in an interpolation is found again there. -/
theorem split_interpolation {cs : List Char} (hc : ∀ l ∈ Lexeme.split cs, ¬ l.Unclosed)
    (hd : Kind.depthBehind 0 ((Lexeme.split cs).map (·.kind)) = some 0) :
    Lexeme.split ('"' :: '\\' :: '(' :: (cs ++ [')', '"'])) =
      Lexeme.stringStart :: (Lexeme.interpolationStart :: Lexeme.split cs ++
        Lexeme.interpolationEnd :: [Lexeme.stringEnd]) ++ [] := by
  have hread : Lexeme.ReadsLiteral ('\\' :: '(' :: (cs ++ ')' :: ['"'])) _ [] :=
    .interpolation (Lexeme.readsBody_split ['"'] hc hd) .close
  rw [Lexeme.split_literal hread.literal?, Lexeme.split_nil]

/-- **Interpolations are scanned as sources.** In every source, between an interpolation's start and the end that
matches it are the tokens of the text between them, without the end of the input, further on by what stands in front of
that text. Conversely, a text that holds no literal that is never closed, and whose parentheses outside of literals are
balanced, is found again, three bytes further on, in the literal that interpolates it. -/
theorem scan_interpolation :
    (∀ source pre s mid e post, scan source = pre ++ s :: (mid ++ e :: post) → s.kind = .interpolationStart →
      e.kind = .interpolationEnd → Kind.Matched .interpolationStart .interpolationEnd (mid.map (·.kind)) →
      ∃ a b c : String, source = a ++ b ++ c ∧ a.utf8ByteSize = s.offset + s.lexeme.utf8ByteSize ∧
        a.utf8ByteSize + b.utf8ByteSize = e.offset ∧ mid = (scan b).dropLast.map (shift a.utf8ByteSize)) ∧
    ∀ b : String, (∀ t ∈ scan b, ¬ t.Unclosed) →
      Kind.Balanced (Kind.outermost 0 ((scan b).dropLast.map (·.kind))) →
      scan ("\"\\(" ++ b ++ ")\"") =
        ⟨.stringStart, "\"", 0⟩ :: ⟨.interpolationStart, "\\(", 1⟩ :: (scan b).dropLast.map (shift 3) ++
          [⟨.interpolationEnd, ")", 3 + b.utf8ByteSize⟩, ⟨.stringEnd, "\"", 4 + b.utf8ByteSize⟩,
            ⟨.eof, "", 5 + b.utf8ByteSize⟩] := by
  constructor
  · intro source pre s mid e post h hs he hmid
    obtain ⟨us, inner, rest, o, hsplit, htext, rfl, rfl, rfl, rfl⟩ := exists_of_scan_interpolation h hs he hmid
    have hsource : source.toList =
        (Lexeme.text us ++ ['\\', '(']) ++ Lexeme.text inner ++ (')' :: Lexeme.text rest) := by
      rw [← Lexeme.text_split source.toList, hsplit]
      simp [Lexeme.interpolationStart, Lexeme.interpolationEnd]
    have hfront : (String.ofList (Lexeme.text us ++ ['\\', '('])).utf8ByteSize = byteLength (Lexeme.text us) + 2 := by
      rw [← byteLength_eq_utf8ByteSize, byteLength_append]
      rfl
    refine ⟨String.ofList (Lexeme.text us ++ ['\\', '(']), String.ofList (Lexeme.text inner),
      String.ofList (')' :: Lexeme.text rest), ?_, hfront, ?_, ?_⟩
    · rw [← String.toList_inj, hsource]
      simp
    · rw [hfront, ← byteLength_eq_utf8ByteSize]
    · rw [dropLast_scan, String.toList_ofList, htext, hfront, ← place_add, Nat.zero_add]
  · intro b hc hbalanced
    rw [dropLast_scan, kind_place, Kind.balanced_iff, Lexeme.depthBehind_outermost_split] at hbalanced
    have hlist : ("\"\\(" ++ b ++ ")\"").toList = '"' :: '\\' :: '(' :: (b.toList ++ [')', '"']) := by simp
    have hsize : ("\"\\(" ++ b ++ ")\"").utf8ByteSize = 5 + b.utf8ByteSize := by
      rw [String.utf8ByteSize_append, String.utf8ByteSize_append]
      have hfront : "\"\\(".utf8ByteSize = 3 := rfl
      have hback : ")\"".utf8ByteSize = 2 := rfl
      omega
    rw [scan_eq_place, hsize, hlist, split_interpolation ((not_unclosed_scan_iff b).mp hc) hbalanced, place_literal,
      place_interpolation, Lexeme.text_split, byteLength_toList, dropLast_scan, ← place_add]
    simp [place, Lexeme.stringEnd]
    omega

/-- Parentheses in an interpolation in an interpolation: found again in each, and the tokens of a source in the inner
one. -/
theorem scan_interpolation_nested :
    scan "\"\\(\"\\(())\")\"" = [⟨.stringStart, "\"", 0⟩, ⟨.interpolationStart, "\\(", 1⟩, ⟨.stringStart, "\"", 3⟩] ++
      ⟨.interpolationStart, "\\(", 4⟩ :: ([⟨.symbol .leftParen, "(", 6⟩, ⟨.symbol .rightParen, ")", 7⟩] ++
        ⟨.interpolationEnd, ")", 8⟩ :: [⟨.stringEnd, "\"", 9⟩, ⟨.interpolationEnd, ")", 10⟩, ⟨.stringEnd, "\"", 11⟩,
          ⟨.eof, "", 12⟩]) ∧
    ∃ a b c : String, "\"\\(\"\\(())\")\"" = a ++ b ++ c ∧ a.utf8ByteSize = 6 ∧ a.utf8ByteSize + b.utf8ByteSize = 8 ∧
      [⟨.symbol .leftParen, "(", 6⟩, ⟨.symbol .rightParen, ")", 7⟩] = (scan b).dropLast.map (shift a.utf8ByteSize) := by
  obtain ⟨hinside, hagain⟩ := scan_interpolation
  have hparens : scan "()" = [⟨.symbol .leftParen, "(", 0⟩, ⟨.symbol .rightParen, ")", 1⟩, ⟨.eof, "", 2⟩] := by
    have hsplit : Lexeme.split ['(', ')'] = [⟨.symbol .leftParen, ['(']⟩, ⟨.symbol .rightParen, [')']⟩] := by
      rw [Lexeme.split_other _ (by decide), Lexeme.first_leftParen, Lexeme.after_leftParen,
        Lexeme.split_other _ (by decide), Lexeme.first_rightParen, Lexeme.after_rightParen, Lexeme.split_nil]
    rw [scan, show "()".toList = ['(', ')'] from rfl, hsplit]
    rfl
  have hinner := hagain "()" (by rw [hparens]; simp [Unclosed]) (by rw [hparens, Kind.balanced_iff]; rfl)
  have houter := hagain ("\"\\(" ++ "()" ++ ")\"") (by rw [hinner, hparens]; simp [Unclosed, shift])
    (by rw [hinner, hparens, Kind.balanced_iff]; rfl)
  rw [hinner, hparens] at houter
  have hright : Kind.Matched .interpolationStart .interpolationEnd [.symbol .rightParen] :=
    Kind.matched_singleton (by simp) (by simp)
  have hmatched := hright.cons (k := .symbol .leftParen) (by simp) (by simp)
  refine ⟨houter, ?_⟩
  exact hinside _ [⟨.stringStart, "\"", 0⟩, ⟨.interpolationStart, "\\(", 1⟩, ⟨.stringStart, "\"", 3⟩] _
    [⟨.symbol .leftParen, "(", 6⟩, ⟨.symbol .rightParen, ")", 7⟩] ⟨.interpolationEnd, ")", 8⟩ _ houter rfl rfl hmatched

end Token

end Formula
