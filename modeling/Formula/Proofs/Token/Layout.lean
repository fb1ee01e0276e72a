import Mathlib.Data.List.Basic
import Mathlib.Data.List.TakeWhile
import Formula.Expr.Parse
import Formula.Proofs.Lexeme.Written
import Formula.Proofs.Token.Partition

/-!
# Layout between lexemes

The grammar does not see blanks and line ends, and no other lexeme goes on with one. So where a lexeme ends outside the
text of a string literal, layout may be inserted: the grammar sees what it saw, and only what stands behind moves.

- `Token.seen`: what the grammar sees of some lexemes.
- `Lexeme.Spaced`: some lexemes are others with layout between them.
- `Lexeme.ReadsBody.append_layout`, `Lexeme.seen_split_append_layout`: layout in front of an interpolation and of a
  source.
- `Lexeme.ReadsLiteral.insert`, `Lexeme.ReadsBody.insert`, `Lexeme.exists_spaced_split`: layout within a literal, an
  interpolation and a source.
-/

namespace Formula

/-! ## Layout -/

/-- Blanks and line ends. -/
def isLayout (c : Char) : Bool := isBlank c || c = '\n'

/-- Layout may stand in front of the token: it is not in the text of a string literal. -/
def Kind.admitsLayout : Kind → Bool
  | plaintext _ | interpolationStart | stringEnd => false
  | _ => true

theorem cases_isLayout {c : Char} (h : isLayout c = true) : isBlank c = true ∨ c = '\n' := by
  simpa [isLayout] using h

theorem eq_of_isBlank {c : Char} (h : isBlank c = true) : c = ' ' ∨ c = '\t' ∨ c = '\r' ∨ c = '\x0c' := by
  simpa [isBlank, or_assoc] using h

theorem eq_of_isLayout {c : Char} (h : isLayout c = true) :
    c = ' ' ∨ c = '\t' ∨ c = '\r' ∨ c = '\x0c' ∨ c = '\n' := by
  simpa [isLayout, isBlank, or_assoc] using h

namespace Form

theorem ofChar_of_isBlank {c : Char} (h : isBlank c = true) : ofChar c = blank := by
  rcases eq_of_isBlank h with rfl | rfl | rfl | rfl <;> decide

theorem ofChar_newline : ofChar '\n' = newline := by decide

theorem ne_blank_of_not_isBlank {c : Char} (h : isBlank c = false) : ofChar c ≠ blank := by
  unfold ofChar
  rw [h]
  split
  · exact nofun
  split
  · exact nofun
  rw [if_neg Bool.false_ne_true]
  split
  · exact nofun
  split
  · exact nofun
  split <;> exact nofun

/-- Only blanks go on with layout. -/
theorem stopsAt_of_isLayout {f : Form} (hf : f ≠ blank) {c : Char} (h : isLayout c = true) : f.StopsAt c := by
  cases f with
  | blank => exact absurd rfl hf
  | number => rcases eq_of_isLayout h with rfl | rfl | rfl | rfl | rfl <;> exact ⟨rfl, by decide⟩
  | name =>
    have hname : isNameChar c = false := by
      rcases eq_of_isLayout h with rfl | rfl | rfl | rfl | rfl <;> decide
    exact hname
  | symbol s =>
    have hs : s.extend? c = none := by
      rcases eq_of_isLayout h with rfl | rfl | rfl | rfl | rfl <;> cases s <;> rfl
    exact hs
  | newline | backslash | unknown => trivial

end Form

namespace Lexeme

/-! ## Lexemes of layout -/

section First

variable {c : Char} (cs : List Char)

theorem after_of_isBlank (h : isBlank c = true) : after c cs = cs.dropWhile isBlank := by
  have hsplit : cs.takeWhile isBlank ++ cs.dropWhile isBlank = cs := List.takeWhile_append_dropWhile
  have hext : extent c cs = (cs.takeWhile isBlank).length := by rw [extent, Form.ofChar_of_isBlank h, Form.extent]
  calc after c cs = (cs.takeWhile isBlank ++ cs.dropWhile isBlank).drop (cs.takeWhile isBlank).length := by
        rw [hsplit, after, hext]
    _ = cs.dropWhile isBlank := List.drop_left

theorem chars_first_of_isBlank (h : isBlank c = true) : (first c cs).chars = c :: cs.takeWhile isBlank := by
  have hall : (first c cs).chars ++ cs.dropWhile isBlank = (c :: cs.takeWhile isBlank) ++ cs.dropWhile isBlank := by
    rw [← after_of_isBlank cs h, first_append_after, List.cons_append, after_of_isBlank cs h,
      List.takeWhile_append_dropWhile]
  exact List.append_cancel_right hall

/-- A line end is a lexeme of its own. -/
theorem extent_newline : extent '\n' cs = 0 := by
  rw [extent, Form.ofChar_newline]
  cases cs <;> rfl

/-- A character of layout is a lexeme, or goes on with the layout behind it. -/
theorem cases_first_of_isLayout (h : isLayout c = true) :
    (first c cs).chars = [c] ∧ after c cs = cs ∨
      ∃ d ds, cs = d :: ds ∧ isLayout d = true ∧
        (first c cs).chars = c :: (first d ds).chars ∧ after c cs = after d ds := by
  rcases cases_isLayout h with hb | rfl
  · rw [after_of_isBlank cs hb, chars_first_of_isBlank cs hb]
    cases cs with
    | nil => exact .inl ⟨rfl, rfl⟩
    | cons d ds =>
      by_cases hd : isBlank d = true
      · refine .inr ⟨d, ds, rfl, by simp [isLayout, hd], ?_, ?_⟩
        · rw [chars_first_of_isBlank ds hd, List.takeWhile_cons_of_pos hd]
        · rw [after_of_isBlank ds hd, List.dropWhile_cons_of_pos hd]
      · exact .inl ⟨by rw [List.takeWhile_cons_of_neg hd], by rw [List.dropWhile_cons_of_neg hd]⟩
  · exact .inl ⟨by simp [first, extent_newline], by simp [after, extent_newline]⟩

/-- The grammar does not see layout. -/
theorem not_isSignificant_first (h : isLayout c = true) : (first c cs).kind.isSignificant = false := by
  rcases cases_isLayout h with hb | rfl
  · simp [first, Form.ofChar_of_isBlank hb, Form.kind, Kind.isSignificant]
  · simp [first, Form.ofChar_newline, Form.kind, Kind.isSignificant]

/-- A lexeme that starts with layout is layout. -/
theorem isLayout_of_mem_first (h : isLayout c = true) : ∀ d ∈ (first c cs).chars, isLayout d = true := by
  intro d hd
  rcases cases_isLayout h with hb | rfl
  · rw [chars_first_of_isBlank cs hb] at hd
    rcases List.mem_cons.mp hd with rfl | hd
    · exact h
    · have hblank : isBlank d = true := List.mem_takeWhile_imp hd
      simp [isLayout, hblank]
  · have hnewline : d = '\n' := by simpa [first, extent_newline] using hd
    rwa [hnewline]

end First

/-- A quote is no layout, -/
theorem ne_quote_of_isLayout {c : Char} (h : isLayout c = true) : c ≠ '"' := by
  rintro rfl
  revert h
  decide

/-- and neither are parentheses. -/
theorem ne_paren_of_isLayout {c : Char} (h : isLayout c = true) : c ≠ '(' ∧ c ≠ ')' := by
  constructor <;> rintro rfl <;> revert h <;> decide

theorem depthAfter_of_isLayout {c : Char} (h : isLayout c = true) (d : Nat) : depthAfter d c = d := by
  obtain ⟨hopen, hclose⟩ := ne_paren_of_isLayout h
  rw [depthAfter, if_neg hopen, if_neg hclose]

end Lexeme

/-! ## What the grammar sees -/

namespace Token

/-- What the grammar sees of some lexemes from the given offset on. -/
def seen (offset : Nat) (ls : List Lexeme) : List Token := Expr.significant (place offset ls)

section Seen

variable (offset : Nat) {l : Lexeme} (ls ls' : List Lexeme)

theorem seen_append :
    seen offset (ls ++ ls') = seen offset ls ++ seen (offset + byteLength (Lexeme.text ls)) ls' := by
  rw [seen, place_append, Expr.significant_append]
  rfl

theorem seen_cons_inert (h : l.kind.isSignificant = false) :
    seen offset (l :: ls) = seen (offset + byteLength l.chars) ls := Expr.significant_cons_inert h

end Seen

end Token

namespace Lexeme

open Token

/-! ## Layout in front -/

section Front

variable {c : Char} {cs : List Char}

/-- A character of layout in front of an interpolation is not seen. -/
theorem ReadsBody.cons_layout {d : Nat} {ls : List Lexeme} {r : List Char} (hb : ReadsBody d cs ls r)
    (hc : isLayout c = true) :
    ∃ ls', ReadsBody d (c :: cs) ls' r ∧ ∀ o, seen o ls' = seen (o + c.utf8Size) ls := by
  have hopen : ∀ e : Char, isLayout e = true → ¬(e = ')' ∧ d = 0) := fun e he h => (ne_paren_of_isLayout he).2 h.1
  have hquote := ne_quote_of_isLayout hc
  rcases cases_first_of_isLayout cs hc with ⟨hchars, hafter⟩ | ⟨e, es, rfl, he, hchars, hafter⟩
  · refine ⟨first c cs :: ls, .other (hopen c hc) hquote ?_, fun o => ?_⟩
    · rwa [depthAfter_of_isLayout hc, hafter]
    · rw [seen_cons_inert _ _ (not_isSignificant_first cs hc), hchars]
      simp
  · cases hb with
    | close => exact absurd rfl (ne_paren_of_isLayout he).2
    | literal => exact absurd rfl (ne_quote_of_isLayout he)
    | @other _ _ _ ls _ _ _ hb =>
      refine ⟨first c (e :: es) :: ls, .other (hopen c hc) hquote ?_, fun o => ?_⟩
      · rw [depthAfter_of_isLayout hc, hafter]
        rwa [depthAfter_of_isLayout he] at hb
      · rw [seen_cons_inert _ _ (not_isSignificant_first _ hc), seen_cons_inert _ _ (not_isSignificant_first _ he),
          hchars, byteLength_cons, Nat.add_assoc]

/-- A character of layout in front of a source is not seen. -/
theorem seen_split_cons_layout (hc : isLayout c = true) (o : Nat) :
    seen o (split (c :: cs)) = seen (o + c.utf8Size) (split cs) := by
  rw [split_other _ (ne_quote_of_isLayout hc), seen_cons_inert _ _ (not_isSignificant_first cs hc)]
  rcases cases_first_of_isLayout cs hc with ⟨hchars, hafter⟩ | ⟨e, es, rfl, he, hchars, hafter⟩
  · rw [hchars, hafter]
    simp
  · rw [split_other _ (ne_quote_of_isLayout he), seen_cons_inert _ _ (not_isSignificant_first es he), hchars, hafter,
      byteLength_cons, Nat.add_assoc]

variable {w : List Char} (hw : ∀ c ∈ w, isLayout c = true)

include hw

/-- Layout in front of an interpolation is not seen. -/
theorem ReadsBody.append_layout {d : Nat} {ls : List Lexeme} {r : List Char} (hb : ReadsBody d cs ls r) :
    ∃ ls', ReadsBody d (w ++ cs) ls' r ∧ ∀ o, seen o ls' = seen (o + byteLength w) ls := by
  induction w with
  | nil => exact ⟨ls, hb, fun o => rfl⟩
  | cons c w ih =>
    obtain ⟨hc, hw⟩ := List.forall_mem_cons.mp hw
    obtain ⟨ls', hb', hseen'⟩ := ih hw
    obtain ⟨ls'', hb'', hseen''⟩ := hb'.cons_layout hc
    refine ⟨ls'', hb'', fun o => ?_⟩
    rw [hseen'', hseen', byteLength_cons, Nat.add_assoc]

/-- Layout in front of a source is not seen. -/
theorem seen_split_append_layout (o : Nat) : seen o (split (w ++ cs)) = seen (o + byteLength w) (split cs) := by
  induction w generalizing o with
  | nil => rfl
  | cons c w ih =>
    obtain ⟨hc, hw⟩ := List.forall_mem_cons.mp hw
    rw [List.cons_append, seen_split_cons_layout hc, ih hw, byteLength_cons, Nat.add_assoc]

end Front

/-! ## Layout between -/

/-- The lexemes are others with `w` between them, as far as the grammar sees. -/
structure Spaced (w : List Char) (pre post ls : List Lexeme) : Prop where
  text_eq : text ls = text pre ++ (w ++ text post)
  seen_eq : ∀ o, seen o ls = seen o pre ++ seen (o + byteLength (text pre) + byteLength w) post

/-- Layout may stand in front of the lexemes, or of what follows if there are none. -/
def AdmitLayout (ls : List Lexeme) : Prop := ∀ l ∈ ls.head?, l.kind.admitsLayout = true

section Between

variable {w : List Char} {pre post ls : List Lexeme}

/-- More lexemes on both sides. -/
theorem Spaced.append (h : Spaced w pre post ls) (us vs : List Lexeme) :
    Spaced w (us ++ pre) (post ++ vs) (us ++ ls ++ vs) where
  text_eq := by simp [h.text_eq]
  seen_eq o := by
    have hlen : o + byteLength (text (us ++ ls)) =
        o + byteLength (text us) + byteLength (text pre) + byteLength w + byteLength (text post) := by
      simp [h.text_eq, Nat.add_assoc]
    rw [seen_append, seen_append, h.seen_eq, seen_append _ us pre, seen_append _ post vs, hlen, text_append,
      byteLength_append]
    simp only [List.append_assoc, Nat.add_assoc]

/-- Lexemes of the same text in which the grammar sees the same. -/
theorem Spaced.congr (h : Spaced w pre post ls) {ls' : List Lexeme} (htext : text ls' = text ls)
    (hseen : ∀ o, seen o ls' = seen o ls) : Spaced w pre post ls' where
  text_eq := htext.trans h.text_eq
  seen_eq o := (hseen o).trans (h.seen_eq o)

end Between

/-- The first lexeme of a literal is in its text. -/
theorem ReadsLiteral.not_admitLayout {cs : List Char} {ls : List Lexeme} {r : List Char} (h : ReadsLiteral cs ls r) :
    ¬ AdmitLayout ls := by
  obtain _ | _ | _ := h <;> simp [AdmitLayout, stringEnd, plaintext, interpolationStart, Kind.admitsLayout]

/-- Layout may stand somewhere in a literal and what follows it: within the literal, or behind it. -/
theorem cases_append {us vs pre post : List Lexeme} (h : us ++ vs = pre ++ post) (hpost : AdmitLayout post) :
    (∃ mid, pre = us ++ mid ∧ vs = mid ++ post) ∨
      ∃ mid, us = pre ++ mid ∧ mid ≠ [] ∧ AdmitLayout mid ∧ post = mid ++ vs := by
  rcases List.append_eq_append_iff.mp h with ⟨mid, rfl, rfl⟩ | ⟨mid, rfl, rfl⟩
  · exact .inl ⟨mid, rfl, rfl⟩
  · cases mid with
    | nil => exact .inl ⟨[], by simp, rfl⟩
    | cons l mid => exact .inr ⟨l :: mid, rfl, nofun, hpost, rfl⟩

/-- Layout may stand somewhere in an interpolation and the literal behind it: within the interpolation, at its end too,
or behind it. -/
theorem cases_append_cons {us vs pre post : List Lexeme} {v : Lexeme} (h : us ++ v :: vs = pre ++ post)
    (hpost : AdmitLayout post) :
    (∃ mid, pre = us ++ v :: mid ∧ vs = mid ++ post) ∨
      ∃ mid, us = pre ++ mid ∧ AdmitLayout mid ∧ post = mid ++ v :: vs := by
  rcases cases_append h hpost with ⟨mid, rfl, hvs⟩ | ⟨mid, hus, -, hmid, hpost'⟩
  · cases mid with
    | nil => exact .inr ⟨[], by simp, by simp [AdmitLayout], hvs.symm⟩
    | cons l mid =>
      obtain ⟨rfl, rfl⟩ := List.cons.inj hvs
      exact .inl ⟨mid, rfl, rfl⟩
  · exact .inr ⟨mid, hus, hmid, hpost'⟩

section Insert

variable {w : List Char} (hw : ∀ c ∈ w, isLayout c = true) (hne : w ≠ [])

include hw

/-- Layout in front of an interpolation, before whatever follows it. -/
theorem ReadsBody.exists_spaced {d : Nat} {cs : List Char} {ls : List Lexeme} {r : List Char}
    (hb : ReadsBody d cs ls r) :
    ∃ ls', Spaced w [] ls ls' ∧ ∀ x, ReadsBody d (text ls' ++ ')' :: x) ls' x := by
  obtain ⟨ls', hb', hseen⟩ := hb.append_layout hw
  have htext : text ls' ++ ')' :: r = (w ++ text ls) ++ ')' :: r := by
    rw [hb'.text_append, ← hb.text_append, List.append_assoc]
  exact ⟨ls', ⟨List.append_cancel_right htext, hseen⟩, hb'.before⟩

include hne

/-- A lexeme that is no layout is the same in front of layout. -/
theorem exists_first_spaced {c : Char} {cs : List Char} (hc : isLayout c = false) {pre post ls : List Lexeme}
    {x : List Char} (h : after c cs = text pre ++ x) (hs : Spaced w pre post ls) (y : List Char) :
    ∃ ds, (first c cs).chars ++ (text ls ++ y) = c :: ds ∧ first c ds = first c cs ∧ after c ds = text ls ++ y := by
  obtain ⟨e, w, rfl⟩ := List.exists_cons_of_ne_nil hne
  have hblank : isBlank c = false := (Bool.or_eq_false_iff.mp hc).1
  have hstops := Form.stopsAt_of_isLayout (Form.ne_blank_of_not_isBlank hblank) (hw e List.mem_cons_self)
  have htext : text ls ++ y = text pre ++ e :: (w ++ (text post ++ y)) := by simp [hs.text_eq]
  rw [htext]
  exact exists_first_append hstops h _

end Insert

mutual

/-- Layout may be inserted in a literal, outside its text. -/
theorem ReadsLiteral.insert {w : List Char} (hw : ∀ c ∈ w, isLayout c = true) (hne : w ≠ []) :
    ∀ {cs : List Char} {ls : List Lexeme} {r : List Char}, ReadsLiteral cs ls r →
      ∀ {pre post : List Lexeme}, ls = pre ++ post → post ≠ [] → AdmitLayout post →
        ∃ ls', Spaced w pre post ls' ∧ ∀ x, ReadsLiteral (Lexeme.text ls' ++ x) ls' x
  | _, _, _, hl, [], post, h, _, hpost => by
    rw [List.nil_append] at h
    exact absurd (h ▸ hpost) hl.not_admitLayout
  | _, _, _, .close, _ :: pre, post, h, hpost', _ => by
    simp [hpost'] at h
  | _, _, _, @ReadsLiteral.text run cs ls r hrun hext hl, _ :: pre, post, h, hpost', hpost => by
    rw [List.cons_append] at h
    obtain ⟨rfl, hls⟩ := List.cons.inj h
    obtain ⟨ls', hs, hread⟩ := hl.insert hw hne hls hpost' hpost
    refine ⟨plaintext run :: ls', by simpa using hs.append [plaintext run] [], fun x => ?_⟩
    -- the layout does not come right behind the run, so the run ends where it did
    have hnext : PlainText.extent (Lexeme.text ls' ++ x) = 0 := by
      cases pre with
      | nil => exact absurd (hls ▸ hpost) hl.not_admitLayout
      | cons l pre =>
        subst hls
        rw [hs.text_eq, text_cons, List.append_assoc, List.append_assoc]
        exact hl.extent_head (PlainText.extent_of_run hext) _
    rw [text_cons, List.append_assoc]
    exact .text hrun (PlainText.extent_append_of_ends hl.ne_nil hext hnext) (hread x)
  | _, _, _, @ReadsLiteral.interpolation cs mid inner ls r hb hl, _ :: pre, post, h, hpost', hpost => by
    rw [List.cons_append, List.cons_append] at h
    obtain ⟨rfl, hinner⟩ := List.cons.inj h
    rcases cases_append_cons hinner hpost with ⟨mid, rfl, hls⟩ | ⟨mid, hmid, hadmit, rfl⟩
    · obtain ⟨ls', hs, hread⟩ := hl.insert hw hne hls hpost' hpost
      refine ⟨interpolationStart :: inner ++ interpolationEnd :: ls', ?_, readsLiteral_interpolation hb.before hread⟩
      simpa using hs.append (interpolationStart :: inner ++ [interpolationEnd]) []
    · obtain ⟨ls', hs, hread⟩ := hb.insert hw hne hmid hadmit
      exact ⟨interpolationStart :: ls' ++ interpolationEnd :: ls, hs.append [interpolationStart] _,
        readsLiteral_interpolation hread hl.before⟩

/-- Layout may be inserted in an interpolation, outside the texts in it. -/
theorem ReadsBody.insert {w : List Char} (hw : ∀ c ∈ w, isLayout c = true) (hne : w ≠ []) :
    ∀ {d : Nat} {cs : List Char} {ls : List Lexeme} {r : List Char}, ReadsBody d cs ls r →
      ∀ {pre post : List Lexeme}, ls = pre ++ post → AdmitLayout post →
        ∃ ls', Spaced w pre post ls' ∧ ∀ x, ReadsBody d (Lexeme.text ls' ++ ')' :: x) ls' x
  | _, _, _, _, hb, [], _, h, _ => by
    rw [List.nil_append] at h
    exact h ▸ hb.exists_spaced hw
  | _, _, _, _, .close, _ :: _, _, h, _ => by cases h
  | _, _, _, _, @ReadsBody.literal d cs mid inner ls r hl hb, _ :: pre, post, h, hpost => by
    rw [List.cons_append, List.cons_append] at h
    obtain ⟨rfl, hinner⟩ := List.cons.inj h
    rcases cases_append hinner hpost with ⟨mid, rfl, hls⟩ | ⟨mid, hmid, hmid', hadmit, rfl⟩
    · obtain ⟨ls', hs, hread⟩ := hb.insert hw hne hls hpost
      refine ⟨stringStart :: inner ++ ls', ?_, readsBody_literal hl.before hread⟩
      simpa using hs.append (stringStart :: inner) []
    · obtain ⟨ls', hs, hread⟩ := hl.insert hw hne hmid hmid' hadmit
      exact ⟨stringStart :: ls' ++ ls, hs.append [stringStart] ls, readsBody_literal hread hb.before⟩
  | _, _, _, _, @ReadsBody.other d c cs ls r hopen hquote hb, _ :: pre, post, h, hpost => by
    rw [List.cons_append] at h
    obtain ⟨rfl, hls⟩ := List.cons.inj h
    obtain ⟨ls', hs, hread⟩ := hb.insert hw hne hls hpost
    have hcons : Spaced w (first c cs :: pre) post (first c cs :: ls') := by
      simpa using hs.append [first c cs] []
    by_cases hc : isLayout c = true
    · -- the lexeme may go on with the layout behind it
      have hbody := hread []
      rw [depthAfter_of_isLayout hc] at hbody
      obtain ⟨ls'', hb'', hseen⟩ := hbody.append_layout (isLayout_of_mem_first cs hc)
      refine ⟨ls'', hcons.congr ?_ fun o => ?_, hb''.before⟩
      · have htext := hb''.text_append
        rw [← List.append_assoc] at htext
        exact List.append_cancel_right htext
      · rw [hseen, seen_cons_inert _ _ (not_isSignificant_first cs hc)]
    · have hafter : after c cs = Lexeme.text pre ++ (Lexeme.text post ++ ')' :: r) := by
        rw [← hb.text_append, hls, text_append, List.append_assoc]
      refine ⟨first c cs :: ls', hcons, fun x => ?_⟩
      obtain ⟨ds, hds, hfirst, hrest⟩ := exists_first_spaced hw hne (Bool.eq_false_iff.mpr hc) hafter hs (')' :: x)
      rw [text_cons, List.append_assoc, hds, ← hfirst]
      exact .other hopen hquote (hrest ▸ hread x)

end

/-! ## Layout in a source -/

/-- The text of a literal ends with its closing quote. -/
theorem ReadsLiteral.exists_text_eq {cs : List Char} {ls : List Lexeme} {r : List Char} (h : ReadsLiteral cs ls r) :
    ∃ ps, Lexeme.text ls = ps ++ ['"'] := by
  obtain ⟨ps, -, hcs⟩ := h.written
  have htext : Lexeme.text ls ++ r = ps ++ ['"'] ++ r := by
    rw [h.text_append, hcs, List.append_assoc, List.singleton_append]
  exact ⟨ps, List.append_cancel_right htext⟩

/-- Without another quote, a literal that is never closed is still not closed. -/
theorem literal?_append_eq_none {cs w : List Char} (h : literal? cs = none) (hw : '"' ∉ w) :
    literal? (cs ++ w) = none := by
  rw [Option.eq_none_iff_forall_ne_some]
  rintro ⟨ls, r⟩ hread
  have hl := literal?_eq_some_iff.mp hread
  have hclosed : ∀ x, cs ≠ text ls ++ x := by
    rintro x rfl
    rw [(hl.before x).literal?] at h
    cases h
  rcases List.append_eq_append_iff.mp hl.text_append with ⟨mid, hcs, -⟩ | ⟨mid, htext, hmid⟩
  · exact hclosed mid hcs
  · -- the closing quote is not in `w`, so the literal ends within `cs`
    by_cases hnil : mid = []
    · exact hclosed [] (by simp [htext, hnil])
    · obtain ⟨ps, hps⟩ := hl.exists_text_eq
      have hlast : (cs ++ mid).getLast? = some '"' := by
        rw [← htext, hps, List.getLast?_concat]
      rw [List.getLast?_append_of_ne_nil cs hnil] at hlast
      refine hw ?_
      rw [hmid]
      exact List.mem_append_left _ (List.mem_of_getLast? hlast)

section Split

variable {w : List Char} (hw : ∀ c ∈ w, isLayout c = true)

include hw

/-- Layout in front of a source. -/
theorem exists_spaced_split_nil {cs : List Char} {ls : List Lexeme} (h : split cs = [] ++ ls) :
    ∃ ls', Spaced w [] ls ls' ∧ split (text ls') = ls' := by
  obtain rfl : split cs = ls := h
  exact ⟨split (w ++ cs), ⟨by simp [text_split], fun o => seen_split_append_layout hw o⟩, by rw [text_split]⟩

/-- Layout may be inserted in a source, outside the texts in it. -/
theorem exists_spaced_split (hne : w ≠ []) (cs : List Char) {pre post : List Lexeme} (h : split cs = pre ++ post)
    (hpost : AdmitLayout post) : ∃ ls, Spaced w pre post ls ∧ split (text ls) = ls := by
  induction cs using split_induction generalizing pre post with
  | nil =>
    obtain ⟨rfl, rfl⟩ := List.append_eq_nil_iff.mp (h.symm.trans split_nil)
    exact exists_spaced_split_nil hw h
  | literal cs inner r hl ih =>
    cases pre with
    | nil => exact exists_spaced_split_nil hw h
    | cons l pre =>
      rw [split_literal hl.literal?, List.cons_append, List.cons_append] at h
      obtain ⟨rfl, hinner⟩ := List.cons.inj h
      rcases cases_append hinner hpost with ⟨mid, rfl, hls⟩ | ⟨mid, hmid, hmid', hadmit, rfl⟩
      · obtain ⟨ls', hs, hsplit⟩ := ih hls hpost
        refine ⟨stringStart :: inner ++ ls', by simpa using hs.append (stringStart :: inner) [], ?_⟩
        rw [text_literal, split_literal (hl.before _).literal?, hsplit]
      · obtain ⟨ls', hs, hread⟩ := hl.insert hw hne hmid hmid' hadmit
        refine ⟨stringStart :: ls' ++ split r, hs.append [stringStart] _, ?_⟩
        rw [text_literal, split_literal (hread _).literal?, text_split]
  | unclosed cs hl =>
    cases pre with
    | nil => exact exists_spaced_split_nil hw h
    | cons l pre =>
      rw [split_unclosed hl, List.cons_append] at h
      obtain ⟨rfl, hrest⟩ := List.cons.inj h
      obtain ⟨rfl, rfl⟩ := List.append_eq_nil_iff.mp hrest.symm
      have hquote : '"' ∉ w := fun hq => ne_quote_of_isLayout (hw _ hq) rfl
      have htext : text [trivia ('"' :: cs ++ w)] = '"' :: (cs ++ w) := by simp [trivia]
      refine ⟨[trivia ('"' :: cs ++ w)], ⟨by simp [trivia], fun o => rfl⟩, ?_⟩
      rw [htext, split_unclosed (literal?_append_eq_none hl hquote), List.cons_append]
  | other c cs hc ih =>
    cases pre with
    | nil => exact exists_spaced_split_nil hw h
    | cons l pre =>
      rw [split_other cs hc, List.cons_append] at h
      obtain ⟨rfl, hls⟩ := List.cons.inj h
      obtain ⟨ls', hs, hsplit⟩ := ih hls hpost
      have hcons : Spaced w (first c cs :: pre) post (first c cs :: ls') := by
        simpa using hs.append [first c cs] []
      by_cases hlayout : isLayout c = true
      · -- the lexeme may go on with the layout behind it
        refine ⟨split ((first c cs).chars ++ text ls'), hcons.congr ?_ fun o => ?_, ?_⟩
        · rw [text_split, text_cons]
        · rw [seen_split_append_layout (isLayout_of_mem_first cs hlayout), hsplit,
            seen_cons_inert _ _ (not_isSignificant_first cs hlayout)]
        · rw [text_split]
      · have hafter : after c cs = text pre ++ (text post ++ []) := by
          rw [← text_split (after c cs), hls, text_append, List.append_nil]
        refine ⟨first c cs :: ls', hcons, ?_⟩
        obtain ⟨ds, hds, hfirst, hrest⟩ := exists_first_spaced hw hne (Bool.eq_false_iff.mpr hlayout) hafter hs []
        rw [List.append_nil] at hds hrest
        rw [text_cons, hds, split_other ds hc, hfirst, hrest, hsplit]

end Split

end Lexeme

end Formula
