import Mathlib.Algebra.GroupWithZero.Nat
import Formula.Proofs.Lexeme.Reads
import Formula.Token.Scan

/-!
# The tokens partition the source

- `Token.sourceText_scan`: the lexemes of the tokens, put together, are the source.
- `Token.offset_of_locate`: a token starts where those before it end.
- `Token.scan_partition`: all of it about whole sources, with the bytes that each token covers.
-/

namespace Formula.Token

/-! ## Text -/

/-- The source that some tokens cover. -/
def sourceText (ts : List Token) : List Char := ts.flatMap fun t => t.lexeme.toList

@[simp] theorem sourceText_cons (t : Token) (ts : List Token) :
    sourceText (t :: ts) = t.lexeme.toList ++ sourceText ts := rfl

@[simp] theorem sourceText_append (ts us : List Token) : sourceText (ts ++ us) = sourceText ts ++ sourceText us := by
  simp [sourceText]

theorem sourceText_locate (offset : Nat) (ls : List Lexeme) : sourceText (locate offset ls) = Lexeme.text ls := by
  induction ls generalizing offset with
  | nil => rfl
  | cons l ls ih => simp [locate, ih]

/-- The lexemes of the tokens, put together, are the source. -/
theorem sourceText_scan (source : String) : sourceText (scan source) = source.toList := by
  rw [scan, sourceText_locate, Lexeme.text_split]

theorem join_lexeme (ts : List Token) : String.join (ts.map (·.lexeme)) = String.ofList (sourceText ts) := by
  induction ts with
  | nil => rfl
  | cons t ts ih =>
    rw [List.map_cons, String.join_cons, ih, sourceText_cons, String.ofList_append, String.ofList_toList]

theorem byteLength_toList (s : String) : byteLength s.toList = s.utf8ByteSize := by
  rw [byteLength_eq_utf8ByteSize, String.ofList_toList]

theorem byteLength_sourceText (ts : List Token) :
    byteLength (sourceText ts) = (ts.map (·.lexeme.utf8ByteSize)).sum := by
  induction ts with
  | nil => rfl
  | cons t ts ih => simp [ih, byteLength_toList]

/-! ## Offsets -/

/-- A token starts where those before it end. -/
theorem offset_of_locate {offset : Nat} {ls : List Lexeme} {pre post : List Token} {t : Token}
    (h : locate offset ls = pre ++ t :: post) : t.offset = offset + byteLength (sourceText pre) := by
  induction ls generalizing offset pre with
  | nil =>
    cases pre with
    | nil => cases h; rfl
    | cons t' pre => simp [locate] at h
  | cons l ls ih =>
    cases pre with
    | nil => cases h; rfl
    | cons t' pre =>
      rw [locate, List.cons_append] at h
      obtain ⟨rfl, hls⟩ := List.cons.inj h
      simp [ih hls, Nat.add_assoc]

/-- The lexemes as tokens from the given offset on. -/
def place (offset : Nat) : List Lexeme → List Token
  | [] => []
  | l :: ls => ⟨l.kind, String.ofList l.chars, offset⟩ :: place (offset + byteLength l.chars) ls

theorem locate_append (offset : Nat) (ls ls' : List Lexeme) :
    locate offset (ls ++ ls') = place offset ls ++ locate (offset + byteLength (Lexeme.text ls)) ls' := by
  induction ls generalizing offset with
  | nil => rfl
  | cons l ls ih => simp [locate, place, ih, Nat.add_assoc]

theorem place_append (offset : Nat) (ls ls' : List Lexeme) :
    place offset (ls ++ ls') = place offset ls ++ place (offset + byteLength (Lexeme.text ls)) ls' := by
  induction ls generalizing offset with
  | nil => rfl
  | cons l ls ih => simp [place, ih, Nat.add_assoc]

theorem place_literal (offset : Nat) (inner ls : List Lexeme) :
    place offset (Lexeme.stringStart :: inner ++ ls) = ⟨.stringStart, "\"", offset⟩ :: place (offset + 1) inner ++
      place (offset + 1 + byteLength (Lexeme.text inner)) ls := by
  rw [List.cons_append, List.cons_append, ← place_append]
  rfl

theorem place_interpolation (offset : Nat) (inner ls : List Lexeme) :
    place offset (Lexeme.interpolationStart :: inner ++ Lexeme.interpolationEnd :: ls) =
      ⟨.interpolationStart, "\\(", offset⟩ :: place (offset + 2) inner ++
        ⟨.interpolationEnd, ")", offset + 2 + byteLength (Lexeme.text inner)⟩ ::
          place (offset + 2 + byteLength (Lexeme.text inner) + 1) ls := by
  have h : place offset (Lexeme.interpolationStart :: (inner ++ Lexeme.interpolationEnd :: ls)) =
      ⟨.interpolationStart, "\\(", offset⟩ :: place (offset + 2) (inner ++ Lexeme.interpolationEnd :: ls) := rfl
  rw [List.cons_append, h, place_append]
  rfl

/-- The tokens of a source are its lexemes in their places, and the end of the input. -/
theorem scan_eq_place (source : String) :
    scan source = place 0 (Lexeme.split source.toList) ++ [⟨.eof, "", source.utf8ByteSize⟩] := by
  have h := locate_append 0 (Lexeme.split source.toList) []
  rw [List.append_nil, Lexeme.text_split, Nat.zero_add, byteLength_toList] at h
  exact h

/-- Tokens further on are the same tokens, shifted. -/
theorem place_add (n offset : Nat) (ls : List Lexeme) : place (offset + n) ls = (place offset ls).map (shift n) := by
  induction ls generalizing offset with
  | nil => rfl
  | cons l ls ih =>
    rw [place, place, List.map_cons, ← ih, Nat.add_right_comm]
    rfl

theorem sourceText_place (offset : Nat) (ls : List Lexeme) : sourceText (place offset ls) = Lexeme.text ls := by
  induction ls generalizing offset with
  | nil => rfl
  | cons l ls ih => simp [place, ih]

theorem kind_place (offset : Nat) (ls : List Lexeme) : (place offset ls).map (·.kind) = ls.map (·.kind) := by
  induction ls generalizing offset with
  | nil => rfl
  | cons l ls ih => rw [place, List.map_cons, List.map_cons, ih]

/-- What holds of the lexemes holds of the tokens. -/
theorem forall_place {P : Kind → String → Prop} (offset : Nat) (ls : List Lexeme) :
    (∀ t ∈ place offset ls, P t.kind t.lexeme) ↔ ∀ l ∈ ls, P l.kind (String.ofList l.chars) := by
  induction ls generalizing offset with
  | nil => simp [place]
  | cons l ls ih => simp [place, ih]

theorem byteLength_pos {cs : List Char} (h : cs ≠ []) : 0 < byteLength cs := by
  obtain ⟨c, cs, rfl⟩ := List.exists_cons_of_ne_nil h
  have hc := c.utf8Size_pos
  rw [byteLength_cons]
  omega

/-- A token starts within the text of the lexemes. -/
theorem offset_of_mem_place {o : Nat} {ls : List Lexeme} (hls : ∀ l ∈ ls, l.chars ≠ []) {t : Token}
    (h : t ∈ place o ls) : o ≤ t.offset ∧ t.offset < o + byteLength (Lexeme.text ls) := by
  induction ls generalizing o with
  | nil => cases h
  | cons l ls ih =>
    obtain ⟨hl, hls⟩ := List.forall_mem_cons.mp hls
    have hpos := byteLength_pos hl
    rw [Lexeme.text_cons, byteLength_append]
    rcases List.mem_cons.mp h with rfl | h
    · exact ⟨Nat.le_refl _, by dsimp only; omega⟩
    · obtain ⟨hle, hlt⟩ := ih hls h
      exact ⟨by omega, by omega⟩

/-- Everything but the end of the input starts in front of the end of the source. -/
theorem offset_lt_of_mem_scan {source : String} {t : Token} (h : t ∈ scan source) (hk : t.kind ≠ .eof) :
    t.offset < source.utf8ByteSize := by
  rw [scan_eq_place] at h
  rcases List.mem_append.mp h with h | h
  · have hlt := (offset_of_mem_place (fun l hl => (Lexeme.nonempty_of_mem_split hl).1) h).2
    rwa [Lexeme.text_split, byteLength_toList, Nat.zero_add] at hlt
  · rw [List.mem_singleton.mp h] at hk
    exact absurd rfl hk

/-- In front of a token stand some lexemes of the source, behind it the others. -/
theorem exists_append_of_mem_locate {o : Nat} {ls : List Lexeme} {t : Token} (h : t ∈ locate o ls) :
    ∃ pre post, ls = pre ++ post ∧ t.offset = o + byteLength (Lexeme.text pre) ∧ ∀ l ∈ post.head?, l.kind = t.kind := by
  induction ls generalizing o with
  | nil =>
    obtain rfl := List.mem_singleton.mp h
    exact ⟨[], [], rfl, rfl, nofun⟩
  | cons l ls ih =>
    rcases List.mem_cons.mp h with rfl | h
    · exact ⟨[], l :: ls, rfl, rfl, fun l' hl' => by cases hl'; rfl⟩
    · obtain ⟨pre, post, rfl, ho, hkind⟩ := ih h
      exact ⟨l :: pre, post, rfl, by simp [ho, Nat.add_assoc], hkind⟩

/-- A token is a lexeme behind those in front of it. -/
theorem exists_of_place_eq {o : Nat} {ls : List Lexeme} {pre post : List Token} {t : Token}
    (h : place o ls = pre ++ t :: post) : ∃ us l vs, ls = us ++ l :: vs ∧ pre = place o us ∧
      t = ⟨l.kind, String.ofList l.chars, o + byteLength (Lexeme.text us)⟩ := by
  induction ls generalizing o pre with
  | nil => simp [place] at h
  | cons l ls ih =>
    cases pre with
    | nil =>
      obtain ⟨rfl, -⟩ := List.cons.inj h
      exact ⟨[], l, ls, rfl, rfl, rfl⟩
    | cons t' pre =>
      obtain ⟨rfl, hls⟩ := List.cons.inj h
      obtain ⟨us, l', vs, rfl, rfl, rfl⟩ := ih hls
      exact ⟨l :: us, l', vs, rfl, rfl, by simp [Nat.add_assoc]⟩

theorem eq_nil_of_byteLength {cs : List Char} (h : byteLength cs = 0) : cs = [] := by
  cases cs with
  | nil => rfl
  | cons c cs =>
    have hpos := byteLength_pos (List.cons_ne_nil c cs)
    omega

/-- As many bytes from the front of a text are the same characters. -/
theorem append_inj_of_byteLength {cs ds us vs : List Char} (h : cs ++ us = ds ++ vs)
    (hlen : byteLength cs = byteLength ds) : cs = ds ∧ us = vs := by
  rcases List.append_eq_append_iff.mp h with ⟨mid, rfl, rfl⟩ | ⟨mid, rfl, rfl⟩
  · rw [byteLength_append] at hlen
    obtain rfl : mid = [] := eq_nil_of_byteLength (by omega)
    simp
  · rw [byteLength_append] at hlen
    obtain rfl : mid = [] := eq_nil_of_byteLength (by omega)
    simp

/-- A token covers the text of the source at its offset. -/
theorem exists_append_of_mem_scan {source : String} {t : Token} (h : t ∈ scan source) :
    ∃ a b : String, source = a ++ t.lexeme ++ b ∧ a.utf8ByteSize = t.offset := by
  obtain ⟨pre, post, hp⟩ := List.append_of_mem h
  have htext : sourceText pre ++ (t.lexeme.toList ++ sourceText post) = source.toList := by
    rw [← sourceText_scan source, hp, sourceText_append, sourceText_cons]
  refine ⟨String.ofList (sourceText pre), String.ofList (sourceText post), ?_, ?_⟩
  · rw [← String.toList_inj]
    simp [htext]
  · rw [offset_of_locate hp, byteLength_eq_utf8ByteSize, Nat.zero_add]

/-- The bytes of a text behind a first part are those of the next part. -/
theorem extract_toByteArray_append (a b c : String) :
    (a ++ (b ++ c)).toByteArray.extract a.utf8ByteSize (a.utf8ByteSize + b.utf8ByteSize) = b.toByteArray := by
  have h := @ByteArray.extract_append_size_add a.toByteArray (b ++ c).toByteArray 0 b.toByteArray.size
  rw [Nat.add_zero] at h
  rw [← String.size_toByteArray, ← String.size_toByteArray, String.toByteArray_append, h, String.toByteArray_append]
  exact ByteArray.extract_append_eq_left rfl

/-- **The tokens partition the source.** The only end of the input is last, without text and behind all bytes; every
other token has text; a token starts behind the bytes of those before it and covers the bytes of its lexeme; and the
lexemes put together are the source. -/
theorem scan_partition (source : String) :
    (∃ ts, scan source = ts ++ [⟨.eof, "", source.utf8ByteSize⟩] ∧ ∀ t ∈ ts, t.kind ≠ .eof ∧ t.lexeme ≠ "") ∧
    (∀ pre t post, scan source = pre ++ t :: post →
      t.offset = (pre.map (·.lexeme.utf8ByteSize)).sum ∧
      source.toByteArray.extract t.offset (t.offset + t.lexeme.utf8ByteSize) = t.lexeme.toByteArray) ∧
    String.join ((scan source).map (·.lexeme)) = source := by
  have hjoin : String.join ((scan source).map (·.lexeme)) = source := by
    rw [join_lexeme, sourceText_scan, String.ofList_toList]
  refine ⟨⟨_, scan_eq_place source, ?_⟩, ?_, hjoin⟩
  · refine (forall_place (P := fun k x => k ≠ .eof ∧ x ≠ "") 0 _).mpr fun l hl => ?_
    obtain ⟨hne, hk⟩ := Lexeme.nonempty_of_mem_split hl
    exact ⟨hk, by simpa using hne⟩
  · intro pre t post h
    have hsum : t.offset = (pre.map (·.lexeme.utf8ByteSize)).sum := by
      rw [offset_of_locate h, Nat.zero_add, byteLength_sourceText]
    have hpre : t.offset = (String.join (pre.map (·.lexeme))).utf8ByteSize := by
      rw [offset_of_locate h, Nat.zero_add, join_lexeme, byteLength_eq_utf8ByteSize]
    refine ⟨hsum, ?_⟩
    rw [h, List.map_append, List.map_cons, String.join_append, String.join_cons] at hjoin
    rw [hpre, ← hjoin, extract_toByteArray_append]

end Formula.Token
