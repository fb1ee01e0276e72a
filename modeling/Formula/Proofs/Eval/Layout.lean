import Formula.Proofs.Eval.Provenance
import Formula.Proofs.Eval.Relocate
import Formula.Proofs.Token.Layout

/-!
# Layout does not matter

Layout that is inserted in front of a token moves that token and those behind it, and the grammar sees no other change.
So the source has the value that it had, or fails as it did where the failure is now.

- `Token.displace`: where things are after an insertion.
- `Token.significant_scan_insert`: what the grammar sees of a source with layout inserted.
- `Environment.interpret_layout`: its value.
-/

namespace Formula

open Token

namespace Token

/-- Where the byte at `o` is once `n` bytes are inserted in front of the one at `p`. -/
def displace (p n o : Nat) : Nat := if o < p then o else o + n

section Displace

variable {o p n : Nat} {ls : List Lexeme}

theorem seen_add (o n : Nat) (ls : List Lexeme) : seen (o + n) ls = (seen o ls).map (shift n) := by
  rw [seen, place_add, Expr.significant_shift]
  rfl

/-- Lexemes in front of an insertion stay where they are, -/
theorem seen_displace_of_le (hls : ∀ l ∈ ls, l.chars ≠ []) (hp : o + byteLength (Lexeme.text ls) ≤ p) :
    (seen o ls).map (·.relocate (displace p n)) = seen o ls := by
  have hfix : ∀ t ∈ seen o ls, t.relocate (displace p n) = id t := fun t ht => by
    have hlt := (offset_of_mem_place hls (List.mem_filter.mp ht).1).2
    simp only [relocate, displace, if_pos (Nat.lt_of_lt_of_le hlt hp), id]
  rw [List.map_congr_left hfix, List.map_id]

/-- and those behind it are moved by as many bytes as it has. -/
theorem seen_displace_of_ge (hls : ∀ l ∈ ls, l.chars ≠ []) :
    (seen p ls).map (·.relocate (displace p n)) = seen (p + n) ls := by
  rw [seen_add]
  refine List.map_congr_left fun t ht => ?_
  have hle := (offset_of_mem_place hls (List.mem_filter.mp ht).1).1
  simp only [relocate, shift, displace, if_neg (Nat.not_lt.mpr hle)]

end Displace

section Insert

variable {source a b : String} {t : Token} {w : String}

/-- **Layout is not seen.** Layout in front of a token moves what the grammar sees from there on. -/
theorem significant_scan_insert (ht : t ∈ scan source) (hk : t.kind.admitsLayout = true)
    (hw : ∀ c ∈ w.toList, isLayout c = true) (hne : w ≠ "") (hs : source = a ++ b)
    (ha : a.utf8ByteSize = t.offset) : Expr.significant (scan (a ++ w ++ b)) =
      (Expr.significant (scan source)).map (·.relocate (displace t.offset w.utf8ByteSize)) := by
  obtain ⟨pre, post, hsplit, ho, hkind⟩ := exists_append_of_mem_locate ht
  have hadmit : Lexeme.AdmitLayout post := fun l hl => hkind l hl ▸ hk
  obtain ⟨ls, hspaced, hls⟩ := Lexeme.exists_spaced_split hw (by simpa using hne) source.toList hsplit hadmit
  rw [Nat.zero_add] at ho
  -- the two parts of the source are the texts of the two parts of its lexemes
  have htext : a.toList ++ b.toList = Lexeme.text pre ++ Lexeme.text post := by
    rw [← String.toList_append, ← hs, ← Lexeme.text_append, ← hsplit, Lexeme.text_split]
  obtain ⟨hpre, hpost⟩ := append_inj_of_byteLength htext (by rw [byteLength_toList, ha, ho])
  have hnew : Lexeme.split (a ++ w ++ b).toList = ls := by
    rw [← hls, hspaced.text_eq, String.toList_append, String.toList_append, hpre, hpost, List.append_assoc]
  have hnonempty : ∀ l ∈ pre ++ post, l.chars ≠ [] := fun l hl =>
    (Lexeme.nonempty_of_mem_split (hsplit ▸ hl)).1
  have hfront : (seen 0 pre).map (·.relocate (displace t.offset w.utf8ByteSize)) = seen 0 pre :=
    seen_displace_of_le (fun l hl => hnonempty l (List.mem_append_left post hl)) (by omega)
  have hback : (seen t.offset post).map (·.relocate (displace t.offset w.utf8ByteSize)) =
      seen (t.offset + w.utf8ByteSize) post :=
    seen_displace_of_ge fun l hl => hnonempty l (List.mem_append_right pre hl)
  have heof : displace t.offset w.utf8ByteSize source.utf8ByteSize = (a ++ w ++ b).utf8ByteSize := by
    rw [hs, String.utf8ByteSize_append, String.utf8ByteSize_append, String.utf8ByteSize_append, displace,
      if_neg (by omega)]
    omega
  have hseen : ∀ o, Expr.significant (place 0 o) = seen 0 o := fun _ => rfl
  rw [Grammar.significant_scan, Grammar.significant_scan, hnew, hsplit, hseen, hseen, hspaced.seen_eq, seen_append,
    List.map_append, List.map_append, hfront, Nat.zero_add, ← ho, hback, byteLength_toList, List.map_singleton, relocate,
    heof]

end Insert

end Token

namespace Environment

/-- **Layout does not matter.** In front of a token that is not in the text of a string literal, blanks and line ends may
be inserted: the source has the value that it had, or fails as it did, at the same place in front of the insertion and
as many bytes further on behind it. -/
theorem interpret_layout {source : String} {t : Token} (ht : t ∈ scan source) (hk : t.kind.admitsLayout = true)
    {w : String} (hw : ∀ c ∈ w.toList, isLayout c = true) (hne : w ≠ "") :
    (∃ a b, source = a ++ b ∧ a.utf8ByteSize = t.offset) ∧
    ∀ a b, source = a ++ b → a.utf8ByteSize = t.offset → ∀ {φ : Type} (env : Environment φ),
      env.interpret (a ++ w ++ b) =
        (env.interpret source).mapError (·.relocate (displace t.offset w.utf8ByteSize)) := by
  refine ⟨?_, fun a b hs ha _ env => ?_⟩
  · obtain ⟨a, b, hs, ha⟩ := exists_append_of_mem_scan ht
    exact ⟨a, t.lexeme ++ b, by rw [hs, String.append_assoc], ha⟩
  · exact env.interpret_relocate _ (significant_scan_insert ht hk hw hne hs ha)

/-- In an interpolation, a line end and a blank in front of a `+` that fails move the failure by two bytes. -/
theorem interpret_layout_interpolation :
    (⟨.symbol .plus, "+", 4⟩ : Token) ∈ scan "\"\\(x+nil)\"" ∧ Kind.admitsLayout (.symbol .plus) = true ∧
    (∀ c ∈ "\n ".toList, isLayout c = true) ∧ "\n " ≠ "" ∧
    bare.interpret "\"\\(x+nil)\"" = .error (.eval (.invalidAddition .nil .nil 4)) ∧
    bare.interpret "\"\\(x\n +nil)\"" = .error (.eval (.invalidAddition .nil .nil 6)) := by
  have ht : (⟨.symbol .plus, "+", 4⟩ : Token) ∈ scan "\"\\(x+nil)\"" := by
    have hat : (scan "\"\\(x+nil)\"")[3]? = some ⟨.symbol .plus, "+", 4⟩ := by cbv
    exact List.mem_of_getElem? hat
  have hw : ∀ c ∈ "\n ".toList, isLayout c = true := by simp [isLayout, isBlank]
  have h : bare.interpret "\"\\(x+nil)\"" = .error (.eval (.invalidAddition .nil .nil 4)) := by cbv
  have hmoved := (interpret_layout ht rfl hw (by decide)).2 "\"\\(x" "+nil)\"" (by decide) rfl bare
  rw [h] at hmoved
  exact ⟨ht, rfl, hw, by decide, h, hmoved⟩

end Environment

end Formula
