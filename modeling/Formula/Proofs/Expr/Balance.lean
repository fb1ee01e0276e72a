import Formula.Proofs.Expr.Complete
import Formula.Proofs.Token.Partition
import Formula.Proofs.Token.Parens

/-!
# The parentheses of expressions

- `Grammar.Derives.balanced`: the parentheses of an expression are balanced.
- `Grammar.significant_scan`, `Grammar.sentence_scan`: what the grammar sees of a source.
- `Lexeme.balanced_split`: the parentheses of a source are balanced if it is an expression.
-/

namespace Formula

open Grammar

namespace Grammar

mutual

/-- The parentheses of an expression are balanced. -/
theorem Derives.balanced : ∀ {r : Rule} {ts : List Token} {e : Expr}, Derives r ts e →
    Kind.Balanced (ts.map (·.kind))
  | _, _, _, .tighter _ hd => hd.balanced
  | _, _, _, @Derives.binary _ _ s _ _ _ _ _ _ _ h _ hl hd => by
    have hright := hd.balanced.cons (k := .symbol s) (by cases h <;> simp) (by cases h <;> simp)
    rw [List.map_append]
    exact hl.balanced.append hright
  | _, _, _, .unary h hd => hd.balanced.cons (by cases h <;> simp) (by cases h <;> simp)
  | _, _, _, .emptyCall hd => by
    rw [List.map_append]
    exact hd.balanced.append Kind.balanced_nil.parens
  | _, _, _, .call hd has => by
    rw [List.append_assoc, List.map_append, List.cons_append, List.map_cons, List.map_append]
    exact hd.balanced.append has.balanced.parens
  | _, _, _, @Derives.method _ _ name _ _ _ _ hd => by
    have hname := Kind.balanced_singleton (k := .identifier name) nofun nofun
    rw [List.map_append]
    exact hd.balanced.append (hname.cons (k := .symbol .dot) nofun nofun)
  | _, _, _, .bool | _, _, _, .nil | _, _, _, .number | _, _, _, .identifier => Kind.balanced_singleton nofun nofun
  | _, _, _, .grouping hd => by
    rw [List.map_append, List.map_cons]
    exact hd.balanced.parens
  | _, _, _, .string hs _ => by
    have hstart := hs.balanced.cons (k := .stringStart) nofun nofun
    rw [List.map_append, List.map_cons]
    exact hstart.append (Kind.balanced_singleton nofun nofun)

theorem Arguments.balanced : ∀ {ts : List Token} {es : List Expr}, Arguments ts es →
    Kind.Balanced (ts.map (·.kind))
  | _, _, .one hd => hd.balanced
  | _, _, .more has hd => by
    have hlast := hd.balanced.cons (k := .symbol .comma) nofun nofun
    rw [List.map_append]
    exact has.balanced.append hlast

theorem Segments.balanced : ∀ {ts : List Token} {es : List Expr}, Segments ts es →
    Kind.Balanced (ts.map (·.kind))
  | _, _, .none => Kind.balanced_nil
  | _, _, .plaintext hs => by
    rw [List.map_append]
    exact hs.balanced.append (Kind.balanced_singleton nofun nofun)
  | _, _, .interpolation hs hd => by
    have hinner := hd.balanced.cons (k := .interpolationStart) nofun nofun
    rw [List.map_append, List.map_append]
    exact (hs.balanced.append hinner).append (Kind.balanced_singleton nofun nofun)

end

/-- The grammar sees some lexemes of a source and the end of the input. -/
theorem significant_scan (source : String) : Expr.significant (Token.scan source) =
    Expr.significant (Token.place 0 (Lexeme.split source.toList)) ++ [⟨.eof, "", source.utf8ByteSize⟩] := by
  rw [Token.scan_eq_place, Expr.significant_append]
  rfl

/-- The sentence of a source is what the grammar sees of its lexemes. -/
theorem sentence_scan (source : String) :
    sentence (Token.scan source) = Expr.significant (Token.place 0 (Lexeme.split source.toList)) := by
  have hne : ∀ t ∈ Token.place 0 (Lexeme.split source.toList), t.kind ≠ .eof :=
    (Token.forall_place (P := fun k _ => k ≠ .eof) 0 _).mpr fun l hl => (Lexeme.nonempty_of_mem_split hl).2
  exact Expr.sentence_eq_of_append (significant_scan source) (fun t ht => hne t (List.mem_filter.mp ht).1) rfl

end Grammar

/-- The parentheses of a source are balanced if it is an expression. -/
theorem Lexeme.balanced_split {source : String} {e : Expr} (h : Expr.ofSource source = .ok (some e)) :
    Kind.Balanced ((split source.toList).map (·.kind)) := by
  have hb := (Kind.balanced_iff _).mp (Expr.ofTokens_eq_some_iff_derives.mp h).balanced
  rw [sentence_scan, Expr.significant] at hb
  rw [Kind.balanced_iff, ← Kind.depthBehind_filter, ← Token.kind_place 0, List.filter_map]
  exact hb

end Formula
