import Formula.CommandLine
import Formula.Proofs.Eval.Interpolation
import Formula.Proofs.Number.Plain

/-!
# Printed numbers read back

The plain form of a finite double is an expression for it, in every environment: a number, or a minus and a number. On
the command line the plain form of every double binds a variable to it. Only the sign of a zero is lost.

- `Word.scan_eq`: a word is scanned as a single token.
- `Environment.interpret_plain`: the plain form of a finite double is an expression for it.
- `CommandLine.readBinding_eq`: a binding is a name, `=` and a value.
- `plain_reads_back`: all of it about one double.
-/

namespace Formula

open Grammar Token

/-! ## Expressions -/

section Scan

variable {w : List Char} {k : Kind}

/-- A word is scanned as a single token. -/
theorem Word.scan_eq (h : Word w k) : scan (String.ofList w) =
    [⟨k, String.ofList w, 0⟩, ⟨.eof, "", (String.ofList w).utf8ByteSize⟩] := by
  rw [scan_eq_place, String.toList_ofList, h.split_eq]
  rfl

/-- A minus in front of a word is a token of its own. -/
theorem Word.split_minus (h : Word w k) : Lexeme.split ('-' :: w) = [⟨.symbol .minus, ['-']⟩, ⟨k, w⟩] := by
  obtain ⟨hfirst, hafter⟩ := Lexeme.first_symbol (c := '-') (s := .minus) (by decide) (fun _ => rfl) w
  rw [Lexeme.split_other w (by decide), hfirst, hafter, h.split_eq]

end Scan

section Number

variable {w : List Char} {v : Float}

/-- A number is an expression, -/
theorem Word.ofSource_number (h : Word w (.number v)) :
    Expr.ofSource (String.ofList w) = .ok (some (.number v)) := by
  rw [Expr.ofSource, Expr.ofTokens_eq_some_iff_derives, sentence_scan, String.toList_ofList, h.split_eq]
  exact Derives.weaken .number (by decide)

/-- and so is one with a minus in front. -/
theorem Word.ofSource_minus (h : Word w (.number v)) :
    Expr.ofSource (String.ofList ('-' :: w)) = .ok (some (.unary .negate (.number v) 0)) := by
  rw [Expr.ofSource, Expr.ofTokens_eq_some_iff_derives, sentence_scan, String.toList_ofList, h.split_minus]
  exact Derives.weaken (.unary .negate (Derives.weaken .number (by decide))) (by decide)

end Number

/-- The plain form of a finite double is an expression for it. -/
theorem Environment.interpret_plain {φ : Type} (env : Environment φ) {x : Float} (hx : x.isFinite = true) :
    ∃ y, env.interpret (Number.plain x) = .ok (.number y) ∧ Number.Alike x y := by
  obtain ⟨w, hword, -, ⟨hplain, halike⟩ | ⟨hplain, hneg, -⟩⟩ := Number.plain_cases hx
  · exact ⟨x.abs, by rw [hplain, env.interpret_of_ofSource hword.ofSource_number]; rfl, halike⟩
  · have hvalue : env.eval (.unary .negate (.number x.abs) 0) = .ok (.number (-x.abs)) := by
      rw [eval, eval]
      rfl
    rw [← hneg] at hvalue
    exact ⟨x, by rw [hplain, env.interpret_of_ofSource hword.ofSource_minus, hvalue]; rfl, .refl x⟩

/-! ## Bindings -/

namespace CommandLine

/-- The value of a numeral is its number. -/
theorem readValue_of_read? {raw : String} {y : Float} (h : Numeral.read? raw = some y) : readValue raw = .number y := by
  unfold readValue
  split
  · have htrue : Numeral.read? "true" = none := by decide
    rw [htrue] at h
    cases h
  · have hfalse : Numeral.read? "false" = none := by decide
    rw [hfalse] at h
    cases h
  · rw [h]

/-- A binding is a name, `=` and a value. -/
theorem readBinding_eq {name : String} (hne : name ≠ "") (hname : '=' ∉ name.toList) (raw : String) :
    readBinding (name ++ "=" ++ raw) = .ok ⟨name, readValue raw⟩ := by
  have hall : ∀ c ∈ name.toList, decide (c ≠ '=') = true := fun c hc =>
    decide_eq_true fun heq => hname (heq ▸ hc)
  have hsource : (name ++ "=" ++ raw).toList = name.toList ++ '=' :: raw.toList := by simp
  have htake : (name.toList ++ '=' :: raw.toList).takeWhile (· ≠ '=') = name.toList := by
    rw [Form.takeWhile_append_cons _ _ (by decide), List.takeWhile_eq_self_iff.mpr hall]
  have hdrop : (name.toList ++ '=' :: raw.toList).dropWhile (· ≠ '=') = '=' :: raw.toList := by
    rw [Form.dropWhile_append_cons _ _ (by decide), List.dropWhile_eq_nil_iff.mpr hall, List.nil_append]
  have hnonempty : name.toList ≠ [] := by simpa using hne
  simp only [readBinding, hsource, htake, hdrop, if_neg hnonempty, String.ofList_toList]

end CommandLine

/-! ## Both -/

/-- **Printed numbers read back.** The plain form of a finite double is positional, with a minus in front or without,
and no zero with a sign; that of its absolute value is scanned as a single number, which is this value; and it is an
expression for the double in every environment, up to the sign of a zero. On the command line the plain form of every
double binds a variable to it, again up to the sign of a zero. -/
theorem plain_reads_back (x : Float) :
    (x.isFinite = true →
      (∃ cs, Positional cs ∧ ((Number.plain x).toList = cs ∨ (Number.plain x).toList = '-' :: cs)) ∧
      Number.plain x ≠ "-0" ∧
      scan (Number.plain x.abs) = [⟨.number x.abs, Number.plain x.abs, 0⟩,
        ⟨.eof, "", (Number.plain x.abs).utf8ByteSize⟩] ∧
      ∀ (φ : Type) (env : Environment φ), ∃ y, env.interpret (Number.plain x) = .ok (.number y) ∧ Number.Alike x y) ∧
    ∀ name : String, name ≠ "" → '=' ∉ name.toList →
      ∃ y, CommandLine.readBinding (name ++ "=" ++ Number.plain x) = .ok ⟨name, .number y⟩ ∧ Number.Alike x y := by
  constructor
  · intro hx
    obtain ⟨w, hword, habs, hplain⟩ := Number.plain_cases hx
    refine ⟨⟨w, hword.positional, ?_⟩, ?_, ?_, fun φ env => env.interpret_plain hx⟩
    · rcases hplain with ⟨hplain, -⟩ | ⟨hplain, -⟩
      · exact .inl (by rw [hplain, String.toList_ofList])
      · exact .inr (by rw [hplain, String.toList_ofList])
    · intro hzero
      rcases hplain with ⟨hplain, -⟩ | ⟨hplain, -, hne⟩
      · -- a word starts with a digit
        obtain ⟨c, u, rfl, hc⟩ := hword.positional.exists_isDigit
        obtain ⟨rfl, -⟩ := List.cons.inj (String.ofList_inj.mp (hplain.symm.trans hzero))
        cases hc
      · exact hne (List.cons.inj (String.ofList_inj.mp (hplain.symm.trans hzero))).2
    · rw [habs]
      exact hword.scan_eq
  · intro name hne hname
    obtain ⟨y, hread, halike⟩ := Number.read?_plain x
    refine ⟨y, ?_, halike⟩
    rw [CommandLine.readBinding_eq hne hname, CommandLine.readValue_of_read? hread]

end Formula
