import Mathlib
import Formula.Proofs.Eval.Failure
import Formula.Proofs.Expr.Balance

/-!
# Evaluation errors point at what failed

Each node of an expression carries the offset of the token that introduced it, and evaluation copies it into its errors.
So an error of a source points at a token of the source, and which error it is decides which token that is.

- `EvalError.Fits`: the token that an error of each cause points at.
- `Grammar.Derives.pointsInto`: the errors of an expression point into its tokens.
- `Environment.interpret_error_points`: the errors of a source point at its tokens.
-/

namespace Formula

open Grammar Token

/-! ## Tokens of errors -/

/-- What the error points at: the token is the operator, call or name that failed, between the others. A sum is a `+` or
the opening quote of a string literal with at least two pieces. -/
def EvalError.Fits (pre : List Token) (t : Token) (post : List Token) : EvalError → Prop
  | .operandMustBeNumber op _ => op = .negate ∧ t.kind = .symbol .minus
  | .operandsMustBeNumbers op _ => BinaryOperator.ofKind? t.kind = some op
  | .divisionByZero _ => t.kind = .symbol .slash
  | .invalidAddition _ _ _ => t.kind = .symbol .plus ∨ t.kind = .stringStart ∧
      ∃ us es t' vs, post = us ++ t' :: vs ∧ t'.kind = .stringEnd ∧ Segments us es ∧ 2 ≤ es.length
  | .unknownFunction name _ => t.kind = .symbol .leftParen ∧ ∃ us t', pre = us ++ [t'] ∧ t'.kind = .identifier name
  | .unknownMethod name _ => t.kind = .identifier name ∧ ∃ us t', pre = us ++ [t'] ∧ t'.kind = .symbol .dot
  | .notCallable _ _ | .callFailed _ _ _ => t.kind = .symbol .leftParen

/-- The error points at one of the tokens, as its cause says. -/
def EvalError.PointsInto (ts : List Token) (err : EvalError) : Prop :=
  ∃ pre t post, ts = pre ++ t :: post ∧ t.offset = err.offset ∧ err.Fits pre t post

namespace EvalError

variable {err : EvalError} {ts : List Token}

/-- Tokens further away do not matter. -/
theorem Fits.append {pre post : List Token} {t : Token} (h : err.Fits pre t post) (us vs : List Token) :
    err.Fits (us ++ pre) t (post ++ vs) := by
  cases err with
  | invalidAddition =>
    refine h.imp_right ?_
    rintro ⟨ht, us', es, t', vs', rfl, ht', hs, hlen⟩
    exact ⟨ht, us', es, t', vs' ++ vs, by simp, ht', hs, hlen⟩
  | unknownFunction | unknownMethod =>
    obtain ⟨ht, us', t', rfl, ht'⟩ := h
    exact ⟨ht, us ++ us', t', by simp, ht'⟩
  | _ => exact h

/-- An error that points into tokens points into more tokens. -/
theorem PointsInto.append (h : err.PointsInto ts) (us vs : List Token) : err.PointsInto (us ++ ts ++ vs) := by
  obtain ⟨pre, t, post, rfl, ho, hf⟩ := h
  exact ⟨us ++ pre, t, post ++ vs, by simp, ho, hf.append us vs⟩

theorem PointsInto.append_left (h : err.PointsInto ts) (us : List Token) : err.PointsInto (us ++ ts) := by
  simpa using h.append us []

theorem PointsInto.append_right (h : err.PointsInto ts) (vs : List Token) : err.PointsInto (ts ++ vs) := by
  simpa using h.append [] vs

theorem PointsInto.cons (h : err.PointsInto ts) (t : Token) : err.PointsInto (t :: ts) := h.append_left [t]

end EvalError

/-! ## Names -/

/-- Pieces that are no names are joined to no name. -/
theorem Expr.ofSegments_ne_identifier {es : List Expr} (h : ∀ e ∈ es, ∀ name o, e ≠ .identifier name o) (q : Nat)
    (name : String) (o : Nat) : Expr.ofSegments es q ≠ .identifier name o := by
  induction es using List.reverseRecOn with
  | nil => exact nofun
  | append_singleton ds d =>
    by_cases hds : ds = []
    · subst hds
      exact h d (by simp) name o
    · rw [Expr.ofSegments_append_singleton hds]
      exact nofun

namespace Grammar

/-- A piece of a string literal is a text or an interpolation. -/
theorem Segments.ne_identifier : ∀ {ts : List Token} {es : List Expr}, Segments ts es →
    ∀ e ∈ es, ∀ name o, e ≠ .identifier name o
  | _, _, .none, _, h, _, _ => by cases h
  | _, _, .plaintext hs, e, h, _, _ => by
    rcases List.mem_append.mp h with h | h
    · exact hs.ne_identifier e h _ _
    · rw [List.mem_singleton.mp h]
      exact nofun
  | _, _, .interpolation hs _, e, h, _, _ => by
    rcases List.mem_append.mp h with h | h
    · exact hs.ne_identifier e h _ _
    · rw [List.mem_singleton.mp h]
      exact nofun

/-- Only its own token is derived as a name. -/
theorem Derives.eq_of_identifier {name : String} {o : Nat} : ∀ {r : Rule} {ts : List Token} {e : Expr}, Derives r ts e →
    e = .identifier name o → ∃ x, ts = [⟨.identifier name, x, o⟩]
  | _, _, _, .tighter _ hd, h => hd.eq_of_identifier h
  | _, _, _, .identifier, h => by
    cases h
    exact ⟨_, rfl⟩
  | _, _, _, .string hs hsum, h => by
    rw [sums_iff.mp hsum] at h
    exact absurd h (Expr.ofSegments_ne_identifier hs.ne_identifier _ _ _)
  | _, _, _, .binary _ _ _ _, h | _, _, _, .unary _ _, h | _, _, _, .emptyCall _, h | _, _, _, .call _ _, h
  | _, _, _, .method _, h | _, _, _, .bool, h | _, _, _, .nil, h | _, _, _, .number, h | _, _, _, .grouping _, h => by
    cases h

/-! ## Errors of expressions -/

section Errors

variable {φ : Type} {env : Environment φ} {err : EvalError}

/-- A failed operator between operands is pointed at. -/
theorem pointsInto_of_apply_error {r : Rule} {s : Symbol} {op : BinaryOperator} (hs : Joins r s op) {v w : Value φ}
    {o : Nat} (h : op.apply v w o = .error err) (ts ts' : List Token) (x : String) :
    err.PointsInto (ts ++ ⟨.symbol s, x, o⟩ :: ts') := by
  rcases BinaryOperator.cases_of_apply_error h with rfl | ⟨rfl, rfl⟩ | ⟨rfl, rfl⟩
  · exact ⟨ts, _, ts', rfl, rfl, hs.ofKind?⟩
  · cases hs
    exact ⟨ts, _, ts', rfl, rfl, rfl⟩
  · cases hs
    exact ⟨ts, _, ts', rfl, rfl, .inl rfl⟩

/-- A failed call is pointed at by its `(`, and behind an unknown name stands nothing else. -/
theorem pointsInto_of_call_error {r : Rule} {ts : List Token} {callee : Expr} (hd : Derives r ts callee)
    {target : Value φ} {vs : List (Value φ)} {o : Nat} (h : env.apply callee target vs o = .error err)
    (ts' : List Token) (x : String) : err.PointsInto (ts ++ ⟨.symbol .leftParen, x, o⟩ :: ts') := by
  rcases Environment.cases_of_apply_error h with ⟨_, _, rfl⟩ | ⟨name, o', hname, rfl⟩ | ⟨_, rfl⟩
  · exact ⟨ts, _, ts', rfl, rfl, rfl⟩
  · obtain ⟨x', rfl⟩ := hd.eq_of_identifier hname
    exact ⟨_, _, ts', rfl, rfl, rfl, [], _, rfl, rfl⟩
  · exact ⟨ts, _, ts', rfl, rfl, rfl⟩

mutual

/-- The errors of an expression point into its tokens. -/
theorem Derives.pointsInto : ∀ {r : Rule} {ts : List Token} {e : Expr}, Derives r ts e → env.eval e = .error err →
    err.PointsInto ts
  | _, _, _, .tighter _ hd, h => hd.pointsInto h
  | _, _, _, .binary hs _ hl hd, h => by
    rw [Environment.eval] at h
    rcases bind_eq_error_iff.mp h with h | ⟨v, -, h⟩
    · exact (hl.pointsInto h).append_right _
    rcases bind_eq_error_iff.mp h with h | ⟨w, -, h⟩
    · exact ((hd.pointsInto h).cons _).append_left _
    · exact pointsInto_of_apply_error hs h _ _ _
  | _, _, _, .unary hs hd, h => by
    rw [Environment.eval] at h
    rcases bind_eq_error_iff.mp h with h | ⟨v, -, h⟩
    · exact (hd.pointsInto h).cons _
    · obtain ⟨rfl, rfl⟩ := UnaryOperator.eq_of_apply_error h
      cases hs
      exact ⟨[], _, _, rfl, rfl, rfl, rfl⟩
  | _, _, _, .emptyCall hd, h => by
    rw [Environment.eval] at h
    rcases bind_eq_error_iff.mp h with h | ⟨v, -, h⟩
    · exact (hd.pointsInto h).append_right _
    · exact pointsInto_of_call_error hd h _ _
  | _, _, _, .call hd has, h => by
    rw [Environment.eval] at h
    rw [List.append_assoc, List.cons_append]
    rcases bind_eq_error_iff.mp h with h | ⟨v, -, h⟩
    · exact (hd.pointsInto h).append_right _
    rcases bind_eq_error_iff.mp h with h | ⟨vs, -, h⟩
    · obtain ⟨e, he, h⟩ := Environment.exists_of_evalAll_error h
      exact (((has.pointsInto he h).append_right _).cons _).append_left _
    · exact pointsInto_of_call_error hd h _ _
  | _, _, _, @Derives.method ts _ _ _ _ _ _ hd, h => by
    rw [Environment.eval] at h
    rcases bind_eq_error_iff.mp h with h | ⟨v, -, h⟩
    · exact (hd.pointsInto h).append_right _
    · obtain rfl := Environment.eq_of_bindMethod_error h
      exact ⟨_, _, [], List.append_cons _ _ _, rfl, rfl, ts, _, rfl, rfl⟩
  | _, _, _, .bool, h | _, _, _, .nil, h | _, _, _, .number, h | _, _, _, .identifier, h => by cases h
  | _, _, _, .grouping hd, h => ((hd.pointsInto h).cons _).append_right _
  | _, _, _, .string hs hsum, h => by
    obtain rfl := sums_iff.mp hsum
    rcases Environment.cases_of_eval_ofSegments_error h with ⟨e, he, h⟩ | ⟨hlen, l, r, rfl⟩
    · exact ((hs.pointsInto he h).cons _).append_right _
    · exact ⟨[], _, _, rfl, rfl, .inr ⟨rfl, _, _, _, [], rfl, rfl, hs, hlen⟩⟩

theorem Arguments.pointsInto : ∀ {ts : List Token} {es : List Expr}, Arguments ts es →
    ∀ {e : Expr}, e ∈ es → env.eval e = .error err → err.PointsInto ts
  | _, _, .one hd, _, he, h => by
    rw [List.mem_singleton.mp he] at h
    exact hd.pointsInto h
  | _, _, .more has hd, _, he, h => by
    rcases List.mem_append.mp he with he | he
    · exact (has.pointsInto he h).append_right _
    · rw [List.mem_singleton.mp he] at h
      exact ((hd.pointsInto h).cons _).append_left _

theorem Segments.pointsInto : ∀ {ts : List Token} {es : List Expr}, Segments ts es →
    ∀ {e : Expr}, e ∈ es → env.eval e = .error err → err.PointsInto ts
  | _, _, .none, _, he, _ => by cases he
  | _, _, .plaintext hs, _, he, h => by
    rcases List.mem_append.mp he with he | he
    · exact (hs.pointsInto he h).append_right _
    · rw [List.mem_singleton.mp he] at h
      cases h
  | _, _, .interpolation hs hd, _, he, h => by
    rw [List.append_assoc, List.cons_append]
    rcases List.mem_append.mp he with he | he
    · exact (hs.pointsInto he h).append_right _
    · rw [List.mem_singleton.mp he, Environment.eval] at h
      rcases bind_eq_error_iff.mp h with h | ⟨v, -, h⟩
      · exact (((hd.pointsInto h).append_right _).cons _).append_left _
      · cases h

end

end Errors

end Grammar

/-! ## Errors of sources -/

/-- A symbol of a source is written as it is spelled. -/
theorem Token.lexeme_of_symbol {source : String} {t : Token} (h : t ∈ scan source) {s : Symbol}
    (hs : t.kind = .symbol s) : t.lexeme = String.ofList s.chars := by
  rw [scan_eq_place] at h
  rcases List.mem_append.mp h with h | h
  · refine (forall_place (P := fun k x => k = .symbol s → x = String.ofList s.chars) 0 _).mpr ?_ t h hs
    intro l hl hk
    rcases Lexeme.occurs_or_unclosed _ l hl with hl | ⟨ds, rfl⟩
    · cases hl with
      | first => rw [Lexeme.chars_first_of_kind hk]
      | _ => cases hk
    · cases hk
  · rw [List.mem_singleton.mp h] at hs
    cases hs

/-- An operator between operands is written as its symbol. -/
theorem BinaryOperator.symbol_eq {op : BinaryOperator} {s : Symbol} (h : ofKind? (.symbol s) = some op) :
    String.ofList s.chars = op.symbol := by
  obtain ⟨r, s', hs, hj⟩ := exists_joins h
  cases hs
  cases hj <;> rfl

namespace Environment

variable {φ : Type}

/-- The errors of a source point into what the grammar sees of it. -/
theorem pointsInto_of_interpret_error {env : Environment φ} {source : String} {err : EvalError}
    (h : env.interpret source = .error (.eval err)) : err.PointsInto (Expr.significant (scan source)) := by
  unfold interpret at h
  split at h
  · cases h
  · rename_i e he
    obtain ⟨err', h, herr⟩ := mapError_eq_error_iff.mp h
    cases herr
    cases e with
    | none => cases h
    | some e =>
      unfold execute at h
      rcases bind_eq_error_iff.mp h with h | ⟨vs, -, h⟩
      · obtain ⟨d, hd, hfail⟩ := exists_of_evalAll_error h
        obtain rfl : d = e := by simpa using hd
        have hderives := Expr.ofTokens_eq_some_iff_derives.mp he
        rw [significant_scan, ← sentence_scan]
        exact (hderives.pointsInto hfail).append_right _
      · split at h <;> cases h

/-- **Evaluation errors point at what failed.** At the offset of an error stands a token of the source: the operator,
call or name that the error is about. -/
theorem interpret_error_points {env : Environment φ} {source : String} {err : EvalError}
    (h : env.interpret source = .error (.eval err)) :
    ∃ pre t post, Expr.significant (scan source) = pre ++ t :: post ∧ t.offset = err.offset ∧ err.Fits pre t post ∧
      ∀ op o, err = .operandsMustBeNumbers op o → t.lexeme = op.symbol := by
  obtain ⟨pre, t, post, hts, ho, hf⟩ := pointsInto_of_interpret_error h
  refine ⟨pre, t, post, hts, ho, hf, ?_⟩
  rintro op o rfl
  have hmem : t ∈ Expr.significant (scan source) := by simp [hts]
  obtain ⟨r, s, hk, -⟩ := BinaryOperator.exists_joins hf
  have hop : BinaryOperator.ofKind? (.symbol s) = some op := hk ▸ hf
  rw [lexeme_of_symbol (List.mem_filter.mp hmem).1 hk, BinaryOperator.symbol_eq hop]

/-- An environment without variables and functions of a host. -/
def bare : Environment Unit := ⟨[], [], fun _ _ _ => .error ""⟩

/-- A text and `nil` cannot be joined, in a literal that is called as a method's argument. -/
theorem interpret_error_points_literal :
    bare.interpret "x.uppercased(-\"a\\(nil)\")" = .error (.eval (.invalidAddition .string .nil 14)) ∧
    ∃ pre t post, Expr.significant (scan "x.uppercased(-\"a\\(nil)\")") = pre ++ t :: post ∧ t.offset = 14 ∧
      (EvalError.invalidAddition .string .nil 14).Fits pre t post := by
  have h : bare.interpret "x.uppercased(-\"a\\(nil)\")" = .error (.eval (.invalidAddition .string .nil 14)) := by cbv
  obtain ⟨pre, t, post, hts, ho, hf, -⟩ := interpret_error_points h
  exact ⟨h, pre, t, post, hts, ho, hf⟩

end Environment

end Formula
