import Formula.Proofs.Expr.Grammar
import Formula.Proofs.Procedure

/-!
# The grammar read by descent

The grammar as procedures, one for each rule, that call each other on the tokens that are left: a rule for looser
operators calls the next tighter one, and an atom may call the loosest again. Nothing in them says that they end.

- `Production.body`: what each of them does.
- `Production.exists_answers`: every call ends, and where it succeeds, it has read a token at least and no end of the
  input.
- `Production.below_of_calls`: every call that a call makes is on fewer tokens, or on the same further down.
-/

namespace Formula.Grammar

/-- The rule for the operands of a rule. -/
def Rule.operand (r : Rule) : Rule := r.tighter?.getD r

/-- What a call reads from the front of some tokens. -/
inductive Production where
  /-- An expression by a rule. -/
  | rule (r : Rule)
  /-- Operators of a rule with their right operands, as long as there are any. -/
  | operators (r : Rule) (left : Expr)
  /-- Calls and methods, as long as there are any. -/
  | suffixes (e : Expr)
  /-- An expression and the `)` behind it. -/
  | grouping
  /-- Arguments and the `)` behind them. -/
  | arguments
  /-- One argument at least behind others, and the `)` behind them. -/
  | moreArguments (es : List Expr)
  /-- The pieces of a string literal behind others, and the closing quote. -/
  | segments (es : List Expr) (quote : Nat)

namespace Production

/-- What is read. -/
abbrev Result : Production → Type
  | arguments | moreArguments _ => List Expr
  | _ => Expr

/-- A call, on the tokens that are left. -/
abbrev Call := Production × List Token

/-- What was read and the tokens behind it, or why nothing was. -/
abbrev Outcome (α : Type) := Except ParseError (α × List Token)

/-- What a call does. -/
abbrev CallBody (α : Type) := Body Call (fun i => Outcome i.1.Result) (Outcome α)

section Bodies

variable {α : Type}

/-- Reads by a production and goes on behind it, unless nothing is read. -/
def read (p : Production) (ts : List Token) (next : p.Result → List Token → CallBody α) : CallBody α :=
  .call (p, ts) fun
    | .ok (x, rest) => next x rest
    | .error err => .done (.error err)

/-- The error where something else was expected. -/
def missing (expected : String → Nat → ParseError) : List Token → ParseError
  | [] => .unexpectedEndOfInput 0
  | t :: _ => if t.kind = .eof then .unexpectedEndOfInput t.offset else expected t.describe t.offset

/-- What is behind a token of the kind, if it is the first. -/
def accept? (k : Kind) : List Token → Option (List Token)
  | [] => none
  | t :: ts => if t.kind = k then some ts else none

/-- Goes on behind a token of the kind, unless there is another. -/
def expect (k : Kind) (expected : String → Nat → ParseError) (ts : List Token) (next : List Token → CallBody α) :
    CallBody α :=
  match accept? k ts with
  | some rest => next rest
  | none => .done (.error (missing expected ts))

/-- The operator of the rule that the token stands for. -/
def operator? (r : Rule) (t : Token) : Option BinaryOperator :=
  (BinaryOperator.ofKind? t.kind).filter (·.level = r.rank)

def operatorsBody (r : Rule) (left : Expr) : List Token → CallBody Expr
  | [] => .done (.ok (left, []))
  | t :: ts =>
    match operator? r t with
    | some op => read (.rule r.operand) ts fun right rest =>
        .call (.operators r (.binary left op right t.offset), rest) .done
    | none => .done (.ok (left, t :: ts))

def prefixedBody : List Token → CallBody Expr
  | [] => .call (.rule .applied, []) .done
  | t :: ts =>
    match UnaryOperator.ofKind? t.kind with
    | some op => read (.rule .prefixed) ts fun e rest => .done (.ok (.unary op e t.offset, rest))
    | none => .call (.rule .applied, t :: ts) .done

def methodBody (e : Expr) : List Token → CallBody Expr
  | [] => .done (.error (missing .expectedMethodName []))
  | t :: ts =>
    match t.kind with
    | .identifier name => .call (.suffixes (.method e name t.offset), ts) .done
    | _ => .done (.error (missing .expectedMethodName (t :: ts)))

def suffixesBody (e : Expr) : List Token → CallBody Expr
  | [] => .done (.ok (e, []))
  | t :: ts =>
    match t.kind with
    | .symbol .leftParen => read .arguments ts fun es rest => .call (.suffixes (.call e es t.offset), rest) .done
    | .symbol .dot => methodBody e ts
    | _ => .done (.ok (e, t :: ts))

def atomBody : List Token → CallBody Expr
  | [] => .done (.error (missing .unexpectedToken []))
  | t :: ts =>
    match Unfinished.atom? t with
    | some e => .done (.ok (e, ts))
    | none =>
      match t.kind with
      | .symbol .leftParen => .call (.grouping, ts) .done
      | .stringStart => .call (.segments [] t.offset, ts) .done
      | _ => .done (.error (missing .unexpectedToken (t :: ts)))

def argumentsBody (ts : List Token) : CallBody (List Expr) :=
  match accept? (.symbol .rightParen) ts with
  | some rest => .done (.ok ([], rest))
  | none => .call (.moreArguments [], ts) .done

def moreArgumentsBody (es : List Expr) (ts : List Token) : CallBody (List Expr) :=
  read (.rule .equality) ts fun e rest =>
    match accept? (.symbol .comma) rest with
    | some us => .call (.moreArguments (es ++ [e]), us) .done
    | none => expect (.symbol .rightParen) .expectedClosingParen rest fun us => .done (.ok (es ++ [e], us))

def segmentsBody (es : List Expr) (quote : Nat) : List Token → CallBody Expr
  | [] => .done (.error (.unterminatedString quote))
  | t :: ts =>
    match t.kind with
    | .plaintext s => .call (.segments (es ++ [.string s]) quote, ts) .done
    | .interpolationStart => read (.rule .equality) ts fun e rest =>
        expect .interpolationEnd .expectedInterpolationEnd rest fun us =>
          .call (.segments (es ++ [.interpolation e t.offset]) quote, us) .done
    | .stringEnd => .done (.ok (.ofSegments es quote, ts))
    | .eof => .done (.error (.unterminatedString quote))
    | _ => .done (.error (.unexpectedToken t.describe t.offset))

/-- What the calls do. -/
def body : (i : Call) → CallBody i.1.Result
  | (.rule .prefixed, ts) => prefixedBody ts
  | (.rule .applied, ts) => read (.rule .atom) ts fun e rest => .call (.suffixes e, rest) .done
  | (.rule .atom, ts) => atomBody ts
  | (.rule r, ts) => read (.rule r.operand) ts fun left rest => .call (.operators r left, rest) .done
  | (.operators r left, ts) => operatorsBody r left ts
  | (.suffixes e, ts) => suffixesBody e ts
  | (.grouping, ts) => read (.rule .equality) ts fun e rest =>
      expect (.symbol .rightParen) .expectedClosingParen rest fun us => .done (.ok (.grouping e, us))
  | (.arguments, ts) => argumentsBody ts
  | (.moreArguments es, ts) => moreArgumentsBody es ts
  | (.segments es quote, ts) => segmentsBody es quote ts

end Bodies

/-! ## What is read -/

/-- The tokens in front of the rest are read, and no end of the input is among them. -/
def Takes (ts rest : List Token) : Prop := ∃ used, ts = used ++ rest ∧ ∀ t ∈ used, t.kind ≠ .eof

theorem takes_refl (ts : List Token) : Takes ts ts := ⟨[], rfl, nofun⟩

theorem takes_cons {t : Token} (ht : t.kind ≠ .eof) (ts : List Token) : Takes (t :: ts) ts :=
  ⟨[t], rfl, fun _ hu => List.mem_singleton.mp hu ▸ ht⟩

theorem Takes.trans {ts us rest : List Token} (h : Takes ts us) (h' : Takes us rest) : Takes ts rest := by
  obtain ⟨used, rfl, hu⟩ := h
  obtain ⟨used', rfl, hu'⟩ := h'
  refine ⟨used ++ used', (List.append_assoc _ _ _).symm, fun t ht => ?_⟩
  exact (List.mem_append.mp ht).elim (hu t) (hu' t)

theorem Takes.suffix {ts rest : List Token} (h : Takes ts rest) : rest <:+ ts := by
  obtain ⟨used, rfl, -⟩ := h
  exact List.suffix_append used rest

/-- Operators and suffixes may be over before any was read. -/
def mayBeEmpty : Production → Bool
  | operators _ _ | suffixes _ => true
  | _ => false

/-- Where something is read, it is some tokens and no end of the input. -/
def Consumes {α : Type} (mayBeEmpty : Bool) (ts : List Token) : Outcome α → Prop
  | .ok (_, rest) => Takes ts rest ∧ (mayBeEmpty = false → rest.length < ts.length)
  | .error _ => True

/-- How many calls on the same tokens there can be on the way down. -/
def height : Production → Nat
  | arguments => 8
  | grouping | moreArguments _ => 7
  | rule r => 6 - r.rank
  | operators _ _ | suffixes _ | segments _ _ => 0

/-- The call is on fewer tokens, or on the same further down. -/
abbrev Below (j i : Call) : Prop := RunsOut (·.2) (·.1.height) j i

/-- The contract of a body that is a part of the call. -/
abbrev Proceeds {α : Type} (i : Call) (m : CallBody α) : Prop :=
  m.Meets (fun j => Consumes j.1.mayBeEmpty j.2) (Below · i) (Consumes i.1.mayBeEmpty i.2)

section Contract

variable {α : Type} {i : Call} {p : Production} {t : Token} {ts us rest : List Token}

theorem eq_of_accept? {k : Kind} (h : accept? k ts = some rest) : ∃ x o, ts = ⟨k, x, o⟩ :: rest := by
  unfold accept? at h
  split at h
  · cases h
  · rename_i t ts
    obtain ⟨k', x, o⟩ := t
    split at h
    · rename_i hk
      cases h
      cases hk
      exact ⟨x, o, rfl⟩
    · cases h

theorem operator?_ne_eof {r : Rule} {op : BinaryOperator} (h : operator? r t = some op) : t.kind ≠ .eof := by
  intro ht
  simp [operator?, ht, BinaryOperator.ofKind?] at h

theorem ofKind?_ne_eof {op : UnaryOperator} (h : UnaryOperator.ofKind? t.kind = some op) : t.kind ≠ .eof := by
  intro ht
  simp [ht, UnaryOperator.ofKind?] at h

theorem atom?_ne_eof {e : Expr} (h : Unfinished.atom? t = some e) : t.kind ≠ .eof := by
  intro ht
  simp [Unfinished.atom?, ht] at h

theorem below_of_takes (h : Takes i.2 us) (hlt : us.length < i.2.length) : Below (p, us) i :=
  ⟨h.suffix, fun heq => absurd (congrArg List.length heq) (Nat.ne_of_lt hlt)⟩

/-- What is read behind some tokens is read with them. -/
theorem Consumes.of_takes {b b' : Bool} {a : Outcome α} (h : Takes ts us) (hlt : us.length < ts.length)
    (ha : Consumes b us a) : Consumes b' ts a := by
  cases a with
  | error err => trivial
  | ok x => exact ⟨h.trans ha.1, fun _ => Nat.lt_of_le_of_lt ha.1.suffix.length_le hlt⟩

theorem proceeds_done {x : α} (h : Takes i.2 us) (hlt : us.length < i.2.length) : Proceeds i (.done (.ok (x, us))) :=
  ⟨h, fun _ => hlt⟩

theorem proceeds_error {err : ParseError} : Proceeds i (.done (.error err) : CallBody α) := trivial

theorem proceeds_call (h : Takes i.2 us) (hlt : us.length < i.2.length) : Proceeds i (.call (p, us) .done) :=
  ⟨below_of_takes h hlt, fun _ ha => Consumes.of_takes h hlt ha⟩

theorem proceeds_read {next : p.Result → List Token → CallBody α} (hbelow : Below (p, us) i) (h : Takes i.2 us)
    (hnext : ∀ x rest, Takes i.2 rest → (p.mayBeEmpty = false → rest.length < us.length) → Proceeds i (next x rest)) :
    Proceeds i (read p us next) := by
  refine ⟨hbelow, fun a ha => ?_⟩
  match a, ha with
  | .ok (x, rest), ⟨htakes, hlt⟩ => exact hnext x rest (h.trans htakes) hlt
  | .error err, _ => exact proceeds_error

theorem proceeds_expect {k : Kind} {expected : String → Nat → ParseError} {next : List Token → CallBody α}
    (hk : k ≠ .eof) (h : Takes i.2 us)
    (hnext : ∀ rest, Takes i.2 rest → rest.length < us.length → Proceeds i (next rest)) :
    Proceeds i (expect k expected us next) := by
  unfold expect
  split
  · rename_i rest haccept
    obtain ⟨x, o, rfl⟩ := eq_of_accept? haccept
    exact hnext rest (h.trans (takes_cons hk _)) (Nat.lt_succ_self _)
  · exact proceeds_error

end Contract

section Bodies

variable {t : Token} {ts : List Token}

theorem proceeds_operators (r : Rule) (left : Expr) : Proceeds (.operators r left, ts) (operatorsBody r left ts) := by
  cases ts with
  | nil => exact ⟨takes_refl _, nofun⟩
  | cons t ts =>
    rw [operatorsBody]
    split
    · rename_i op hop
      have ht : Takes (t :: ts) ts := takes_cons (operator?_ne_eof hop) ts
      refine proceeds_read (below_of_takes ht (Nat.lt_succ_self _)) ht fun right rest hrest hlt => ?_
      exact proceeds_call hrest (Nat.lt_succ_of_lt (hlt rfl))
    · exact ⟨takes_refl _, nofun⟩

theorem proceeds_prefixed : Proceeds (.rule .prefixed, ts) (prefixedBody ts) := by
  have hdown (us : List Token) : Below (.rule .applied, us) (.rule .prefixed, us) :=
    runsOut_of_height rfl (by decide : 1 < 2)
  cases ts with
  | nil => exact ⟨hdown [], fun _ ha => ha⟩
  | cons t ts =>
    rw [prefixedBody]
    split
    · rename_i op hop
      have ht : Takes (t :: ts) ts := takes_cons (ofKind?_ne_eof hop) ts
      refine proceeds_read (below_of_takes ht (Nat.lt_succ_self _)) ht fun e rest hrest hlt => ?_
      exact proceeds_done hrest (Nat.lt_succ_of_lt (hlt rfl))
    · exact ⟨hdown (t :: ts), fun _ ha => ha⟩

theorem proceeds_method {i : Call} (e : Expr) (h : Takes i.2 ts) (hlt : ts.length < i.2.length) :
    Proceeds i (methodBody e ts) := by
  cases ts with
  | nil => exact proceeds_error
  | cons t ts =>
    rw [methodBody]
    split
    · rename_i name hk
      have ht : Takes (t :: ts) ts := takes_cons (by simp [hk]) ts
      exact proceeds_call (h.trans ht) (Nat.lt_of_succ_lt hlt)
    · exact proceeds_error

theorem proceeds_suffixes (e : Expr) : Proceeds (.suffixes e, ts) (suffixesBody e ts) := by
  cases ts with
  | nil => exact ⟨takes_refl _, nofun⟩
  | cons t ts =>
    rw [suffixesBody]
    split
    · rename_i hk
      have ht : Takes (t :: ts) ts := takes_cons (by simp [hk]) ts
      refine proceeds_read (below_of_takes ht (Nat.lt_succ_self _)) ht fun es rest hrest hlt => ?_
      exact proceeds_call hrest (Nat.lt_succ_of_lt (hlt rfl))
    · rename_i hk
      exact proceeds_method e (takes_cons (by simp [hk]) ts) (Nat.lt_succ_self _)
    · exact ⟨takes_refl _, nofun⟩

theorem proceeds_applied : Proceeds (.rule .applied, ts) (body (.rule .applied, ts)) := by
  have hdown : Below (.rule .atom, ts) (.rule .applied, ts) := runsOut_of_height rfl (by decide : 0 < 1)
  exact proceeds_read hdown (takes_refl ts) fun e rest hrest hlt => proceeds_call hrest (hlt rfl)

/-- The operands of an operator are by a tighter rule. -/
theorem proceeds_binary {r : Rule} (hr : (rule r.operand).height < (rule r).height) :
    Proceeds (.rule r, ts) (read (.rule r.operand) ts fun left rest => .call (.operators r left, rest) .done) := by
  refine proceeds_read (runsOut_of_height rfl hr) (takes_refl ts) fun left rest hrest hlt => ?_
  exact proceeds_call hrest (hlt rfl)

theorem proceeds_atom : Proceeds (.rule .atom, ts) (atomBody ts) := by
  cases ts with
  | nil => exact proceeds_error
  | cons t ts =>
    have hlt : ts.length < (t :: ts).length := Nat.lt_succ_self _
    rw [atomBody]
    split
    · rename_i e he
      exact proceeds_done (takes_cons (atom?_ne_eof he) ts) hlt
    · split
      · rename_i hk
        exact proceeds_call (takes_cons (by simp [hk]) ts) hlt
      · rename_i hk
        exact proceeds_call (takes_cons (by simp [hk]) ts) hlt
      · exact proceeds_error

theorem proceeds_arguments : Proceeds (.arguments, ts) (argumentsBody ts) := by
  unfold argumentsBody
  split
  · rename_i rest haccept
    obtain ⟨x, o, rfl⟩ := eq_of_accept? haccept
    exact proceeds_done (takes_cons (by simp) rest) (Nat.lt_succ_self _)
  · exact ⟨runsOut_of_height rfl (by decide : 7 < 8), fun _ ha => ha⟩

/-- An expression on the same tokens is further down. -/
theorem below_equality {p : Production} (h : 6 < p.height) : Below (.rule .equality, ts) (p, ts) :=
  runsOut_of_height rfl h

theorem proceeds_moreArguments (es : List Expr) : Proceeds (.moreArguments es, ts) (moreArgumentsBody es ts) := by
  refine proceeds_read (below_equality (by decide : 6 < 7)) (takes_refl ts) fun e rest hrest hlt => ?_
  have hlt : rest.length < ts.length := hlt rfl
  split
  · rename_i us haccept
    obtain ⟨x, o, rfl⟩ := eq_of_accept? haccept
    exact proceeds_call (hrest.trans (takes_cons (by simp) us)) (Nat.lt_of_succ_lt hlt)
  · exact proceeds_expect nofun hrest fun us hus hlt' => proceeds_done hus (Nat.lt_trans hlt' hlt)

theorem proceeds_grouping : Proceeds (.grouping, ts) (body (.grouping, ts)) := by
  refine proceeds_read (below_equality (by decide : 6 < 7)) (takes_refl ts) fun e rest hrest hlt => ?_
  exact proceeds_expect nofun hrest fun us hus hlt' => proceeds_done hus (Nat.lt_trans hlt' (hlt rfl))

theorem proceeds_segments (es : List Expr) (quote : Nat) :
    Proceeds (.segments es quote, ts) (segmentsBody es quote ts) := by
  cases ts with
  | nil => exact proceeds_error
  | cons t ts =>
    have hlt : ts.length < (t :: ts).length := Nat.lt_succ_self _
    rw [segmentsBody]
    split
    · rename_i s hk
      exact proceeds_call (takes_cons (by simp [hk]) ts) hlt
    · rename_i hk
      have ht : Takes (t :: ts) ts := takes_cons (by simp [hk]) ts
      refine proceeds_read (below_of_takes ht hlt) ht fun e rest hrest hlt' => ?_
      have hlt' : rest.length < ts.length := hlt' rfl
      exact proceeds_expect nofun hrest fun us hus hlt'' =>
        proceeds_call hus (Nat.lt_trans hlt'' (Nat.lt_trans hlt' hlt))
    · rename_i hk
      exact proceeds_done (takes_cons (by simp [hk]) ts) hlt
    · exact proceeds_error
    · exact proceeds_error

end Bodies

/-- Every call keeps its contract, if those that it makes do. -/
theorem proceeds_body (i : Call) : Proceeds i (body i) := by
  obtain ⟨p, ts⟩ := i
  cases p with
  | rule r =>
    cases r with
    | equality | order | sum | product => exact proceeds_binary (by decide)
    | prefixed => exact proceeds_prefixed
    | applied => exact proceeds_applied
    | atom => exact proceeds_atom
  | operators r left => exact proceeds_operators r left
  | suffixes e => exact proceeds_suffixes e
  | grouping => exact proceeds_grouping
  | arguments => exact proceeds_arguments
  | moreArguments es => exact proceeds_moreArguments es
  | segments es quote => exact proceeds_segments es quote

/-- Every call ends. Where it reads something, it is some tokens and no end of the input. -/
theorem exists_answers (i : Call) : ∃ a, Body.Answers body (body i) a ∧ Consumes i.1.mayBeEmpty i.2 a :=
  Body.exists_answers proceeds_body (wellFounded_runsOut _ _) i

/-- Every call that a call makes is on fewer tokens, or on the same further down. -/
theorem below_of_calls {i j : Call} (h : Body.Calls body (body i) j) : Below j i :=
  h.of_meets (fun i _ ha => ha.of_meets proceeds_body (proceeds_body i)) (proceeds_body i)

end Production

end Formula.Grammar
