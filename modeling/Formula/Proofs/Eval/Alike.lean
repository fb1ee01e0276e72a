import Mathlib.Data.List.Forall2
import Formula.Proofs.Eval.Outcomes
import Formula.Proofs.Eval.Provenance
import Formula.Proofs.Number.Alike

/-!
# The sign of zero cannot be told

Values are alike if they are the same but for numbers that are alike. With the standard library alone, evaluation
takes alike variables to alike values, or fails with the same error, and alike values have the same text. So nothing
that an expression does depends on the sign of a zero.

- `Value.Alike`: alike values; `Value.Related`: alike values of the standard library.
- `BinaryOperator.apply_alike`, `Builtin.run_alike`, `Environment.apply_alike`: what is done with alike values.
- `Environment.outcomes_alike`: expressions over alike variables.
- `Environment.eval_alike`: alike values, equal errors and equal texts.
-/

namespace Formula

variable {φ : Type}

/-! ## Alike values -/

/-- The values are the same but for numbers that are alike, as such or as callers of functions. -/
inductive Value.Alike : Value φ → Value φ → Prop
  | number {x y : Float} (h : Number.Alike x y) : Alike (.number x) (.number y)
  | text (s : String) : Alike (.text s) (.text s)
  | bool (b : Bool) : Alike (.bool b) (.bool b)
  | nil : Alike .nil .nil
  | unbound (selector : String) (native : Native φ) :
      Alike (.function ⟨selector, none, native⟩) (.function ⟨selector, none, native⟩)
  | bound (selector : String) {v w : Value φ} (native : Native φ) (h : Alike v w) :
      Alike (.function ⟨selector, some v, native⟩) (.function ⟨selector, some w, native⟩)

namespace Value.Alike

variable {v v' w w' : Value φ}

theorem isTruthy (h : v.Alike w) : v.isTruthy = w.isTruthy := by
  cases h <;> rfl

/-- Alike values have the same text, -/
theorem toText (h : v.Alike w) : v.toText = w.toText := by
  cases h with
  | number h => exact h.plain
  | _ => rfl

/-- also within a string literal. -/
theorem interpolate (h : v.Alike w) : v.interpolate = w.interpolate := by
  cases h with
  | number h => exact congrArg Value.text h.plain
  | _ => rfl

/-- Equality does not tell alike values apart, nor alike callers. -/
theorem equals (h : v.Alike v') (h' : w.Alike w') : v.equals w = v'.equals w' := by
  induction h generalizing w w' with
  | number hx =>
    cases h' with
    | number hy => exact hx.beq hy
    | _ => rfl
  | bound selector native h ih =>
    cases h' with
    | bound selector' native' hw =>
      rw [Value.equals, Value.equals, ih hw]
    | _ => rfl
  | text | bool | nil | unbound => cases h' <;> rfl

end Value.Alike

/-- The value is no function, or one of the standard library. -/
def Value.OfLibrary : Value φ → Prop
  | .function f => ∃ b, f.native = .builtin b
  | _ => True

/-- Alike values that hold no function of a host to call. -/
structure Value.Related (v w : Value φ) : Prop where
  alike : v.Alike w
  library : v.OfLibrary

theorem Value.related_interpolate (v : Value φ) : v.interpolate.Related v.interpolate := by
  cases v with
  | nil => exact ⟨.nil, trivial⟩
  | _ => exact ⟨.text _, trivial⟩

/-! ## Operators -/

section Operators

variable {l l' r r' v w : Value φ} (o : Nat)

theorem UnaryOperator.apply_alike (op : UnaryOperator) (h : v.Alike w) :
    Outcomes Eq Value.Related (op.apply v o) (op.apply w o) := by
  cases op with
  | negate =>
    cases h with
    | number hx => exact .ok ⟨.number hx.neg, trivial⟩
    | _ => exact .error rfl
  | not =>
    rw [apply, apply, h.isTruthy]
    exact .ok ⟨.bool _, trivial⟩

namespace BinaryOperator

theorem applySum_alike (h : l.Alike l') (h' : r.Alike r') :
    Outcomes Eq Value.Related (applySum l r o) (applySum l' r' o) := by
  cases h with
  | @number x x' hx =>
    cases h' with
    | number hy => exact .ok ⟨.number (hx.add hy), trivial⟩
    | text t =>
      rw [applySum, applySum, hx.plain]
      exact .ok ⟨.text _, trivial⟩
    | _ => exact .error rfl
  | text s =>
    cases h' with
    | number hy =>
      rw [applySum, applySum, hy.plain]
      exact .ok ⟨.text _, trivial⟩
    | text t => exact .ok ⟨.text _, trivial⟩
    | _ => exact .error rfl
  | _ => cases h' <;> exact .error rfl

/-- A divisor is a zero of either sign or none. -/
theorem applyArithmetic_alike (op : BinaryOperator) (h : l.Alike l') (h' : r.Alike r') :
    Outcomes Eq Value.Related (op.applyArithmetic l r o) (op.applyArithmetic l' r' o) := by
  cases h with
  | @number x x' hx =>
    cases h' with
    | @number y y' hy =>
      cases op with
      | sub => exact .ok ⟨.number (hx.sub hy), trivial⟩
      | mul => exact .ok ⟨.number (hx.mul hy), trivial⟩
      | div =>
        rw [applyArithmetic, applyArithmetic, ← hy.beq (.refl 0)]
        split
        · exact .error rfl
        · rename_i hzero
          exact .ok ⟨.number (hx.div hy (Bool.eq_false_iff.mpr hzero)), trivial⟩
      | _ => exact .error rfl
    | _ => exact .error rfl
  | _ => cases h' <;> exact .error rfl

theorem applyOrder_alike (op : BinaryOperator) (h : l.Alike l') (h' : r.Alike r') :
    Outcomes Eq Value.Related (op.applyOrder l r o) (op.applyOrder l' r' o) := by
  cases h with
  | @number x x' hx =>
    cases h' with
    | @number y y' hy =>
      cases op with
      | greater =>
        rw [applyOrder, applyOrder, decide_eq_decide.mpr (hy.lt hx)]
        exact .ok ⟨.bool _, trivial⟩
      | greaterEqual =>
        rw [applyOrder, applyOrder, decide_eq_decide.mpr (hy.le hx)]
        exact .ok ⟨.bool _, trivial⟩
      | less =>
        rw [applyOrder, applyOrder, decide_eq_decide.mpr (hx.lt hy)]
        exact .ok ⟨.bool _, trivial⟩
      | lessEqual =>
        rw [applyOrder, applyOrder, decide_eq_decide.mpr (hx.le hy)]
        exact .ok ⟨.bool _, trivial⟩
      | _ => exact .error rfl
    | _ => exact .error rfl
  | _ => cases h' <;> exact .error rfl

theorem applyComparison_alike (op : BinaryOperator) (h : l.Alike l') (h' : r.Alike r') :
    Outcomes Eq Value.Related (op.applyComparison l r o) (op.applyComparison l' r' o) := by
  unfold applyComparison
  rw [h.equals h']
  split
  · exact .ok ⟨.bool _, trivial⟩
  · exact .ok ⟨.bool _, trivial⟩
  · exact applyOrder_alike o _ h h'

/-- An operator between alike values answers alike. -/
theorem apply_alike (op : BinaryOperator) (h : l.Alike l') (h' : r.Alike r') :
    Outcomes Eq Value.Related (op.apply l r o) (op.apply l' r' o) := by
  unfold apply
  split
  · exact applySum_alike o h h'
  · exact applyArithmetic_alike o _ h h'
  · exact applyArithmetic_alike o _ h h'
  · exact applyArithmetic_alike o _ h h'
  · exact applyComparison_alike o op h h'

end BinaryOperator

end Operators

/-! ## The standard library -/

namespace Builtin

variable {v w : Value φ} {vs ws : List (Value φ)}

/-- The errors say the same. -/
def SameMessage (err err' : BuiltinError) : Prop := err.message = err'.message

theorem sameMessage_invalidDigits {x y : Float} (h : Number.Alike x y) :
    SameMessage (.invalidDigits x) (.invalidDigits y) := by
  dsimp only [SameMessage, BuiltinError.message]
  rw [h.plain]

theorem format_alike {x y : Float} (h : Number.Alike x y) (hrest : List.Forall₂ Value.Alike vs ws) :
    Outcomes SameMessage Value.Related (format x vs) (format y ws) := by
  cases hrest with
  | nil =>
    rw [format, format, h.plain]
    exact .ok ⟨.text _, trivial⟩
  | cons hfirst _ =>
    cases hfirst with
    | @number places places' hplaces =>
      rw [format, format, hplaces.toCount?]
      cases Number.toCount? places' maxFractionDigits.toUInt64 with
      | some n =>
        refine .ok ⟨?_, trivial⟩
        rw [h.fixed]
        exact .text _
      | none => exact .error (sameMessage_invalidDigits hplaces)
    | _ => exact .error rfl

theorem apply_alike (b : Builtin) (h : v.Alike w) (hrest : List.Forall₂ Value.Alike vs ws) :
    Outcomes SameMessage Value.Related (b.apply v vs) (b.apply w ws) := by
  cases b with
  | formatted =>
    cases h with
    | number hx => exact format_alike hx hrest
    | _ => exact .error rfl
  | rounded =>
    cases h with
    | number hx => exact .ok ⟨.number hx.rounded, trivial⟩
    | _ => exact .error rfl
  | uppercased | lowercased =>
    cases h with
    | text s => exact .ok ⟨.text _, trivial⟩
    | _ => exact .error rfl

theorem runOn_alike (b : Builtin) (h : v.Alike w) (hrest : List.Forall₂ Value.Alike vs ws) :
    Outcomes SameMessage Value.Related (b.runOn v vs) (b.runOn w ws) := by
  rw [runOn, runOn, hrest.length_eq]
  split
  · exact apply_alike b h hrest
  · exact .error rfl

theorem run_alike (b : Builtin) (hrest : List.Forall₂ Value.Alike vs ws) :
    Outcomes SameMessage Value.Related (b.run none vs) (b.run none ws) := by
  cases hrest with
  | nil => exact .error rfl
  | cons hfirst hrest => exact runOn_alike b hfirst hrest

end Builtin

/-! ## Expressions -/

namespace Environment

variable {env env' : Environment φ}

/-- Variables of the same name and alike values that are no functions. -/
structure AlikeVariable (a b : Variable φ) : Prop where
  name : a.name = b.name
  value : a.value.Alike b.value
  type : a.value.type ≠ .function

theorem AlikeVariable.related {a b : Variable φ} (h : AlikeVariable a b) : a.value.Related b.value := by
  refine ⟨h.value, ?_⟩
  cases hv : a.value with
  | function f => exact absurd (congrArg Value.type hv) h.type
  | _ => trivial

/-- The first variables of a name are alike, or there are none. -/
theorem find?_alike {vs ws : List (Variable φ)} (h : List.Forall₂ AlikeVariable vs ws) (name : String) :
    Option.Rel AlikeVariable (vs.find? (·.name = name)) (ws.find? (·.name = name)) := by
  induction h with
  | nil => exact .none
  | @cons a b as bs hab _ ih =>
    by_cases hname : a.name = name
    · rw [List.find?_cons_of_pos (by simpa using hname), List.find?_cons_of_pos (by simpa [← hab.name] using hname)]
      exact .some hab
    · rw [List.find?_cons_of_neg (by simpa using hname), List.find?_cons_of_neg (by simpa [← hab.name] using hname)]
      exact ih

/-- Environments without functions of a host, whose variables are alike. -/
structure Alike (env env' : Environment φ) : Prop where
  host : env.hostFunctions = []
  host' : env'.hostFunctions = []
  vars : List.Forall₂ AlikeVariable env.vars env'.vars

namespace Alike

theorem lookup? (h : env.Alike env') (name : String) : env.lookup? name = env'.lookup? name := by
  rw [Environment.lookup?, Environment.lookup?, functions, functions, h.host, h.host']

/-- What is looked up is of the standard library. -/
theorem exists_builtin (h : env.Alike env') {name : String} {f : Function φ} (hf : env.lookup? name = some f) :
    ∃ b, f = Builtin.toFunction b := by
  have hmem := List.mem_of_find?_eq_some hf
  rw [List.mem_reverse, functions, h.host, List.append_nil, Builtin.library] at hmem
  obtain ⟨b, -, rfl⟩ := List.mem_map.mp hmem
  exact ⟨b, rfl⟩

/-- A name stands for alike values. -/
theorem resolve (h : env.Alike env') (name : String) : (env.resolve name).Related (env'.resolve name) := by
  have hvars := find?_alike h.vars name
  rw [Environment.resolve, Environment.resolve, ← h.lookup?]
  revert hvars
  generalize env.vars.find? (·.name = name) = a
  generalize env'.vars.find? (·.name = name) = b
  rintro (⟨hab⟩ | -)
  · exact hab.related
  · cases hf : env.lookup? name with
    | none => exact ⟨.nil, trivial⟩
    | some f =>
      obtain ⟨b, rfl⟩ := h.exists_builtin hf
      exact ⟨.unbound _ _, b, rfl⟩

/-- A method is a function of the standard library, or there is none. -/
theorem bindMethod (h : env.Alike env') {v w : Value φ} (hvw : v.Alike w) (name : String) (o : Nat) :
    Outcomes Eq Value.Related (env.bindMethod v name o) (env'.bindMethod w name o) := by
  rw [Environment.bindMethod, Environment.bindMethod, ← h.lookup?]
  cases hf : env.lookup? name with
  | none => exact .error rfl
  | some f =>
    obtain ⟨b, rfl⟩ := h.exists_builtin hf
    exact .ok ⟨.bound _ _ hvw, b, rfl⟩

/-- Alike functions of the standard library answer alike. -/
theorem call {f g : Function φ} (hfg : (Value.function f).Related (.function g)) {vs ws : List (Value φ)}
    (hvs : List.Forall₂ Value.Alike vs ws) : Outcomes Eq Value.Related (env.call f vs) (env'.call g ws) := by
  obtain ⟨halike, b, hb⟩ := hfg
  cases halike with
  | unbound selector native =>
    obtain rfl : native = .builtin b := hb
    exact (Builtin.run_alike b hvs).mapError fun _ _ hmessage => hmessage
  | bound selector native hcaller =>
    obtain rfl : native = .builtin b := hb
    exact (Builtin.runOn_alike b hcaller hvs).mapError fun _ _ hmessage => hmessage

/-- A call of alike values answers alike. -/
theorem apply {v w : Value φ} (h : v.Related w) {vs ws : List (Value φ)} (hvs : List.Forall₂ Value.Alike vs ws)
    (callee : Expr) (o : Nat) :
    Outcomes Eq Value.Related (env.apply callee v vs o) (env'.apply callee w ws o) := by
  obtain ⟨halike, hlibrary⟩ := h
  have hcall : ∀ {f g : Function φ}, f.selector = g.selector → (Value.function f).Related (.function g) →
      Outcomes Eq Value.Related (env.apply callee (.function f) vs o) (env'.apply callee (.function g) ws o) := by
    intro f g hselector hfg
    refine (call hfg hvs).mapError ?_
    rintro message _ rfl
    rw [hselector]
  cases halike with
  | unbound selector native => exact hcall rfl ⟨.unbound selector native, hlibrary⟩
  | bound selector native hcaller => exact hcall rfl ⟨.bound selector native hcaller, hlibrary⟩
  | _ => exact .error rfl

end Alike

mutual

/-- Over alike variables, an expression has alike values, or the same error. -/
theorem outcomes_alike (h : env.Alike env') : ∀ e : Expr, Outcomes Eq Value.Related (env.eval e) (env'.eval e)
  | .number x => .ok ⟨.number (.refl x), trivial⟩
  | .string s => .ok ⟨.text s, trivial⟩
  | .bool b => .ok ⟨.bool b, trivial⟩
  | .nil => .ok ⟨.nil, trivial⟩
  | .identifier name _ => .ok (h.resolve name)
  | .unary op operand o => by
    rw [eval, eval]
    refine (outcomes_alike h operand).bind fun v w _ _ hvw => ?_
    exact op.apply_alike o hvw.alike
  | .binary left op right o => by
    rw [eval, eval]
    refine (outcomes_alike h left).bind fun l l' _ _ hl => ?_
    refine (outcomes_alike h right).bind fun r r' _ _ hr => ?_
    exact op.apply_alike o hl.alike hr.alike
  | .grouping inner => outcomes_alike h inner
  | .call callee arguments o => by
    rw [eval, eval]
    refine (outcomes_alike h callee).bind fun v w _ _ hvw => ?_
    refine (outcomes_alikeAll h arguments).bind fun vs ws _ _ hvs => ?_
    exact Alike.apply hvw hvs callee o
  | .method receiver name o => by
    rw [eval, eval]
    refine (outcomes_alike h receiver).bind fun v w _ _ hvw => ?_
    exact h.bindMethod hvw.alike name o
  | .interpolation inner _ => by
    rw [eval, eval]
    refine (outcomes_alike h inner).bind fun v w _ _ hvw => .ok ?_
    rw [hvw.alike.interpolate]
    exact w.related_interpolate

theorem outcomes_alikeAll (h : env.Alike env') :
    ∀ es : List Expr, Outcomes Eq (List.Forall₂ Value.Alike) (env.evalAll es) (env'.evalAll es)
  | [] => .ok .nil
  | e :: es => by
    rw [evalAll, evalAll]
    refine (outcomes_alike h e).bind fun v w _ _ hvw => ?_
    refine (outcomes_alikeAll h es).bind fun vs ws _ _ hvs => ?_
    exact .ok (.cons hvw.alike hvs)

end

/-- **The sign of zero cannot be told.** With the standard library alone and alike variables that are no functions, an
expression fails with the same error or has alike values, and alike values have the same text, in a string literal and
outside. -/
theorem eval_alike (h : env.Alike env') :
    (∀ e : Expr, Outcomes Eq Value.Alike (env.eval e) (env'.eval e)) ∧
    ∀ v w : Value φ, v.Alike w → v.toText = w.toText ∧ v.interpolate = w.interpolate :=
  ⟨fun e => (outcomes_alike h e).imp (fun _ _ herr => herr) fun _ _ hvw => hvw.alike,
    fun _ _ hvw => ⟨hvw.toText, hvw.interpolate⟩⟩

/-- Both zeros are divided by with the same error, are called with alike answers, and are written alike. -/
theorem eval_alike_zero :
    (0 : Float).toBits ≠ (-0 : Float).toBits ∧ (bare.bind "x" (.number 0)).Alike (bare.bind "x" (.number (-0))) ∧
    Outcomes Eq Value.Alike ((bare.bind "x" (.number 0)).eval (.binary (.number 1) .div (.identifier "x" 2) 1))
      ((bare.bind "x" (.number (-0))).eval (.binary (.number 1) .div (.identifier "x" 2) 1)) ∧
    Outcomes Eq Value.Alike ((bare.bind "x" (.number 0)).eval (.method (.identifier "x" 0) "rounded" 2))
      ((bare.bind "x" (.number (-0))).eval (.method (.identifier "x" 0) "rounded" 2)) ∧
    (Value.number 0 : Value Unit).toText = (Value.number (-0) : Value Unit).toText := by
  have hzeros : Number.Alike 0 (-0) := .inl ⟨by decide +kernel, by decide +kernel⟩
  have hvariable : AlikeVariable (⟨"x", .number 0⟩ : Variable Unit) ⟨"x", .number (-0)⟩ :=
    { name := rfl, value := .number hzeros, type := nofun }
  have h : (bare.bind "x" (.number 0)).Alike (bare.bind "x" (.number (-0))) :=
    { host := rfl, host' := rfl, vars := .cons hvariable .nil }
  obtain ⟨heval, htext⟩ := eval_alike h
  exact ⟨by decide +kernel, h, heval _, heval _, (htext _ _ (.number hzeros)).1⟩

end Environment

end Formula
