import Formula.Eval

/-!
# Methods of the standard library

A built-in function may be taken as a method of its subject, or called by its name with the subject as its first
argument. Either way the subject is evaluated first, then the other arguments, and what is left is up to the function.
So both forms have the same value or fail alike, as long as the name is not bound to anything else.

- `Environment.lookup?_builtin`, `Environment.resolve_builtin`: the name of a built-in function.
- `Environment.apply_builtin`: what a call of a built-in function answers.
- `Environment.callBuiltin`: what a built-in function answers for its subject and the other arguments.
- `Environment.eval_call_method`, `Environment.eval_call_identifier`: the method form and the function form.
- `Environment.eval_method_eq_function`: they are the same.
-/

namespace Formula

namespace Environment

variable {φ : Type} {env : Environment φ} {b : Builtin}

/-! ## The name of a built-in function -/

/-- The name finds the built-in function, unless the host has a function of that name. -/
theorem lookup?_builtin (hhost : ∀ f ∈ env.hostFunctions, f.selector ≠ b.name) :
    env.lookup? b.name = some b.toFunction := by
  have hnone : env.hostFunctions.reverse.find? (·.selector = b.name) = none := by
    rw [List.find?_eq_none]
    intro f hf
    simpa using hhost f (List.mem_reverse.mp hf)
  have hlibrary : (Builtin.library.reverse : List (Function φ)).find? (·.selector = b.name) = some b.toFunction := by
    cases b <;> rfl
  rw [lookup?, functions, List.reverse_append, List.find?_append, hnone, Option.none_or, hlibrary]

/-- The name stands for the built-in function, unless there is also a variable of that name. -/
theorem resolve_builtin (hvars : ∀ v ∈ env.vars, v.name ≠ b.name)
    (hhost : ∀ f ∈ env.hostFunctions, f.selector ≠ b.name) : env.resolve b.name = .function b.toFunction := by
  have hnone : env.vars.find? (·.name = b.name) = none := by
    rw [List.find?_eq_none]
    intro v hv
    simpa using hvars v hv
  rw [resolve, hnone, lookup?_builtin hhost]

/-! ## Calls -/

/-- The answer of a built-in function for what its subject and the other arguments evaluate to. -/
def callBuiltin (b : Builtin) (subject : Except EvalError (Value φ)) (rest : Except EvalError (List (Value φ)))
    (offset : Nat) : Except EvalError (Value φ) := do
  let v ← subject
  let vs ← rest
  (b.runOn v vs).mapError fun err => .callFailed b.name err.message offset

/-- To call a function of the standard library is to run it with its caller. -/
theorem apply_builtin {f : Function φ} (h : f.native = .builtin b) (callee : Expr) (vs : List (Value φ)) (o : Nat) :
    env.apply callee (.function f) vs o =
      (b.run f.caller vs).mapError fun err => .callFailed f.selector err.message o := by
  have hcall : env.call f vs = (b.run f.caller vs).mapError BuiltinError.message := by rw [call, h]
  rw [apply, hcall]
  cases b.run f.caller vs <;> rfl

variable (receiver : Expr) (arguments : List Expr)

/-- The method form: the receiver is the subject. -/
theorem eval_call_method (hhost : ∀ f ∈ env.hostFunctions, f.selector ≠ b.name) (o o' : Nat) :
    env.eval (.call (.method receiver b.name o) arguments o') =
      callBuiltin b (env.eval receiver) (env.evalAll arguments) o' := by
  have hmethod : ∀ v, env.bindMethod v b.name o = .ok (.function (b.toFunction.bind v)) := by
    intro v
    rw [bindMethod, lookup?_builtin hhost]
  rw [eval, eval, callBuiltin]
  simp only [hmethod]
  cases env.eval receiver with
  | error err => rfl
  | ok v =>
    cases env.evalAll arguments with
    | error err => rfl
    | ok vs => exact apply_builtin (f := b.toFunction.bind v) rfl (.method receiver b.name o) vs o'

/-- The function form: the first argument is the subject. -/
theorem eval_call_identifier (hvars : ∀ v ∈ env.vars, v.name ≠ b.name)
    (hhost : ∀ f ∈ env.hostFunctions, f.selector ≠ b.name) (o o' : Nat) :
    env.eval (.call (.identifier b.name o) (receiver :: arguments) o') =
      callBuiltin b (env.eval receiver) (env.evalAll arguments) o' := by
  rw [eval, eval, evalAll, resolve_builtin hvars hhost, callBuiltin]
  cases env.eval receiver with
  | error err => rfl
  | ok v =>
    cases env.evalAll arguments with
    | error err => rfl
    | ok vs => exact apply_builtin (f := b.toFunction) rfl (.identifier b.name o) (v :: vs) o'

/-- **Method form and function form agree.** Where neither a variable nor a function of the host has the name of a
built-in function, to call it as a method of a receiver is to call it with the receiver in front of the arguments: both
have the same value, or the same error, wherever that comes from. -/
theorem eval_method_eq_function (env : Environment φ) (b : Builtin) (hvars : ∀ v ∈ env.vars, v.name ≠ b.name)
    (hhost : ∀ f ∈ env.hostFunctions, f.selector ≠ b.name) (receiver : Expr) (arguments : List Expr)
    (o o' o'' : Nat) :
    env.eval (.call (.method receiver b.name o) arguments o'') =
      env.eval (.call (.identifier b.name o') (receiver :: arguments) o'') := by
  rw [eval_call_method receiver arguments hhost, eval_call_identifier receiver arguments hvars hhost]

/-- A host with a text and a function. -/
def textHost : Environment Unit :=
  ⟨[⟨"x", .text "two"⟩], [.unbound "double" (.host ())], fun _ _ _ => .error ""⟩

/-- Beside another variable and another function of the host, both forms refuse a text that is no number, and both count
the arguments without the subject. -/
theorem eval_method_eq_function_refused :
    (∀ v ∈ textHost.vars, v.name ≠ Builtin.rounded.name) ∧
    (∀ f ∈ textHost.hostFunctions, f.selector ≠ Builtin.rounded.name) ∧
    textHost.eval (.call (.method (.identifier "x" 0) "rounded" 2) [] 9) =
      textHost.eval (.call (.identifier "rounded" 0) [.identifier "x" 8] 9) ∧
    textHost.eval (.call (.identifier "rounded" 0) [.identifier "x" 8] 9) =
      .error (.callFailed "rounded" "expected a number, found string" 9) ∧
    textHost.eval (.call (.method (.identifier "x" 0) "rounded" 2) [.nil] 9) =
      textHost.eval (.call (.identifier "rounded" 0) [.identifier "x" 8, .nil] 9) ∧
    textHost.eval (.call (.identifier "rounded" 0) [.identifier "x" 8, .nil] 9) =
      .error (.callFailed "rounded" "expected 0 argument(s), found 1" 9) := by
  have hvars : ∀ v ∈ textHost.vars, v.name ≠ Builtin.rounded.name := by decide
  have hhost : ∀ f ∈ textHost.hostFunctions, f.selector ≠ Builtin.rounded.name := by decide
  refine ⟨hvars, hhost, ?_, rfl, ?_, rfl⟩
  · exact eval_method_eq_function textHost .rounded hvars hhost _ _ 2 0 9
  · exact eval_method_eq_function textHost .rounded hvars hhost _ _ 2 0 9

end Environment

end Formula
