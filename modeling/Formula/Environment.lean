import Formula.Library

/-!
# Environments

What an expression is evaluated against: the variables and functions of the host and what the codes of its functions
do. The standard library comes before the functions of the host.

- `Environment.resolve`: what a name stands for: the first variable of that name, or else a function, or else `nil`.
- `Environment.lookup?`: the function of a selector, the last one if there are several, so that a host can replace
  built-in functions.
- `Environment.call`: the result of a function.
-/

namespace Formula

/-- What an expression is evaluated against. -/
structure Environment (φ : Type) where
  vars : List (Variable φ)
  /-- The functions of the host. -/
  hostFunctions : List (Function φ)
  /-- What a function of the host answers for a caller, if there is one, and arguments. -/
  run : φ → Option (Value φ) → List (Value φ) → Except String (Value φ)

namespace Environment

variable {φ : Type}

/-- All functions: the standard library, then those of the host. -/
def functions (env : Environment φ) : List (Function φ) := Builtin.library ++ env.hostFunctions

/-- The last function of the selector. -/
def lookup? (env : Environment φ) (selector : String) : Option (Function φ) :=
  env.functions.reverse.find? (·.selector = selector)

/-- The value that a name stands for. -/
def resolve (env : Environment φ) (name : String) : Value φ :=
  match env.vars.find? (·.name = name) with
  | some v => v.value
  | none =>
    match env.lookup? name with
    | some f => .function f
    | none => .nil

/-- The result of a function for arguments and its caller. -/
def call (env : Environment φ) (f : Function φ) (arguments : List (Value φ)) : Except String (Value φ) :=
  match f.native with
  | .builtin b => (b.run f.caller arguments).mapError BuiltinError.message
  | .host code => env.run code f.caller arguments

/-- The environment with one more variable in front. -/
def bind (env : Environment φ) (name : String) (v : Value φ) : Environment φ :=
  { env with vars := ⟨name, v⟩ :: env.vars }

/-! ## Look-up -/

theorem resolve_bind (env : Environment φ) (name x : String) (v : Value φ) :
    (env.bind x v).resolve name = if x = name then v else env.resolve name := by
  by_cases h : x = name <;> simp [resolve, bind, h, lookup?, functions]

end Environment

end Formula
