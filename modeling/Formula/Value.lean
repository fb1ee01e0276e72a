import Formula.Builtin
import Formula.Number.Format
import Formula.Text.Quoted

/-!
# Values

What expressions evaluate to: numbers, texts, booleans, `nil` and functions. A function may have been taken as a
method of a value, its caller, which may itself be such a function. Host functions are known by a code of a type `φ`
of the host's choice; what a code does is said where expressions are evaluated.

- `Value.type`: the type of a value and the name it goes by in messages.
- `Value.equals`: the equality of the language: numbers by their value, functions by selector and caller.
- `Value.toText`: a value as text; `Value.inspect`: a value as it is shown to a developer.
-/

namespace Formula

/-- What a function does: something built in, or something of the host's. -/
inductive Native (φ : Type) where
  | builtin (b : Builtin)
  | host (code : φ)
  deriving DecidableEq

/-- A function whose caller, if it was taken as a method, is of type `ν`. -/
structure FunctionOver (ν φ : Type) where
  /-- The name it is looked up by. -/
  selector : String
  /-- The receiver, if it was taken as a method. -/
  caller : Option ν
  /-- What it does. -/
  native : Native φ

/-- A value; host functions are known by codes of type `φ`. -/
inductive Value (φ : Type) where
  | number (x : Float)
  | text (s : String)
  | bool (b : Bool)
  | nil
  | function (f : FunctionOver (Value φ) φ)

/-- A function, taken as a method of a value or of none. -/
abbrev Function (φ : Type) := FunctionOver (Value φ) φ

/-- A named value. -/
structure Variable (φ : Type) where
  name : String
  value : Value φ

namespace FunctionOver

variable {φ : Type}

/-- The function that is looked up by `selector` and does what `native` does. -/
def unbound (selector : String) (native : Native φ) : Function φ := ⟨selector, none, native⟩

/-- The function as a method of `receiver`, in place of any caller it has. -/
def bind (f : Function φ) (receiver : Value φ) : Function φ := { f with caller := some receiver }

end FunctionOver

/-! ## Types -/

/-- The types of values. -/
inductive ValueType where
  | number | string | bool | nil | function
  deriving DecidableEq, Repr

/-- The name of a type in messages. -/
def ValueType.name : ValueType → String
  | number => "number"
  | string => "string"
  | bool => "bool"
  | nil => "nil"
  | function => "function"

namespace Value

variable {φ : Type}

/-- The type of a value. -/
def type : Value φ → ValueType
  | number _ => .number
  | text _ => .string
  | bool _ => .bool
  | nil => .nil
  | function _ => .function

/-! ## Reading a value -/

/-- The number, if the value is one. -/
def asNumber? : Value φ → Option Float
  | number x => some x
  | _ => none

/-- The text, if the value is one. -/
def asText? : Value φ → Option String
  | text s => some s
  | _ => none

/-- The boolean, if the value is one. -/
def asBool? : Value φ → Option Bool
  | bool b => some b
  | _ => none

/-- The value is `nil`. -/
def isNil : Value φ → Bool
  | nil => true
  | _ => false

/-- How a value counts as a condition: `nil` is false, a boolean is itself, everything else is true. -/
def isTruthy : Value φ → Bool
  | nil => false
  | bool b => b
  | _ => true

/-! ## Equality -/

/-- Equality within a type: numbers are compared as numbers, so that both zeros are equal and not-a-number equals
nothing, and functions by their selectors and callers. -/
def equals : Value φ → Value φ → Bool
  | number x, number y => x == y
  | text s, text t => s = t
  | bool a, bool b => a = b
  | nil, nil => true
  | function ⟨s, none, _⟩, function ⟨t, none, _⟩ => s = t
  | function ⟨s, some v, _⟩, function ⟨t, some w, _⟩ => s = t && v.equals w
  | _, _ => false

/-! ## Text -/

/-- The value as text; a function shows its selector. -/
def toText : Value φ → String
  | number x => Number.plain x
  | text s => s
  | bool b => toString b
  | nil => "nil"
  | function f => "<fn " ++ f.selector ++ ">"

/-- The value as it is shown to a developer. -/
def inspect : Value φ → String
  | number x => "Number(" ++ Number.inspect x ++ ")"
  | text s => "Text(" ++ Text.quote s ++ ")"
  | bool b => "Boolean(" ++ toString b ++ ")"
  | nil => "Nil"
  | function ⟨s, none, _⟩ => "Callable(Callable \x7b selector: " ++ Text.quote s ++ ", caller: None, .. \x7d)"
  | function ⟨s, some v, _⟩ =>
    "Callable(Callable \x7b selector: " ++ Text.quote s ++ ", caller: Some(" ++ v.inspect ++ "), .. \x7d)"

end Value

end Formula
