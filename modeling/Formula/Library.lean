import Formula.Number.Whole
import Formula.Text.Case
import Formula.Value

/-!
# The standard library

Each built-in function works on a subject: its caller if it was taken as a method, or else its first argument. The
count of the other arguments is checked next, then the subject, then the other arguments.

- `Builtin.run`: what a built-in function answers.
- `Builtin.library`: the functions as values.
-/

namespace Formula

/-- Why a built-in function fails. -/
inductive BuiltinError where
  /-- There is neither a caller nor an argument. -/
  | missingSubject (b : Builtin)
  /-- A count of further arguments that the function does not take. -/
  | wrongArity (b : Builtin) (found : Nat)
  /-- The subject is no number. -/
  | expectedNumber (found : ValueType)
  /-- The subject is no text. -/
  | expectedString (found : ValueType)
  /-- A count of places that is not a whole number within the limit. -/
  | invalidDigits (found : Float)
  /-- A count of places that is no number. -/
  | expectedDigits (found : ValueType)

namespace Builtin

variable {φ : Type}

/-- The most places that `formatted` gives. -/
def maxFractionDigits : Nat := 15

/-- How many arguments the function takes besides its subject. -/
def arities : Builtin → List Nat
  | formatted => [0, 1]
  | _ => [0]

/-- The accepted counts in words. -/
def arityText (b : Builtin) : String := " or ".intercalate (b.arities.map toString)

end Builtin

/-- The error in words. -/
def BuiltinError.message : BuiltinError → String
  | missingSubject b => "'" ++ b.name ++ "' needs a value to work on"
  | wrongArity b found => "expected " ++ b.arityText ++ " argument(s), found " ++ toString found
  | expectedNumber found => "expected a number, found " ++ found.name
  | expectedString found => "expected a string, found " ++ found.name
  | invalidDigits found =>
    "fraction digits must be a whole number from 0 to " ++ toString Builtin.maxFractionDigits ++ ", found " ++
      Number.plain found
  | expectedDigits found => "fraction digits must be a number, found " ++ found.name

namespace Builtin

variable {φ : Type}

/-- A number in its plain form, or with a fixed count of places. -/
def format (x : Float) : List (Value φ) → Except BuiltinError (Value φ)
  | [] => .ok (.text (Number.plain x))
  | .number digits :: _ =>
    match Number.toCount? digits maxFractionDigits.toUInt64 with
    | some n => .ok (.text (Number.fixed x n.toNat))
    | none => .error (.invalidDigits digits)
  | other :: _ => .error (.expectedDigits other.type)

/-- The result of the function on a subject and a right count of further arguments. -/
def apply (b : Builtin) (subject : Value φ) (rest : List (Value φ)) : Except BuiltinError (Value φ) :=
  match b with
  | formatted =>
    match subject.asNumber? with
    | some x => format x rest
    | none => .error (.expectedNumber subject.type)
  | rounded =>
    match subject.asNumber? with
    | some x => .ok (.number (Number.rounded x))
    | none => .error (.expectedNumber subject.type)
  | uppercased =>
    match subject.asText? with
    | some s => .ok (.text (Text.uppercase s))
    | none => .error (.expectedString subject.type)
  | lowercased =>
    match subject.asText? with
    | some s => .ok (.text (Text.lowercase s))
    | none => .error (.expectedString subject.type)

/-- The result of the function on a subject and further arguments. -/
def runOn (b : Builtin) (subject : Value φ) (rest : List (Value φ)) : Except BuiltinError (Value φ) :=
  if rest.length ∈ b.arities then b.apply subject rest else .error (.wrongArity b rest.length)

/-- The result of the function for a caller, if there is one, and arguments. -/
def run (b : Builtin) (caller : Option (Value φ)) (arguments : List (Value φ)) : Except BuiltinError (Value φ) :=
  match caller, arguments with
  | some subject, rest => b.runOn subject rest
  | none, subject :: rest => b.runOn subject rest
  | none, [] => .error (.missingSubject b)

/-- The function as a value. -/
def toFunction (b : Builtin) : Function φ := .unbound b.name (.builtin b)

/-- The standard library. -/
def library : List (Function φ) := all.map toFunction

end Builtin

end Formula
