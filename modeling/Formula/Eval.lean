import Formula.Environment
import Formula.Expr.Parse
import Formula.Operator

/-!
# Evaluation

Parts are evaluated before the whole and from left to right, and the first failure ends the evaluation. A name that
stands for nothing is `nil`; to call it is an error of its own.

- `Environment.eval`: the value of an expression.
- `Environment.interpret`: the value of a source.
- `Environment.evaluateOr`: the value of a source if it has the type of a default, and else the default.
-/

namespace Formula

/-- Why a source has no value. -/
inductive Error where
  /-- It is no expression. -/
  | parse (err : ParseError)
  /-- The expression cannot be evaluated. -/
  | eval (err : EvalError)
  deriving DecidableEq, Repr

namespace Error

/-- Where the error points. -/
def offset : Error → Nat
  | parse err => err.offset
  | eval err => err.offset

/-- The error as it is reported. -/
def message : Error → String
  | parse err => err.message
  | eval err => err.message

end Error

namespace Environment

variable {φ : Type}

/-- The error of calling something that is no function: a bare name that stands for nothing is unknown. -/
def callError (callee : Expr) (target : Value φ) (offset : Nat) : EvalError :=
  match target, callee with
  | .nil, .identifier name _ => .unknownFunction name offset
  | v, _ => .notCallable v.type offset

/-- Calls what the callee evaluated to. -/
def apply (env : Environment φ) (callee : Expr) (target : Value φ) (arguments : List (Value φ)) (offset : Nat) :
    Except EvalError (Value φ) :=
  match target with
  | .function f => (env.call f arguments).mapError fun message => .callFailed f.selector message offset
  | v => .error (callError callee v offset)

/-- Takes a function as a method of the receiver. Only functions are searched, not variables. -/
def bindMethod (env : Environment φ) (receiver : Value φ) (name : String) (offset : Nat) :
    Except EvalError (Value φ) :=
  match env.lookup? name with
  | some f => .ok (.function (f.bind receiver))
  | none => .error (.unknownMethod name offset)

mutual

/-- The value of an expression. -/
def eval (env : Environment φ) : Expr → Except EvalError (Value φ)
  | .number x => .ok (.number x)
  | .string s => .ok (.text s)
  | .bool b => .ok (.bool b)
  | .nil => .ok .nil
  | .identifier name _ => .ok (env.resolve name)
  | .unary op operand offset => do
    let v ← env.eval operand
    op.apply v offset
  | .binary left op right offset => do
    let l ← env.eval left
    let r ← env.eval right
    op.apply l r offset
  | .grouping inner => env.eval inner
  | .call callee arguments offset => do
    let target ← env.eval callee
    let vs ← env.evalAll arguments
    env.apply callee target vs offset
  | .method receiver name offset => do
    let v ← env.eval receiver
    env.bindMethod v name offset
  | .interpolation inner _ => do
    let v ← env.eval inner
    .ok v.interpolate

/-- The values of some expressions, from left to right. -/
def evalAll (env : Environment φ) : List Expr → Except EvalError (List (Value φ))
  | [] => .ok []
  | e :: es => do
    let v ← env.eval e
    let vs ← env.evalAll es
    .ok (v :: vs)

end

/-- Evaluates some expressions in order. The result is that of a single expression, and `nil` for any other count. -/
def execute (env : Environment φ) (es : List Expr) : Except EvalError (Value φ) := do
  let vs ← env.evalAll es
  match vs with
  | [v] => .ok v
  | _ => .ok .nil

/-- The value of a source; `nil` if it holds no expression. -/
def interpret (env : Environment φ) (source : String) : Except Error (Value φ) :=
  match Expr.ofSource source with
  | .error err => .error (.parse err)
  | .ok e => (env.execute e.toList).mapError .eval

/-- The value of a source in another type, or the default if the source fails or has another type. -/
def evaluateOr {α : Type} (env : Environment φ) (convert? : Value φ → Option α) (source : String) (default : α) : α :=
  match env.interpret source with
  | .ok v => (convert? v).getD default
  | .error _ => default

end Environment

end Formula
