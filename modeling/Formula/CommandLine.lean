import Formula.Eval
import Formula.Numeral

/-!
# The command line

One expression is evaluated, given as an argument or in a file, and its value printed. Variables are bound with
`--var NAME=VALUE`; `--tokens` prints the tokens instead of the value.

- `CommandLine.readBinding`: the variable that a binding stands for.
- `Options.ofArguments`: the options that some arguments stand for.
- `CommandLine.run`: what the program prints and its exit code, for any way of reading files.
-/

namespace Formula.CommandLine

/-- The type of host functions of the command line: there are none. -/
abbrev NoFunction := Empty

/-! ## Bindings -/

/-- Why a binding is refused. -/
inductive BindingError where
  /-- There is no `=`. -/
  | noEquals
  /-- Nothing stands before the `=`. -/
  | noName
  deriving DecidableEq, Repr

/-- What is wrong with the binding. -/
def BindingError.message (binding : String) : BindingError → String
  | noEquals => "expected NAME=VALUE, found '" ++ binding ++ "'"
  | noName => "missing variable name in '" ++ binding ++ "'"

/-- The value that a text stands for: a truth value, a number, or else the text itself. -/
def readValue (raw : String) : Value NoFunction :=
  match raw with
  | "true" => .bool true
  | "false" => .bool false
  | raw =>
    match Numeral.read? raw with
    | some x => .number x
    | none => .text raw

/-- The variable that a binding stands for: its name is what precedes the first `=`. -/
def readBinding (binding : String) : Except BindingError (Variable NoFunction) :=
  let cs := binding.toList
  match cs.dropWhile (· ≠ '=') with
  | [] => .error .noEquals
  | _ :: raw =>
    let name := cs.takeWhile (· ≠ '=')
    if name = [] then .error .noName else .ok ⟨String.ofList name, readValue (String.ofList raw)⟩

/-! ## Options -/

/-- What the program was asked to do. -/
structure Options where
  /-- The expression is in a file. -/
  file : Bool := false
  /-- The tokens are wanted. -/
  tokens : Bool := false
  /-- The variables, in order. -/
  vars : List (Variable NoFunction) := []
  /-- The expression, or the path of its file. -/
  contents : Option String := none

/-- Why arguments are refused. -/
inductive UsageError where
  | invalidBinding (binding : String) (err : BindingError)
  | missingValue
  | unexpectedArgument (argument : String)
  | unexpectedValue (flag value : String)
  | repeatedFlag (flag : String)
  | missingContents

/-- How the option that binds variables is shown. -/
def varUsage : String := "--var <NAME=VALUE>"

/-- What is wrong with the arguments. -/
def UsageError.message : UsageError → String
  | invalidBinding binding err =>
    "error: invalid value '" ++ binding ++ "' for '" ++ varUsage ++ "': " ++ err.message binding
  | missingValue => "error: a value is required for '" ++ varUsage ++ "' but none was supplied"
  | unexpectedArgument argument => "error: unexpected argument '" ++ argument ++ "' found"
  | unexpectedValue flag value =>
    "error: unexpected value '" ++ value ++ "' for '" ++ flag ++ "' found; no more were expected"
  | repeatedFlag flag => "error: the argument '" ++ flag ++ "' cannot be used multiple times"
  | missingContents => "error: the following required arguments were not provided:\n  <CONTENTS>"

namespace Options

/-- Binds a variable. -/
def addBinding (o : Options) (binding : String) : Except UsageError Options :=
  match readBinding binding with
  | .ok v => .ok { o with vars := o.vars ++ [v] }
  | .error err => .error (.invalidBinding binding err)

/-- Says that the expression is in a file. -/
def setFile (o : Options) : Except UsageError Options :=
  if o.file then .error (.repeatedFlag "--file") else .ok { o with file := true }

/-- Asks for the tokens. -/
def setTokens (o : Options) : Except UsageError Options :=
  if o.tokens then .error (.repeatedFlag "--tokens") else .ok { o with tokens := true }

/-- Takes an argument that is no option. -/
def addContents (o : Options) (argument : String) : Except UsageError Options :=
  if o.contents.isSome then .error (.unexpectedArgument argument) else .ok { o with contents := some argument }

/-- The value of an option behind an `=` that may be left out. -/
def attachedValue : List Char → String
  | '=' :: cs => String.ofList cs
  | cs => String.ofList cs

/-- Takes the letters of short options; true if the last one still needs a value. -/
def addShort (o : Options) : List Char → Except UsageError (Options × Bool)
  | [] => .ok (o, false)
  | 'f' :: cs => do (← o.setFile).addShort cs
  | 'v' :: [] => .ok (o, true)
  | 'v' :: cs => (o.addBinding (attachedValue cs)).map (·, false)
  | c :: _ => .error (.unexpectedArgument (String.ofList ['-', c]))

/-- Takes a long option with the text behind its `=`, if there is one; true if it still needs a value. -/
def addLong (o : Options) (name : String) (value : Option String) : Except UsageError (Options × Bool) :=
  match name, value with
  | "var", none => .ok (o, true)
  | "var", some binding => (o.addBinding binding).map (·, false)
  | "file", none => o.setFile.map (·, false)
  | "tokens", none => o.setTokens.map (·, false)
  | "file", some v => .error (.unexpectedValue "--file" v)
  | "tokens", some v => .error (.unexpectedValue "--tokens" v)
  | name, _ => .error (.unexpectedArgument ("--" ++ name))

/-- Takes an argument; true if it is an option that still needs a value. -/
def addArgument (o : Options) (argument : String) : Except UsageError (Options × Bool) :=
  match argument.toList with
  | '-' :: '-' :: cs =>
    let name := String.ofList (cs.takeWhile (· ≠ '='))
    match cs.dropWhile (· ≠ '=') with
    | [] => o.addLong name none
    | _ :: value => o.addLong name (some (String.ofList value))
  | '-' :: c :: cs => o.addShort (c :: cs)
  | _ => (o.addContents argument).map (·, false)

/-- Takes the arguments behind `--`, none of which is an option. -/
def addPlain (o : Options) (arguments : List String) : Except UsageError Options :=
  arguments.foldlM addContents o

/-- Takes arguments; `needsValue` tells that the next one is the value of an option. A value does not look like an
option. -/
def addAll (o : Options) (needsValue : Bool) : List String → Except UsageError Options
  | [] => if needsValue then .error .missingValue else .ok o
  | argument :: rest =>
    if needsValue then
      if argument.startsWith "-" && argument ≠ "-" then .error .missingValue
      else do (← o.addBinding argument).addAll false rest
    else if argument = "--" then o.addPlain rest
    else do
      let (o, needsValue) ← o.addArgument argument
      o.addAll needsValue rest

/-- The options that the arguments stand for. -/
def ofArguments (arguments : List String) : Except UsageError Options := ({} : Options).addAll false arguments

end Options

/-! ## Output -/

/-- What the program prints and its exit code. -/
structure Outcome where
  code : UInt32
  stdout : String
  stderr : String

/-- Blanks in front of a text that is shorter than the width. -/
def padLeft (width : Nat) (s : String) : String := String.ofList (List.replicate (width - s.length) ' ') ++ s

/-- Blanks behind a text that is shorter than the width. -/
def padRight (width : Nat) (s : String) : String := s ++ String.ofList (List.replicate (width - s.length) ' ')

/-- A token on a line: its offset, its kind and its text. -/
def tokenLine (t : Token) : String :=
  padLeft 4 (toString t.offset) ++ "  " ++ padRight 24 t.kind.inspect ++ " " ++ Text.quote t.lexeme ++ "\n"

/-- The tokens of a source, a line for each but the end. -/
def tokenLines (source : String) : String :=
  String.join (((Token.scan source).filter fun t => t.kind ≠ .eof).map tokenLine)

/-- The environment of the given variables. -/
def environment (vars : List (Variable NoFunction)) : Environment NoFunction := ⟨vars, [], nofun⟩

/-- What is printed for a source. -/
def Options.answer (o : Options) (source : String) : Outcome :=
  if o.tokens then ⟨0, tokenLines source, ""⟩
  else
    match (environment o.vars).interpret source with
    | .ok v => ⟨0, v.toText ++ "\n", ""⟩
    | .error err => ⟨1, "", err.message ++ "\n"⟩

/-- What is printed for a file that cannot be read. -/
def unreadable (path : String) : Outcome :=
  ⟨1, "", "Failed to read the input file '" ++ path ++ "'. Perhaps this file does not exist?\n"⟩

/-- What is printed for wrong arguments. -/
def UsageError.outcome (err : UsageError) : Outcome :=
  ⟨2, "", err.message ++ "\n\nFor more information, try '--help'.\n"⟩

/-- What the program prints for its arguments, where `readFile` gives the text of a file if it can be read. -/
def run {m : Type → Type} [Monad m] (readFile : String → m (Option String)) (arguments : List String) : m Outcome :=
  match Options.ofArguments arguments with
  | .error err => pure err.outcome
  | .ok o =>
    match o.contents with
    | none => pure UsageError.missingContents.outcome
    | some contents =>
      if o.file then do
        match ← readFile contents with
        | some source => pure (o.answer source)
        | none => pure (unreadable contents)
      else pure (o.answer contents)

end Formula.CommandLine
