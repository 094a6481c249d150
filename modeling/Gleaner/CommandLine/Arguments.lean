import Gleaner.Text.Cut
import Gleaner.Transform
/-!
# Arguments

The arguments of the program name a command and its settings. A setting is given as `--name value`,
`--name=value`, `-n value`, `-nvalue` or `-n=value`; after `--` there are no settings.

* `Command` is what the arguments ask for;
* `Command.read` reads them, up to the first one that stops the reading: a request for help or a
  `UsageError`.
-/

namespace Gleaner
namespace CommandLine

structure TransformSettings where
  spec : String
  input : String
  givenFile : Option String
  -- The variables that are given one by one, as they were written.
  given : List String
  limits : Limits
  output : Option String
  deriving DecidableEq, Repr

inductive Command where
  | transform (settings : TransformSettings)
  | validate (spec : String)
  deriving DecidableEq, Repr

inductive Setting where
  | spec | input | given | givenFile | limit | preview | output | logLevel
  deriving DecidableEq, Repr

inductive Flag where
  | setting (s : Setting)
  | help
  | version
  deriving DecidableEq, Repr

/-- Where in the arguments a name is written: before the command, or after it. -/
inductive Level where
  | program | transform | validate
  deriving DecidableEq, Repr

def Setting.name : Setting → String
  | .spec => "spec"
  | .input => "input"
  | .given => "var"
  | .givenFile => "vars"
  | .limit => "limit"
  | .preview => "preview"
  | .output => "output"
  | .logLevel => "log-level"

def Level.long? : Level → String → Option Flag
  | _, "log-level" => some (.setting .logLevel)
  | _, "help" => some .help
  | .program, "version" => some .version
  | .transform, "spec" | .validate, "spec" => some (.setting .spec)
  | .transform, "input" => some (.setting .input)
  | .transform, "var" => some (.setting .given)
  | .transform, "vars" => some (.setting .givenFile)
  | .transform, "limit" => some (.setting .limit)
  | .transform, "preview" => some (.setting .preview)
  | .transform, "output" => some (.setting .output)
  | _, _ => none

def Level.short? : Level → Char → Option Flag
  | _, 'h' => some .help
  | .program, 'V' => some .version
  | .transform, 's' | .validate, 's' => some (.setting .spec)
  | .transform, 'i' => some (.setting .input)
  | .transform, 'o' => some (.setting .output)
  | _, _ => none

inductive UsageError where
  | unexpected (argument : String)
  | withoutValue (s : Setting)
  | invalidValue (s : Setting) (value : String)
  | repeated (s : Setting)
  | required (s : Setting)
  | noCommand
  deriving DecidableEq, Repr

def UsageError.message : UsageError → String
  | .unexpected argument => "unexpected argument '" ++ argument ++ "'"
  | .withoutValue s => "a value is required for '--" ++ s.name ++ "'"
  | .invalidValue s value => "invalid value '" ++ value ++ "' for '--" ++ s.name ++ "'"
  | .repeated s => "'--" ++ s.name ++ "' cannot be used multiple times"
  | .required s => "'--" ++ s.name ++ "' is required"
  | .noCommand => "a command is required"

inductive Stop where
  | help
  | version
  | error (e : UsageError)
  deriving DecidableEq, Repr

structure Settings where
  spec : Option String := none
  input : Option String := none
  -- The last one first.
  given : List String := []
  givenFile : Option String := none
  limit : Option Nat := none
  preview : Option Nat := none
  output : Option String := none
  -- The filter of the log. Nothing is logged, so every filter will do.
  logLevel : Option String := none
  deriving DecidableEq, Repr

def countBound : Nat :=
  2 ^ 64

def count? (s : String) : Option Nat :=
  let digits := (Text.dropPrefix? ['+'] s.toList).getD s.toList
  if digits.isEmpty || !digits.all Char.isDigit then none
  else
    let n := Binary64.digitsValue digits
    if n < countBound then some n else none

def path? (s : String) : Option String :=
  if s.isEmpty then none else some s

def once {α : Type} (s : Setting) (value : String) (parsed : Option α) :
    (old : Option α) → Except Stop (Option α)
  | some _ => .error (.error (.repeated s))
  | none =>
    match parsed with
    | some v => .ok (some v)
    | none => .error (.error (.invalidValue s value))

def Settings.make (made : Settings) (s : Setting) (value : String) : Except Stop Settings :=
  match s with
  | .spec => do .ok { made with spec := ← once s value (path? value) made.spec }
  | .input => do .ok { made with input := ← once s value (path? value) made.input }
  | .given => .ok { made with given := value :: made.given }
  | .givenFile => do
    .ok { made with givenFile := ← once s value (path? value) made.givenFile }
  | .limit => do .ok { made with limit := ← once s value (count? value) made.limit }
  | .preview => do .ok { made with preview := ← once s value (count? value) made.preview }
  | .output => do .ok { made with output := ← once s value (path? value) made.output }
  | .logLevel => do .ok { made with logLevel := ← once s value (some value) made.logLevel }

inductive Argument where
  -- A name after two hyphens, with a value after an equals sign.
  | long (name : String) (value : Option String)
  -- A letter after a hyphen, with what follows it.
  | short (c : Char) (rest : String)
  -- Two hyphens alone.
  | ending
  | plain (s : String)
  deriving DecidableEq, Repr

def Argument.ofText (s : String) : Argument :=
  match s.toList with
  | ['-', '-'] => .ending
  | '-' :: '-' :: cs =>
    match Text.cutAt? ['='] cs with
    | some (name, value) => .long (String.ofList name) (some (String.ofList value))
    | none => .long (String.ofList cs) none
  | '-' :: c :: cs => .short c (String.ofList cs)
  | _ => .plain s

def Argument.isValue : Argument → Bool
  | .plain _ => true
  | _ => false

/-- What a flag means when it is written at a level; a value may be attached to it. -/
inductive Meaning where
  | stop (reason : Stop)
  | setting (s : Setting) (value : Option String)
  deriving DecidableEq, Repr

def Flag.meaning (flag : Flag) (argument : String) (value : Option String) : Meaning :=
  match flag, value with
  | .setting s, value => .setting s value
  | .help, none => .stop .help
  | .version, none => .stop .version
  | _, some _ => .stop (.error (.unexpected argument))

/-- The value that is attached to a letter; a letter that takes no value may be followed by more. -/
def attached? (flag : Flag) (rest : String) : Option String :=
  match flag with
  | .setting _ =>
    if rest.isEmpty then none
    else some (String.ofList ((Text.dropPrefix? ['='] rest.toList).getD rest.toList))
  | _ => none

/-- The meaning of an argument at a level; none for one that is no flag. -/
def Argument.meaning? (level : Level) (text : String) : Argument → Option Meaning
  | .long name value =>
    match level.long? name with
    | some flag => some (flag.meaning text value)
    | none => some (.stop (.error (.unexpected text)))
  | .short c rest =>
    match level.short? c with
    | some flag => some (flag.meaning text (attached? flag rest))
    | none => some (.stop (.error (.unexpected text)))
  | .ending | .plain _ => none

/-- Make the settings at the front of the arguments; the rest is given back. -/
def Level.settings (level : Level) (made : Settings) :
    List String → Except Stop (Settings × List String)
  | [] => .ok (made, [])
  | argument :: rest =>
    match (Argument.ofText argument).meaning? level argument with
    | none => .ok (made, argument :: rest)
    | some (.stop reason) => .error reason
    | some (.setting s (some value)) => do level.settings (← made.make s value) rest
    | some (.setting s none) =>
      match rest with
      | [] => .error (.error (.withoutValue s))
      | value :: rest =>
        if (Argument.ofText value).isValue then do level.settings (← made.make s value) rest
        else .error (.error (.withoutValue s))

/-- Make all settings of a command; nothing else may follow. -/
def Level.all (level : Level) (arguments : List String) : Except Stop Settings := do
  let (made, rest) ← level.settings {} arguments
  match rest with
  | [] => .ok made
  | [argument] =>
    if Argument.ofText argument = .ending then .ok made
    else .error (.error (.unexpected argument))
  | argument :: next :: _ =>
    .error (.error (.unexpected (if Argument.ofText argument = .ending then next else argument)))

def need {α : Type} (s : Setting) (value : Option α) : Except Stop α :=
  match value with
  | some v => .ok v
  | none => .error (.error (.required s))

def Command.ofName (name : String) (arguments : List String) : Except Stop Command :=
  match name with
  | "transform" => do
    let made ← Level.transform.all arguments
    let spec ← need .spec made.spec
    let input ← need .input made.input
    .ok (.transform
      { spec := spec
        input := input
        givenFile := made.givenFile
        given := made.given.reverse
        limits := ⟨made.limit, made.preview⟩
        output := made.output })
  | "validate" => do
    let made ← Level.validate.all arguments
    .ok (.validate (← need .spec made.spec))
  | "help" =>
    match arguments.find? fun a => a ≠ "transform" && a ≠ "validate" && a ≠ "help" with
    | some a => .error (.error (.unexpected a))
    | none => .error .help
  | name => .error (.error (.unexpected name))

def Command.read (arguments : List String) : Except Stop Command := do
  let (_, rest) ← Level.program.settings {} arguments
  match rest with
  | [] => .error (.error .noCommand)
  | name :: rest => Command.ofName name rest

end CommandLine
end Gleaner
