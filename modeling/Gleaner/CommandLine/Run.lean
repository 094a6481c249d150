import Gleaner.CommandLine.Arguments
import Gleaner.CommandLine.Files
/-!
# Running commands

* `Report` is what a run shows: the exit code and the texts of both channels;
* `readVariable` reads a variable given as an argument, `loadVariables` all variables of a run;
* `run` runs the program on its arguments, with any access to files.

A run that fails says why in one line after `error: `. The flaws of a specification come before it,
one a line. A run that breaks off has a report of its own.
-/

namespace Gleaner
namespace CommandLine

structure Report where
  code : Nat
  out : String
  err : String
  deriving DecidableEq, Repr

inductive Role where
  | spec | values | input | output
  deriving DecidableEq, Repr

def Role.label : Role → String
  | .spec => "failed to read spec "
  | .values => "failed to read vars "
  | .input => "failed to read input "
  | .output => "failed to write "

inductive Error where
  | file (role : Role) (path : String) (fault : FileFault)
  | flawed (path : String) (flaws : List Flaw)
  -- An argument does not give a variable.
  | notVariable (argument : String)
  | notJson (path : String)
  | notObject (path : String)
  | failed (spec : String) (f : Failure)
  -- The run breaks off in a remainder that overflows.
  | aborted
  deriving DecidableEq, Repr

namespace Error

def message : Error → String
  | .file role path fault => role.label ++ path ++ ": " ++ fault.message
  | .flawed path flaws => path ++ " has " ++ toString flaws.length ++ " error(s)"
  | .notVariable argument => "--var expects NAME=VALUE, got '" ++ argument ++ "'"
  | .notJson path => "invalid json in " ++ path ++ ": the text is not a value"
  | .notObject path => path ++ " must contain a JSON object"
  | .failed spec f => "transform '" ++ spec ++ "' failed: " ++ f.describe
  | .aborted => "attempt to calculate the remainder with overflow"

def details : Error → List String
  | .flawed _ flaws => flaws.map Flaw.describe
  | _ => []

end Error

def lines (texts : List String) : String :=
  String.join (texts.map (· ++ "\n"))

/--
The report of a run that fails. A run that breaks off has an exit code of its own; of what it shows
then, only the cause is modelled, and not where in the program it arose.
-/
def Error.report : Error → Report
  | .aborted => ⟨101, "", lines [Error.aborted.message]⟩
  | e => ⟨1, "", lines (e.details ++ ["error: " ++ e.message])⟩

/--
The variable that an argument `name=value` gives. The value is read as JSON; a text that is no JSON
is its own value.
-/
def readVariable (argument : String) : Except Error (String × Json) :=
  match Text.cutAt? ['='] argument.toList with
  | some (name, value) =>
    let text := String.ofList value
    .ok (String.ofList (Text.trim name), (Json.read? text).getD (.string text))
  | none => .error (.notVariable argument)

section

variable {m : Type → Type} [Monad m] (files : FileAccess m)

def readText (role : Role) (path : String) : ExceptT Error m String := do
  match ← files.readText path with
  | .ok text => return text
  | .error fault => throw (.file role path fault)

def loadSpec (path : String) : ExceptT Error m Spec := do
  match Spec.ofText (← readText files .spec path) with
  | .ok spec => return spec
  | .error flaws => throw (.flawed path flaws)

def loadVariablesFile : Option String → ExceptT Error m Members
  | none => return []
  | some path => do
    match Json.read? (← readText files .values path) with
    | some (.object members) => return members
    | some _ => throw (.notObject path)
    | none => throw (.notJson path)

/-- The variables of a run: those of the file, and over them those of the arguments. -/
def loadVariables (s : TransformSettings) : ExceptT Error m Members := do
  let members ← loadVariablesFile files s.givenFile
  let given ← ExceptT.mk (pure (s.given.mapM readVariable))
  return Members.insertAll members given

def deliver (output : String) : Option String → ExceptT Error m Report
  | none => return ⟨0, lines [output], ""⟩
  | some path => do
    match ← files.write path output with
    | .ok () => return ⟨0, "", ""⟩
    | .error fault => throw (.file .output path fault)

def runTransform (s : TransformSettings) : ExceptT Error m Report := do
  let spec ← loadSpec files s.spec
  let values ← loadVariables files s
  match ← files.read s.input with
  | .error fault => throw (.file .input s.input fault)
  | .ok input =>
    match Transform.ofBytes spec input values s.limits with
    | .error f => throw (if f.kind = .aborted then .aborted else .failed spec.name f)
    | .ok output => deliver files output s.output

def runValidate (path : String) : ExceptT Error m Report := do
  match Spec.ofText (← readText files .spec path) with
  | .ok _ => return ⟨0, lines ["ok"], ""⟩
  | .error flaws => return ⟨1, lines (flaws.map Flaw.describe), ""⟩

def Command.run : Command → ExceptT Error m Report
  | .transform s => runTransform files s
  | .validate path => runValidate files path

def programName : String :=
  "docmorph"

def usage : List String :=
  ["Usage: " ++ programName ++ " [--log-level LEVEL] COMMAND",
    "",
    "Commands:",
    "  transform -s SPEC -i INPUT [--var NAME=VALUE]... [--vars FILE]",
    "            [--limit N] [--preview N] [-o OUTPUT]",
    "  validate  -s SPEC"]

def Stop.report : Stop → Report
  | .help => ⟨0, lines usage, ""⟩
  | .version => ⟨0, lines [programName ++ " 0.1.0"], ""⟩
  | .error e => ⟨2, "", lines (("error: " ++ e.message) :: "" :: usage)⟩

def run (arguments : List String) : m Report := do
  match Command.read arguments with
  | .error stop => return stop.report
  | .ok command =>
    match ← (command.run files).run with
    | .ok report => return report
    | .error e => return e.report

end

end CommandLine
end Gleaner
