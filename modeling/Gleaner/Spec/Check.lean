import Gleaner.Expression
import Gleaner.Failure
import Gleaner.Output.Options
import Gleaner.Spec.Location
import Gleaner.Spec.Reader
import Gleaner.Template
/-!
# Checking specifications

* `Flaw` is a flaw of a specification: its cause, the part that is concerned, and the place in the
  text;
* `Spec.shapeFlaws` are the flaws that are looked for before every run, `Spec.outputFlaws` those of
  the output, and `Spec.flaws` both;
* `Spec.ofText` reads a specification that has no flaws.
-/

namespace Gleaner

inductive Flaw.Cause where
  | invalidYaml
  | wrongVersion
  | missingName
  | invalidName
  | missingRoot
  | invalidRoot (dialect : Dialect) (e : Expression.Error)
  | missingMappings
  | missingMappingName
  | duplicateMappingName (name : String)
  | missingExpr
  | invalidExpr (dialect : Dialect) (e : Expression.Error)
  | invalidMappingDefault
  | notBoolean (key : String)
  | delimiterLength
  | delimiterCharacter
  | delimiterKind
  | invalidTag (key : String)
  | columnNotTag (name : String)
  | severalTextColumns
  | invalidParameterName
  | duplicateParameter (name : String)
  | invalidParameterDefault
  deriving DecidableEq, Repr

namespace Flaw.Cause

def code : Cause → String
  | .invalidYaml => "InvalidYaml"
  | .wrongVersion => "InvalidVersion"
  | .missingName => "MissingName"
  | .invalidName => "InvalidName"
  | .missingRoot => "MissingRoot"
  | .invalidRoot .. | .invalidExpr .. => "InvalidExpr"
  | .missingMappings => "MissingMappings"
  | .missingMappingName => "MissingMappingName"
  | .duplicateMappingName _ => "DuplicateMappingName"
  | .missingExpr => "MissingExpr"
  | .invalidMappingDefault => "InvalidMappingDefault"
  | .notBoolean _ | .delimiterCharacter | .delimiterKind => "InvalidOutputOption"
  | .delimiterLength => "InvalidDelimiterLength"
  | .invalidTag _ | .columnNotTag _ => "InvalidTagName"
  | .severalTextColumns => "TextOutputRequiresSingleMapping"
  | .invalidParameterName => "InvalidParameterName"
  | .duplicateParameter _ => "DuplicateParameter"
  | .invalidParameterDefault => "InvalidParameterDefault"

def message : Cause → String
  | .invalidYaml => "invalid spec yaml: the text is not a specification"
  | .wrongVersion => "version must be " ++ toString Spec.supportedVersion
  | .missingName => "name must be a non-empty string"
  | .invalidName => "name must match [A-Za-z_][A-Za-z0-9_]*"
  | .missingRoot => "input.root must be a non-empty expression"
  | .invalidRoot dialect e =>
    "input.root is not a valid " ++ dialect.name ++ " root: " ++ e.message
  | .missingMappings => "mappings must contain at least one mapping"
  | .missingMappingName => "mapping name must be a non-empty string"
  | .duplicateMappingName name => "mapping name '" ++ name ++ "' is duplicated"
  | .missingExpr => "expr must be a non-empty expression"
  | .invalidExpr dialect e =>
    "expr is not a valid " ++ dialect.name ++ " expression: " ++ e.message
  | .invalidMappingDefault => "default does not match the mapping type"
  | .notBoolean key => key ++ " must be a boolean"
  | .delimiterLength => "delimiter must be a single character"
  | .delimiterCharacter => "delimiter must be an ASCII character other than a quote or newline"
  | .delimiterKind => "delimiter must be a string"
  | .invalidTag key => key ++ " must be a valid tag name"
  | .columnNotTag name => "mapping name '" ++ name ++ "' cannot be used as a tag name"
  | .severalTextColumns => "text output requires exactly one mapping"
  | .invalidParameterName => "parameter name must match [A-Za-z_][A-Za-z0-9_]*"
  | .duplicateParameter name => "parameter '" ++ name ++ "' is declared more than once"
  | .invalidParameterDefault => "default does not match the parameter type"

end Flaw.Cause

structure Flaw where
  cause : Flaw.Cause
  path : Option String
  location : Option Location
  deriving DecidableEq, Repr

namespace Flaw

def inPart (cause : Cause) (path : String) : Flaw :=
  ⟨cause, some path, none⟩

def describe (f : Flaw) : String :=
  (match f.path with
    | some path => path ++ ": " ++ f.cause.message
    | none => f.cause.message) ++
  (match f.location with
    | some l => " (line " ++ toString l.line ++ ", column " ++ toString l.column ++ ")"
    | none => "")

def located (locator : Locator) (f : Flaw) : Flaw :=
  { f with location := f.path.bind locator.locate? }

def failure (flaws : List Flaw) : Failure :=
  { kind := .schemaValidation
    message := "spec is invalid (" ++ toString flaws.length ++ " error(s))"
    details := flaws.map describe }

end Flaw

namespace Spec

def headerFlaws (spec : Spec) : List Flaw :=
  (if spec.version = supportedVersion then [] else [.inPart .wrongVersion "version"]) ++
    if Text.isBlankText spec.name then [.inPart .missingName "name"]
    else if Text.isName spec.name then []
    else [.inPart .invalidName "name"]

/-- Flaws of the expression that selects the rows; one with holes is checked when they are full. -/
def inputFlaws (spec : Spec) : List Flaw :=
  if Text.isBlankText spec.input.root then [.inPart .missingRoot "input.root"]
  else if Template.hasHoles spec.input.root then []
  else
    match Expression.checkRoot spec.input.dialect spec.input.root with
    | .ok _ => []
    | .error e => [.inPart (.invalidRoot spec.input.dialect e) "input.root"]

/-- Flaws of an expression; one with holes is looked at when they are full. -/
def exprFlaws (dialect : Dialect) (expr path : String) : List Flaw :=
  if Text.isBlankText expr then [.inPart .missingExpr path]
  else if Template.hasHoles expr then []
  else
    match Expression.read dialect expr with
    | .ok _ => []
    | .error e => [.inPart (.invalidExpr dialect e) path]

def mappingFlaws (dialect : Dialect) (before : List String) (i : Nat) (m : Mapping) : List Flaw :=
  let base := itemPath "mappings" i
  (if Text.isBlankText m.name then [Flaw.inPart .missingMappingName (base ++ ".name")]
    else if before.contains m.name then
      [.inPart (.duplicateMappingName m.name) (base ++ ".name")]
    else []) ++
  exprFlaws dialect m.expr (base ++ ".expr") ++
  match m.default with
  | some v =>
    if m.type.acceptsDefault v then [] else [.inPart .invalidMappingDefault (base ++ ".default")]
  | none => []

/-- The flaws of the items of a list, each looked at with the names of the items before it. -/
def flawsInOrder {α : Type} (name : α → String) (flaws : List String → Nat → α → List Flaw) :
    (before : List String) → (i : Nat) → List α → List Flaw
  | _, _, [] => []
  | before, i, item :: rest =>
    flaws before i item ++ flawsInOrder name flaws (name item :: before) (i + 1) rest

def mappingsFlaws (spec : Spec) : List Flaw :=
  if spec.mappings.isEmpty then [.inPart .missingMappings "mappings"]
  else flawsInOrder Mapping.name (mappingFlaws spec.input.dialect) [] 0 spec.mappings

def filtersFlaws (spec : Spec) : List Flaw :=
  flawsInOrder Filter.expr
    (fun _ i f => exprFlaws spec.input.dialect f.expr (itemPath "filters" i ++ ".expr"))
    [] 0 spec.filters

def parameterFlaws (before : List String) (i : Nat) (p : Parameter) : List Flaw :=
  let base := itemPath "parameters" i
  (if !Text.isName p.name then [Flaw.inPart .invalidParameterName (base ++ ".name")]
    else if before.contains p.name then
      [.inPart (.duplicateParameter p.name) (base ++ ".name")]
    else []) ++
  match p.default with
  | some v =>
    if p.type.accepts v then [] else [.inPart .invalidParameterDefault (base ++ ".default")]
  | none => []

def parametersFlaws (spec : Spec) : List Flaw :=
  flawsInOrder Parameter.name parameterFlaws [] 0 spec.parameters

def shapeFlaws (spec : Spec) : List Flaw :=
  spec.headerFlaws ++ spec.inputFlaws ++ spec.mappingsFlaws ++ spec.filtersFlaws ++
    spec.parametersFlaws

def boolFlaws (options : Members) (key : String) : List Flaw :=
  match Members.get? key options with
  | none | some .null | some (.bool _) => []
  | some _ => [.inPart (.notBoolean key) (Output.optionPath key)]

def delimiterFlaws (options : Members) : List Flaw :=
  let path := Output.optionPath "delimiter"
  match Members.get? "delimiter" options with
  | none | some .null => []
  | some (.string s) =>
    match s.toList with
    | [c] => if Output.isDelimiter c then [] else [.inPart .delimiterCharacter path]
    | _ => [.inPart .delimiterLength path]
  | some _ => [.inPart .delimiterKind path]

def tagFlaws (options : Members) (key : String) : List Flaw :=
  match Members.get? key options with
  | none | some .null => []
  | some (.string s) =>
    if Output.isTagName s then [] else [.inPart (.invalidTag key) (Output.optionPath key)]
  | some _ => [.inPart (.invalidTag key) (Output.optionPath key)]

def columnFlaws (columns : List String) : List Flaw :=
  columns.zipIdx.flatMap fun (name, i) =>
    if name.isEmpty || Output.isTagName name then []
    else [.inPart (.columnNotTag name) (itemPath "mappings" i ++ ".name")]

def outputFlaws (spec : Spec) : List Flaw :=
  let options := spec.output.options
  match spec.output.format with
  | .csv => boolFlaws options "header" ++ delimiterFlaws options
  | .xml =>
    boolFlaws options "declaration" ++ tagFlaws options "root_tag" ++
      tagFlaws options "row_tag" ++ columnFlaws spec.columnNames
  | .text => if 1 < spec.mappings.length then [.inPart .severalTextColumns "mappings"] else []
  | .json => []

def flaws (spec : Spec) : List Flaw :=
  spec.shapeFlaws ++ spec.outputFlaws

/-- The specification that a text writes, or its flaws with their places in the text. -/
def ofText (source : String) : Except (List Flaw) Spec :=
  match read? source with
  | none => .error [⟨.invalidYaml, none, none⟩]
  | some spec =>
    if spec.flaws.isEmpty then .ok spec
    else .error (spec.flaws.map (Flaw.located (.ofText source)))

end Spec
end Gleaner
