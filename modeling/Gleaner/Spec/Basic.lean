import Gleaner.Json.Basic
/-!
# Specifications

A specification says which rows a document has, which of them to keep and which columns to take from
them, and in which format to write the result.

* `Spec` and its parts `Mapping`, `Filter`, `Parameter`, `Source`, `Target`;
* the enumerations `Dialect`, `Format`, `ValueType`, `OnMissing`, `ParameterType`, each with its
  `name` and `ofName?`, which knows further names for some of them.
-/

namespace Gleaner

/-- The kind of a document, and with it the language of expressions on it. -/
inductive Dialect where
  | json | xml | html
  deriving DecidableEq, Repr

inductive Format where
  | csv | json | xml | text
  deriving DecidableEq, Repr

inductive ValueType where
  | string | number | boolean | date | any
  deriving DecidableEq, Repr

inductive OnMissing where
  | null | skipRow | error
  deriving DecidableEq, Repr

inductive ParameterType where
  | string | number | boolean | any
  deriving DecidableEq, Repr

namespace Dialect

def name : Dialect → String
  | .json => "json"
  | .xml => "xml"
  | .html => "html"

def ofName? : String → Option Dialect
  | "json" | "structured" => some .json
  | "xml" | "path-markup" => some .xml
  | "html" | "scrape-markup" => some .html
  | _ => none

end Dialect

namespace Format

def name : Format → String
  | .csv => "csv"
  | .json => "json"
  | .xml => "xml"
  | .text => "text"

def ofName? : String → Option Format
  | "csv" | "delimited" => some .csv
  | "json" | "structured" => some .json
  | "xml" | "tagged-markup" => some .xml
  | "text" | "plain" => some .text
  | _ => none

end Format

namespace ValueType

def name : ValueType → String
  | .string => "string"
  | .number => "number"
  | .boolean => "boolean"
  | .date => "date"
  | .any => "any"

def ofName? : String → Option ValueType
  | "string" => some .string
  | "number" => some .number
  | "boolean" => some .boolean
  | "date" => some .date
  | "any" => some .any
  | _ => none

def acceptsDefault : ValueType → Json → Bool
  | .any, _ => true
  | .string, v | .date, v => v.kind == .string
  | .number, v => v.kind == .number
  | .boolean, v => v.kind == .boolean

end ValueType

namespace OnMissing

def name : OnMissing → String
  | .null => "null"
  | .skipRow => "skip_row"
  | .error => "error"

def ofName? : String → Option OnMissing
  | "null" => some .null
  | "skip_row" => some .skipRow
  | "error" => some .error
  | _ => none

end OnMissing

namespace ParameterType

def name : ParameterType → String
  | .string => "string"
  | .number => "number"
  | .boolean => "boolean"
  | .any => "any"

def ofName? : String → Option ParameterType
  | "string" => some .string
  | "number" => some .number
  | "boolean" => some .boolean
  | "any" => some .any
  | _ => none

def accepts : ParameterType → Json → Bool
  | .string, v => v.kind == .string
  | .number, v => v.kind == .number
  | .boolean, v => v.kind == .boolean
  | .any, _ => true

end ParameterType

/-- Where the rows come from: the kind of document, and the expression that selects them. -/
structure Source where
  dialect : Dialect
  root : String
  deriving Repr

structure Target where
  format : Format
  options : Members
  deriving Repr

/-- A column: its name, the expression of its value, and what it is without one. -/
structure Mapping where
  name : String
  expr : String
  type : ValueType
  default : Option Json
  deriving Repr

structure Filter where
  name : Option String
  expr : String
  deriving Repr

structure Parameter where
  name : String
  type : ParameterType
  required : Bool
  default : Option Json
  deriving Repr

structure Spec where
  version : Nat
  name : String
  input : Source
  output : Target
  mappings : List Mapping
  filters : List Filter
  onMissing : OnMissing
  parameters : List Parameter
  deriving Repr

def Spec.supportedVersion : Nat :=
  1

def Spec.itemPath (list : String) (i : Nat) : String :=
  list ++ "[" ++ toString i ++ "]"

def Spec.columnNames (spec : Spec) : List String :=
  spec.mappings.map (·.name)

end Gleaner
