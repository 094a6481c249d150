import Gleaner.Spec.Basic
import Gleaner.Yaml.Value
/-!
# Reading specifications

`Spec.read?` reads a specification from YAML text. What is checked here is the shape alone: known
keys, none of them twice, the required ones present, and values of the right kind.
-/

namespace Gleaner
namespace Spec

open Yaml (Node)

def fields? (known : List String) (node : Node) : Option (List (String × Node)) :=
  match node with
  | .mapping entries _ => do
    let fields ← entries.mapM fun (key, value) => do
      let name ← key.text?
      if known.contains name then some (name, value) else none
    if (fields.map Prod.fst).Nodup then some fields else none
  | _ => none

def field? (name : String) (fields : List (String × Node)) : Option Node :=
  (fields.find? fun (n, _) => n == name).map Prod.snd

def textField? (name : String) (fields : List (String × Node)) : Option String :=
  (field? name fields).bind Node.text?

def optionalField? {α : Type} (name : String) (fields : List (String × Node)) (absent : α)
    (read : Node → Option α) : Option α :=
  match field? name fields with
  | none => some absent
  | some node => read node

/-- A name of an enumeration: the text of a scalar, or a tag of its own without a value. -/
def enumField? {α : Type} (ofName? : String → Option α) (node : Node) : Option α :=
  match node with
  | .scalar text _ tag =>
    match Yaml.isForeignTag tag, tag with
    | true, some t =>
      if text.isEmpty || Yaml.isNullText text then ofName? (String.ofList (t.toList.drop 1))
      else none
    | _, _ => ofName? text
  | _ => none

/-- A value that null stands for the absence of. -/
def presentField? {α : Type} (read : Node → Option α) (node : Node) : Option (Option α) :=
  if node.isNull then some none else (read node).map some

/-- A list of parts; null is the empty list. -/
def listField? {α : Type} (read : Node → Option α) (node : Node) : Option (List α) :=
  match node with
  | .sequence items _ => items.mapM read
  | node => if node.isNull then some [] else none

def truthField? (node : Node) : Option Bool :=
  match node with
  | .scalar text true _ => Yaml.truth? text
  | _ => none

def byteField? (node : Node) : Option Nat :=
  match node with
  | .scalar text true _ => (Yaml.unsigned? text).filter (· < 256)
  | _ => none

/-- The members of an options mapping; null is the empty one. -/
def optionsField? (node : Node) : Option Members :=
  match node with
  | .mapping entries _ => (Yaml.entriesToJson? entries).map (Members.insertAll [])
  | node => if node.isNull then some [] else none

def readSource? (node : Node) : Option Source := do
  let fields ← fields? ["type", "root"] node
  some
    { dialect := ← enumField? Dialect.ofName? (← field? "type" fields)
      root := ← textField? "root" fields }

def readTarget? (node : Node) : Option Target := do
  let fields ← fields? ["type", "options"] node
  some
    { format := ← enumField? Format.ofName? (← field? "type" fields)
      options := ← optionalField? "options" fields [] optionsField? }

def readMapping? (node : Node) : Option Mapping := do
  let fields ← fields? ["name", "expr", "type", "default"] node
  some
    { name := ← textField? "name" fields
      expr := ← textField? "expr" fields
      type := ← optionalField? "type" fields .any (enumField? ValueType.ofName?)
      default := ← optionalField? "default" fields none (presentField? Node.toJson?) }

def readFilter? (node : Node) : Option Filter := do
  let fields ← fields? ["name", "expr"] node
  some
    { name := ← optionalField? "name" fields none (presentField? Node.text?)
      expr := ← textField? "expr" fields }

def readParameter? (node : Node) : Option Parameter := do
  let fields ← fields? ["name", "type", "required", "default"] node
  some
    { name := ← textField? "name" fields
      type := ← optionalField? "type" fields .any (enumField? ParameterType.ofName?)
      required := ← optionalField? "required" fields false truthField?
      default := ← optionalField? "default" fields none (presentField? Node.toJson?) }

/-- The policy for missing values; null is a policy too. -/
def readOnMissing? (node : Node) : Option OnMissing := do
  match ← presentField? Node.text? node with
  | none => some .null
  | some name => OnMissing.ofName? name

def readDefaults? (node : Node) : Option OnMissing := do
  let fields ← fields? ["on_missing"] node
  optionalField? "on_missing" fields .null readOnMissing?

def ofNode? (node : Node) : Option Spec := do
  let fields ← fields?
    ["version", "name", "input", "output", "mappings", "filters", "defaults", "parameters"] node
  some
    { version := ← (field? "version" fields).bind byteField?
      name := ← textField? "name" fields
      input := ← (field? "input" fields).bind readSource?
      output := ← (field? "output" fields).bind readTarget?
      mappings := ← optionalField? "mappings" fields [] (listField? readMapping?)
      filters := ← optionalField? "filters" fields [] (listField? readFilter?)
      onMissing := ← optionalField? "defaults" fields .null readDefaults?
      parameters := ← optionalField? "parameters" fields [] (listField? readParameter?) }

def read? (source : String) : Option Spec :=
  (Node.read? source).bind ofNode?

end Spec
end Gleaner
