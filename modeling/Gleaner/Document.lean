import Gleaner.Expression
import Gleaner.Failure
import Gleaner.Json.Reader
/-!
# Documents and their rows

* `Document.read` reads a document of a kind;
* `Document.rows` are the rows that a root expression selects.

A query that selects one array means its items, and one that selects null means no rows. A path has
to select nodes. A selector may select nothing.
-/

namespace Gleaner

inductive Document where
  | json (v : Json)
  | xml (d : Xml.Document)
  | html (d : Html.Document)

namespace Document

def invalidInput (message : String) : Failure :=
  { kind := .invalidInput, message := message }

/-- Read a document; every text is a document of hypertext. -/
def read (dialect : Dialect) (input : String) : Except Failure Document :=
  match dialect with
  | .json =>
    match Json.read? input with
    | some v => .ok (.json v)
    | none => .error (invalidInput "json error: the input is not a value")
  | .xml =>
    match Xml.Document.read? input with
    | some d => .ok (.xml d)
    | none => .error (invalidInput "xml error: the input is not well formed")
  | .html => .ok (.html (.read input))

/-- The failure of an error that an expression gives at a place of the specification. -/
def expressionFailure (kind : Failure.Kind) (label : String) (e : Expression.Error)
    (path expr : String) : Failure :=
  { kind := if e.isFatal then .aborted else kind
    message := label ++ " failed: " ++ e.message
    path := some path
    expr := some expr }

def rootFailure (root : String) (e : Expression.Error) : Failure :=
  expressionFailure .invalidRootSelection "root selection" e "input.root" root

def rowsOfResults : List Json → List Json
  | [.array items] => items
  | [.null] => []
  | vs => vs

/-- The rows that a root expression selects, or the error of the expression. -/
def selected (d : Document) (root : String) : Except Expression.Error (List Row) :=
  match d with
  | .json v => do
    let q ← (Query.read root).mapError .query
    let vs ← (q.eval v).mapError .query
    .ok ((rowsOfResults vs).map .json)
  | .xml d => do
    let s ← (XPath.Selection.read root).mapError .xpath
    let ns ← (s.nodes d).mapError .xpath
    .ok (ns.map (.xml d))
  | .html d => do
    let s ← (Extraction.readRoot root).mapError .extraction
    .ok ((s.all d).map (.html d))

def rows (d : Document) (root : String) : Except Failure (List Row) :=
  (d.selected root).mapError (rootFailure root)

end Document
end Gleaner
