import Gleaner.Json.Basic
/-!
# Queries

A query maps one JSON value to a stream of values. This module holds its abstract syntax.

* `Comparison` and `Operator` are the binary operators on values;
* `Builtin` are the named functions, each with its `arity`;
* `Query` is the syntax tree.
-/

namespace Gleaner

inductive Comparison where
  | eq | ne | lt | le | gt | ge
  deriving DecidableEq, Repr

inductive Operator where
  | add | sub | mul | div | mod
  deriving DecidableEq, Repr

inductive Builtin where
  | length | keys | first | last | tostring | tonumber | asciiDowncase | asciiUpcase | type
  | empty | add | min | max | reverse
  | has | select | map | contains | startswith | endswith | test | split | join
  deriving DecidableEq, Repr

namespace Comparison

def symbol : Comparison → String
  | .eq => "=="
  | .ne => "!="
  | .lt => "<"
  | .le => "<="
  | .gt => ">"
  | .ge => ">="

def name : Comparison → String
  | .eq => "Eq"
  | .ne => "Ne"
  | .lt => "Lt"
  | .le => "Le"
  | .gt => "Gt"
  | .ge => "Ge"

def holds : Comparison → Ordering → Bool
  | .eq, o => o == .eq
  | .ne, o => o != .eq
  | .lt, o => o == .lt
  | .le, o => o != .gt
  | .gt, o => o == .gt
  | .ge, o => o != .lt

end Comparison

namespace Operator

def symbol : Operator → String
  | .add => "+"
  | .sub => "-"
  | .mul => "*"
  | .div => "/"
  | .mod => "%"

def name : Operator → String
  | .add => "Add"
  | .sub => "Sub"
  | .mul => "Mul"
  | .div => "Div"
  | .mod => "Mod"

end Operator

namespace Builtin

def all : List Builtin :=
  [.length, .keys, .first, .last, .tostring, .tonumber, .asciiDowncase, .asciiUpcase, .type,
    .empty, .add, .min, .max, .reverse,
    .has, .select, .map, .contains, .startswith, .endswith, .test, .split, .join]

def name : Builtin → String
  | .length => "length"
  | .keys => "keys"
  | .first => "first"
  | .last => "last"
  | .tostring => "tostring"
  | .tonumber => "tonumber"
  | .asciiDowncase => "ascii_downcase"
  | .asciiUpcase => "ascii_upcase"
  | .type => "type"
  | .empty => "empty"
  | .add => "add"
  | .min => "min"
  | .max => "max"
  | .reverse => "reverse"
  | .has => "has"
  | .select => "select"
  | .map => "map"
  | .contains => "contains"
  | .startswith => "startswith"
  | .endswith => "endswith"
  | .test => "test"
  | .split => "split"
  | .join => "join"

def arity : Builtin → Nat
  | .has | .select | .map | .contains | .startswith | .endswith | .test | .split | .join => 1
  | _ => 0

/-- The function of a name that takes the given number of arguments. -/
def find? (name : String) (arity : Nat) : Option Builtin :=
  all.find? fun f => f.name == name && f.arity == arity

end Builtin

inductive Query where
  | identity
  -- The input and all values inside it.
  | recurse
  | literal (value : Json)
  | field (target : Query) (name : String)
  -- The item at a position, or the member of a computed name.
  | index (target position : Query)
  -- The part between two positions; a missing one stands for that end.
  | slice (target : Query) (low high : Option Query)
  | iterate (target : Query)
  -- The results of the query, or none if it fails.
  | optional (inner : Query)
  | array (inner : Option Query)
  | pipe (left right : Query)
  | comma (left right : Query)
  -- The true results of the first query, or the results of the second if there are none.
  | alternative (left right : Query)
  | and (left right : Query)
  | or (left right : Query)
  | not (inner : Query)
  | neg (inner : Query)
  | compare (op : Comparison) (left right : Query)
  | arith (op : Operator) (left right : Query)
  | call (function : Builtin) (arguments : List Query)
  deriving Repr, Inhabited, BEq

end Gleaner
