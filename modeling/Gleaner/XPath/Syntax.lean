import Gleaner.Binary64.Basic
import Gleaner.Xml.Name
/-!
# The syntax of paths

An expression of the path language selects nodes of a document or computes a string, a number or a
truth value.

* `Axis` is a direction from a node, `NodeTest` a condition on the nodes met there;
* `Operator` is a binary operator, and `Operator.level` says how strongly it binds;
* `XPath` is an expression; a path of several steps is nested, its last step outermost;
* `XPath.Error` is why an expression cannot be read or run.
-/

namespace Gleaner

namespace XPath

inductive Axis where
  | ancestor | ancestorOrSelf | attributes | child | descendant | descendantOrSelf
  | following | followingSibling | bindings | parent | preceding | precedingSibling | self
  deriving DecidableEq, Repr

def Axis.words : List (String × Axis) :=
  [("ancestor-or-self", .ancestorOrSelf), ("ancestor", .ancestor), ("attribute", .attributes),
    ("child", .child), ("descendant-or-self", .descendantOrSelf), ("descendant", .descendant),
    ("following-sibling", .followingSibling), ("following", .following), ("namespace", .bindings),
    ("parent", .parent), ("preceding-sibling", .precedingSibling), ("preceding", .preceding),
    ("self", .self)]

inductive NodeTest where
  -- Any name, or any name in the namespace of a prefix.
  | anyName (front : Option String)
  | name (spelled : Xml.Spelled)
  | node
  | text
  | comment
  -- An instruction, or one with the given target.
  | instruction (target : Option String)
  deriving DecidableEq, Repr

inductive Operator where
  | or | and | eq | ne | lt | le | gt | ge | add | sub | mul | div | mod | union
  deriving DecidableEq, Repr

/-- The levels on which operators and prefixed operators stand, weakest first. -/
inductive Level where
  | or | and | equality | relation | sum | product | negation | union
  deriving DecidableEq, Repr

def Operator.level : Operator → Level
  | .or => .or
  | .and => .and
  | .eq | .ne => .equality
  | .lt | .le | .gt | .ge => .relation
  | .add | .sub => .sum
  | .mul | .div | .mod => .product
  | .union => .union

def Operator.sign : Operator → String
  | .or => "or"
  | .and => "and"
  | .eq => "="
  | .ne => "!="
  | .lt => "<"
  | .le => "<="
  | .gt => ">"
  | .ge => ">="
  | .add => "+"
  | .sub => "-"
  | .mul => "*"
  | .div => "div"
  | .mod => "mod"
  | .union => "|"

end XPath

inductive XPath where
  -- The node at which the evaluation stands.
  | here
  | root
  | literal (s : String)
  | number (x : Binary64)
  | variable (name : Xml.Spelled)
  | call (name : Xml.Spelled) (arguments : List XPath)
  | negated (inner : XPath)
  | binary (op : XPath.Operator) (left right : XPath)
  -- The nodes of a set that fulfil a predicate.
  | filtered (nodes : XPath) (predicate : XPath)
  -- The nodes in a direction from those of a set that pass a test and fulfil predicates.
  | step (start : XPath) (axis : XPath.Axis) (test : XPath.NodeTest) (predicates : List XPath)
  deriving Repr

namespace XPath

inductive Misfit where
  | empty
  | unreadable (rest : String)
  | unclosedLiteral
  | trailingSlash
  | missingOperand
  | missingArgument
  | emptyPredicate
  | expected (sign : String)
  | unexpectedRest
  | tooDeep
  deriving DecidableEq, Repr

def Misfit.message : Misfit → String
  | .empty => "empty expression"
  | .unreadable rest => "unable to read '" ++ rest ++ "'"
  | .unclosedLiteral => "mismatched quote characters"
  | .trailingSlash => "trailing slash"
  | .missingOperand => "right hand side of expression is missing"
  | .missingArgument => "function argument is missing"
  | .emptyPredicate => "empty predicate"
  | .expected sign => "expected '" ++ sign ++ "'"
  | .unexpectedRest => "extra unparsed tokens"
  | .tooDeep => "nesting is too deep"

inductive Fault where
  | unknownFunction (name : String)
  | unknownVariable (name : String)
  | unknownPrefix (front : String)
  | notNodes
  | argumentNotNodes
  | tooManyArguments (expected actual : Nat)
  | notEnoughArguments (expected actual : Nat)
  deriving DecidableEq, Repr

def Fault.message : Fault → String
  | .unknownFunction name => "unknown function " ++ name
  | .unknownVariable name => "unknown variable " ++ name
  | .unknownPrefix front => "unknown namespace prefix " ++ front
  | .notNodes => "expression did not evaluate to a nodeset"
  | .argumentNotNodes => "argument is not a nodeset"
  | .tooManyArguments expected actual =>
    "too many arguments, expected " ++ toString expected ++ " but had " ++ toString actual
  | .notEnoughArguments expected actual =>
    "not enough arguments, expected " ++ toString expected ++ " but had " ++ toString actual

inductive Error where
  | invalid (source : String) (misfit : Misfit)
  | failed (source : String) (fault : Fault)
  | notNodes (source : String)
  deriving DecidableEq, Repr

def Error.message : Error → String
  | .invalid source misfit => "invalid xpath '" ++ source ++ "': " ++ misfit.message
  | .failed source fault => "xpath '" ++ source ++ "' failed: " ++ fault.message
  | .notNodes source => "xpath '" ++ source ++ "' does not select a node-set"

end XPath
end Gleaner
