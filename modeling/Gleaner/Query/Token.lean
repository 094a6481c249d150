import Gleaner.Json.Written
import Gleaner.Query.Syntax
import Gleaner.Text.Printable
/-!
# Tokens and errors of queries

* `Query.Token` is a token, `Token.description` its form in messages;
* `Lexeme` is a token at its byte offset;
* `Query.Error` are the causes of failure, of reading a query and of running it, and
  `Error.message` words them.
-/

namespace Gleaner
namespace Query

inductive Token where
  | dot
  | dotDot
  -- A point directly followed by a name.
  | field (name : String)
  | ident (name : String)
  | str (text : String)
  | num (value : Binary64)
  | leftBracket
  | rightBracket
  | leftParen
  | rightParen
  | comma
  | colon
  | semicolon
  | pipe
  | alternative
  | question
  | comparison (op : Comparison)
  | operator (op : Operator)
  deriving DecidableEq, Repr

def messageStyle : Binary64.Style :=
  ⟨some (-4, 15), true, false⟩

def numberDescription : Binary64 → String
  | .finite x => x.written messageStyle
  | .infinite negative => if negative then "-inf" else "inf"
  | .nan => "NaN"

def Token.description : Token → String
  | .dot => "Dot"
  | .dotDot => "DotDot"
  | .field name => "Field(" ++ Text.visible name ++ ")"
  | .ident name => "Ident(" ++ Text.visible name ++ ")"
  | .str text => "Str(" ++ Text.visible text ++ ")"
  | .num value => "Num(" ++ numberDescription value ++ ")"
  | .leftBracket => "LBracket"
  | .rightBracket => "RBracket"
  | .leftParen => "LParen"
  | .rightParen => "RParen"
  | .comma => "Comma"
  | .colon => "Colon"
  | .semicolon => "Semicolon"
  | .pipe => "Pipe"
  | .alternative => "Alt"
  | .question => "Question"
  | .comparison op => "Cmp(" ++ op.name ++ ")"
  | .operator op => "Arith(" ++ op.name ++ ")"

/-- A token and the byte offset of its first character. -/
structure Lexeme where
  token : Token
  offset : Nat
  deriving DecidableEq, Repr

inductive Misplacement where
  | emptyExpression
  | unexpectedEnd
  | unexpectedToken (token : Token)
  | unexpectedKeyword (name : String)
  | expected (token : Token)
  | numberOutOfRange
  deriving DecidableEq, Repr

def Misplacement.message : Misplacement → String
  | .emptyExpression => "empty expression"
  | .unexpectedEnd => "unexpected end of expression"
  | .unexpectedToken token => "unexpected token " ++ token.description
  | .unexpectedKeyword name => "unexpected keyword '" ++ name ++ "'"
  | .expected token => "expected " ++ token.description
  | .numberOutOfRange => "number out of range"

inductive TypeMismatch where
  | notCombined (left right : Json.Kind) (op : Operator)
  | overflow
  | divisionByZero
  | notNegated (kind : Json.Kind)
  | notContained (container contained : Json.Kind)
  | noExtremum (kind : Json.Kind)
  | noLength (kind : Json.Kind)
  | noKeys (kind : Json.Kind)
  | notReversed (kind : Json.Kind)
  | notNumeric (text : String)
  | notReadAsNumber (kind : Json.Kind)
  | argumentNotString (function : Builtin) (kind : Json.Kind)
  | notApplicable (function : Builtin) (kind : Json.Kind)
  | invalidPattern (pattern : String)
  | notJoined (kind : Json.Kind)
  deriving DecidableEq, Repr

def TypeMismatch.message : TypeMismatch → String
  | .notCombined left right op =>
    left.name ++ " and " ++ right.name ++ " cannot be combined with " ++ op.name
  | .overflow => "arithmetic overflow"
  | .divisionByZero => "division by zero"
  | .notNegated kind => kind.name ++ " cannot be negated"
  | .notContained container contained => container.name ++ " cannot contain " ++ contained.name
  | .noExtremum kind => kind.name ++ " has no extremum"
  | .noLength kind => kind.name ++ " has no length"
  | .noKeys kind => kind.name ++ " has no keys"
  | .notReversed kind => kind.name ++ " cannot be reversed"
  | .notNumeric text => "cannot parse '" ++ text ++ "' as a number"
  | .notReadAsNumber kind => kind.name ++ " cannot be parsed as a number"
  | .argumentNotString function kind =>
    function.name ++ " expects a string argument, got " ++ kind.name
  | .notApplicable function kind => function.name ++ " cannot be applied to " ++ kind.name
  | .invalidPattern pattern => "invalid regex pattern: " ++ pattern
  | .notJoined kind => "cannot join " ++ kind.name

inductive Error where
  | unexpectedChar (c : Char) (offset : Nat)
  | unterminatedString (offset : Nat)
  | invalidString (offset : Nat)
  | misplaced (offset : Nat) (problem : Misplacement)
  | unknownFunction (name : String) (arity : Nat)
  | cannotIndex (kind : Json.Kind) (key : String)
  | cannotIterate (kind : Json.Kind)
  | mismatch (problem : TypeMismatch)
  -- The remainder of the least 64-bit integer by minus one, which ends the whole run.
  | remainderOverflow
  deriving DecidableEq, Repr

/-- Whether an error ends the whole run: neither `?` nor `//` nor a row can contain it. -/
def Error.isFatal : Error → Bool
  | .remainderOverflow => true
  | _ => false

def Error.message : Error → String
  | .unexpectedChar c offset =>
    "unexpected character '" ++ c.toString ++ "' at offset " ++ toString offset
  | .unterminatedString offset => "unterminated string literal at offset " ++ toString offset
  | .invalidString offset => "invalid string literal at offset " ++ toString offset
  | .misplaced offset problem =>
    "syntax error at offset " ++ toString offset ++ ": " ++ problem.message
  | .unknownFunction name arity => "unknown function " ++ name ++ "/" ++ toString arity
  | .cannotIndex kind key => "cannot index " ++ kind.name ++ " with " ++ key
  | .cannotIterate kind => "cannot iterate over " ++ kind.name
  | .mismatch problem => problem.message
  | .remainderOverflow => "remainder overflow"

end Query
end Gleaner
