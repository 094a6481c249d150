import Gleaner.Proofs.Query.Parts
import Gleaner.Query.Grammar
/-!
# Writing queries

A query is written with parentheses only around the operands that the levels of the grammar would
otherwise group differently.

* `Binary.grouping` says how strong an operator is and how strong its operands have to be, and
  `Query.strength` how strong a written query is;
* `Query.marks` are the tokens and blanks of which the text consists, `Query.written` is the text;
* `Query.binary_induction` is induction on a query that treats all binary operators alike.
-/

namespace Gleaner
namespace Query

/-! ## Tokens and blanks -/

/-- The text of a token; a number is written by the digits of its whole part. -/
def Token.text : Token → List Char
  | .dot => ['.']
  | .dotDot => ['.', '.']
  | .field name => '.' :: name.toList
  | .ident name => name.toList
  | .str text => '"' :: Json.escaped text.toList ++ ['"']
  | .num (.finite x) => Nat.toDigits 10 x.trunc.natAbs
  | .num _ => []
  | .leftBracket => ['[']
  | .rightBracket => [']']
  | .leftParen => ['(']
  | .rightParen => [')']
  | .comma => [',']
  | .colon => [':']
  | .semicolon => [';']
  | .pipe => ['|']
  | .alternative => ['/', '/']
  | .question => ['?']
  | .comparison op => op.symbol.toList
  | .operator op => op.symbol.toList

inductive Mark where
  | token (t : Token)
  | blank
  deriving DecidableEq, Repr

def textOf (ms : List Mark) : List Char :=
  ms.flatMap fun
    | .token t => t.text
    | .blank => [' ']

def tokensOf (ms : List Mark) : List Token :=
  ms.flatMap fun
    | .token t => [t]
    | .blank => []

@[simp] theorem textOf_nil : textOf [] = [] := rfl

@[simp] theorem textOf_token (t : Token) (ms : List Mark) :
    textOf (.token t :: ms) = t.text ++ textOf ms := rfl

@[simp] theorem textOf_blank (ms : List Mark) : textOf (.blank :: ms) = ' ' :: textOf ms := rfl

@[simp] theorem textOf_append (ms ns : List Mark) : textOf (ms ++ ns) = textOf ms ++ textOf ns :=
  List.flatMap_append

@[simp] theorem tokensOf_nil : tokensOf [] = [] := rfl

@[simp] theorem tokensOf_token (t : Token) (ms : List Mark) :
    tokensOf (.token t :: ms) = t :: tokensOf ms := rfl

@[simp] theorem tokensOf_blank (ms : List Mark) : tokensOf (.blank :: ms) = tokensOf ms := rfl

@[simp] theorem tokensOf_append (ms ns : List Mark) :
    tokensOf (ms ++ ns) = tokensOf ms ++ tokensOf ns :=
  List.flatMap_append

/-! ## Grouping -/

/-- The strength of an operator, and those that its operands need to go without parentheses. -/
structure Grouping where
  own : Nat
  left : Nat
  right : Nat

namespace Binary

/--
How an operator groups: a left operand of the operator's own strength groups to the left, a right
one to the right, and where both are stronger the operator does not repeat.
-/
def grouping : Binary → Grouping
  | .pipe => ⟨0, 0, 1⟩
  | .comma => ⟨1, 1, 2⟩
  | .alternative => ⟨2, 3, 2⟩
  | .or => ⟨3, 3, 4⟩
  | .and => ⟨4, 4, 5⟩
  | .comparison _ => ⟨5, 6, 6⟩
  | .operator .add | .operator .sub => ⟨6, 6, 7⟩
  | .operator _ => ⟨7, 7, 8⟩

def token : Binary → Token
  | .pipe => .pipe
  | .comma => .comma
  | .alternative => .alternative
  | .or => .ident "or"
  | .and => .ident "and"
  | .comparison op => .comparison op
  | .operator op => .operator op

end Binary

/-- The strength of what is no application of an operator, so that selections may follow. -/
def tight : Nat := 9

/-- How strong a written query is: an operand weaker than its place stands in parentheses. -/
def strength : Query → Nat
  | .pipe .. => Binary.pipe.grouping.own
  | .comma .. => Binary.comma.grouping.own
  | .alternative .. => Binary.alternative.grouping.own
  | .or .. => Binary.or.grouping.own
  | .and .. => Binary.and.grouping.own
  | .compare op .. => (Binary.comparison op).grouping.own
  | .arith op .. => (Binary.operator op).grouping.own
  | .neg _ => 8
  | _ => tight

def parenthesized (ms : List Mark) : List Mark :=
  .token .leftParen :: (ms ++ [.token .rightParen])

def bracketed (ms : List Mark) : List Mark :=
  .token .leftBracket :: (ms ++ [.token .rightBracket])

/-- Marks in parentheses if they are too weak for their place. -/
def enclosed (weak : Prop) [Decidable weak] (ms : List Mark) : List Mark :=
  if weak then parenthesized ms else ms

/-! ## Marks -/

/-- The marks of a literal that is neither an array nor an object, which no literal writes. -/
def literalMarks : Json → List Mark
  | .null => [.token (.ident "null")]
  | .bool b => [.token (.ident (if b then "true" else "false"))]
  | .number n => [.token (.num (.finite n.toFinite))]
  | .string s => [.token (.str s)]
  | .array _ | .object _ => []

def binaryMarks (op : Binary) (left right : List Mark) : List Mark :=
  left ++ .blank :: .token op.token :: .blank :: right

/-- Whether a query is the input itself, which goes without saying before a name. -/
def isIdentity : Query → Bool
  | .identity => true
  | _ => false

mutual

/-- The tokens and blanks that write a query. -/
def marks : Query → List Mark
  | .identity => [.token .dot]
  | .recurse => [.token .dotDot]
  | .literal value => literalMarks value
  -- a member of the input goes without the point of the input
  | .field target name =>
    (if target.isIdentity then [] else enclosed (target.strength < tight) (marks target)) ++
      [.token .dot, .token (.str name)]
  | .index target position =>
    enclosed (target.strength < tight) (marks target) ++ bracketed (marks position)
  | .slice target low high =>
    enclosed (target.strength < tight) (marks target) ++
      bracketed (sideMarks low ++ .token .colon :: sideMarks high)
  | .iterate target => enclosed (target.strength < tight) (marks target) ++ bracketed []
  | .optional inner => enclosed (inner.strength < tight) (marks inner) ++ [.token .question]
  | .array inner => bracketed (sideMarks inner)
  | .pipe left right =>
    binaryMarks .pipe (enclosed (left.strength < Binary.pipe.grouping.left) (marks left))
      (enclosed (right.strength < Binary.pipe.grouping.right) (marks right))
  | .comma left right =>
    binaryMarks .comma (enclosed (left.strength < Binary.comma.grouping.left) (marks left))
      (enclosed (right.strength < Binary.comma.grouping.right) (marks right))
  | .alternative left right =>
    binaryMarks .alternative
      (enclosed (left.strength < Binary.alternative.grouping.left) (marks left))
      (enclosed (right.strength < Binary.alternative.grouping.right) (marks right))
  | .or left right =>
    binaryMarks .or (enclosed (left.strength < Binary.or.grouping.left) (marks left))
      (enclosed (right.strength < Binary.or.grouping.right) (marks right))
  | .and left right =>
    binaryMarks .and (enclosed (left.strength < Binary.and.grouping.left) (marks left))
      (enclosed (right.strength < Binary.and.grouping.right) (marks right))
  | .compare op left right =>
    binaryMarks (.comparison op)
      (enclosed (left.strength < (Binary.comparison op).grouping.left) (marks left))
      (enclosed (right.strength < (Binary.comparison op).grouping.right) (marks right))
  | .arith op left right =>
    binaryMarks (.operator op)
      (enclosed (left.strength < (Binary.operator op).grouping.left) (marks left))
      (enclosed (right.strength < (Binary.operator op).grouping.right) (marks right))
  | .not inner => .token (.ident "not") :: parenthesized (marks inner)
  | .neg inner => .token (.operator .sub) :: enclosed (inner.strength < 8) (marks inner)
  | .call f [] => [.token (.ident f.name)]
  | .call f (argument :: more) =>
    .token (.ident f.name) :: parenthesized (marks argument ++ moreMarks more)

/-- The marks of an end of a range, or of an array's inside; a missing one leaves nothing. -/
def sideMarks : Option Query → List Mark
  | none => []
  | some q => marks q

def moreMarks : List Query → List Mark
  | [] => []
  | q :: more => .token .semicolon :: (marks q ++ moreMarks more)

end

def written (q : Query) : String :=
  String.ofList (textOf q.marks)

/-- The marks of a query in a place that needs some strength. -/
def marksAt (place : Nat) (q : Query) : List Mark :=
  enclosed (q.strength < place) q.marks

/-! ## Binary operators alike -/

theorem marks_build (op : Binary) (left right : Query) :
    (op.build left right).marks =
      binaryMarks op (left.marksAt op.grouping.left) (right.marksAt op.grouping.right) := by
  cases op <;> rfl

theorem strength_build (op : Binary) (left right : Query) :
    (op.build left right).strength = op.grouping.own := by
  cases op <;> rfl

theorem parts_build (op : Binary) (left right : Query) :
    (op.build left right).parts = [left, right] := by
  cases op <;> rfl

def isBinary : Query → Bool
  | .pipe .. | .comma .. | .alternative .. | .and .. | .or .. | .compare .. | .arith .. => true
  | _ => false

/-- Every query of two operands is the application of an operator. -/
theorem exists_build_of_isBinary {q : Query} (h : q.isBinary = true) :
    ∃ (op : Binary) (left right : Query), q = op.build left right := by
  cases q with
  | pipe left right => exact ⟨.pipe, left, right, rfl⟩
  | comma left right => exact ⟨.comma, left, right, rfl⟩
  | alternative left right => exact ⟨.alternative, left, right, rfl⟩
  | or left right => exact ⟨.or, left, right, rfl⟩
  | and left right => exact ⟨.and, left, right, rfl⟩
  | compare op left right => exact ⟨.comparison op, left, right, rfl⟩
  | arith op left right => exact ⟨.operator op, left, right, rfl⟩
  | _ => cases h

theorem Binary.own_lt (op : Binary) : op.grouping.own < 8 := by
  cases op with
  | comparison op => exact (by decide : 5 < 8)
  | operator op => cases op <;> decide
  | _ => decide

/-- Nothing binds more tightly than a target. -/
theorem strength_le_tight (q : Query) : q.strength ≤ tight := by
  cases h : q.isBinary with
  | true =>
      rcases exists_build_of_isBinary h with ⟨op, left, right, rfl⟩
      rw [strength_build]
      exact Nat.le_of_lt (Nat.lt_trans op.own_lt (by decide))
  | false =>
      cases q with
      | neg inner => exact (by decide : 8 ≤ tight)
      | _ => first | exact Nat.le_refl tight | cases h

/-- Induction on a query by its parts, with one case for all binary operators. -/
theorem binary_induction {motive : Query → Prop}
    (binary : ∀ (op : Binary) (left right : Query), motive left → motive right →
      motive (op.build left right))
    (other : ∀ q : Query, q.isBinary = false → (∀ p ∈ q.parts, motive p) → motive q)
    (q : Query) : motive q := by
  induction q using parts_induction with
  | step q ih =>
      cases h : q.isBinary with
      | false => exact other q h ih
      | true =>
          rcases exists_build_of_isBinary h with ⟨op, left, right, rfl⟩
          rw [parts_build] at ih
          exact binary op left right (ih left (by simp)) (ih right (by simp))

example : (Query.arith .mul (.arith .add .identity .recurse) (.field .identity "a")).written =
    "(. + ..) * .\"a\"" := by
  decide +kernel

end Query
end Gleaner
