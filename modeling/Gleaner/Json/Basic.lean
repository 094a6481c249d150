import Gleaner.Binary64.Decimal
import Gleaner.Text.Cut
/-!
# JSON values

* `Number` keeps integers exact beside binary numbers;
* `Json` is a value; the members of an object keep the order in which their keys first appeared;
* `Members.get?` and `Members.insert` read and write a member;
* `Json.WellFormed` says that no object repeats a key, which every producer of values keeps.
-/

namespace Gleaner

/-! ## Numbers -/

/-- A number: an integer written without fraction and exponent, or a binary number. -/
inductive Number where
  | integer (n : Int)
  | real (x : Binary64.Finite)
  deriving DecidableEq, Repr

namespace Number

def leastInteger : Int :=
  -(2 ^ 63)

def integerBound : Int :=
  2 ^ 64

/-- The integers that are kept exact have 64 bits, signed or unsigned. -/
def InRange : Number → Prop
  | .integer n => leastInteger ≤ n ∧ n < integerBound
  | .real _ => True

def toFinite : Number → Binary64.Finite
  | .integer n => Binary64.Finite.ofInt n
  | .real x => x

/-- The bound of the integers that a binary number holds without gaps. -/
def exactBound : Int :=
  2 ^ 53

/-- A finite number as a number: an integral one below `2 ^ 53` is an integer. -/
def ofFinite (x : Binary64.Finite) : Number :=
  if x.isIntegral ∧ -exactBound < x.trunc ∧ x.trunc < exactBound then .integer x.trunc else .real x

def ofBinary? : Binary64 → Option Number
  | .finite x => some (ofFinite x)
  | _ => none

def compare (a b : Number) : Ordering :=
  a.toFinite.compare b.toFinite

/-- Equality without conversion: an integer equals no binary number. -/
def same : Number → Number → Bool
  | .integer m, .integer n => m == n
  | .real x, .real y => x.compare y == .eq
  | _, _ => false

/-- How a binary number is written in a document: positional from `1e-5` up to `1e16`. -/
def documentStyle : Binary64.Style :=
  ⟨some (-5, 15), true, true⟩

def written : Number → String
  | .integer n => toString n
  | .real x => x.written documentStyle

def text : Number → String
  | .integer n => toString n
  | .real x => x.written Binary64.plainStyle

end Number

/-! ## Values -/

inductive Json where
  | null
  | bool (b : Bool)
  | number (n : Number)
  | string (s : String)
  | array (items : List Json)
  | object (members : List (String × Json))
  deriving Repr, Inhabited, BEq

/-- The members of an object, in the order in which their keys first appeared. -/
abbrev Members :=
  List (String × Json)

namespace Members

def get? (key : String) : Members → Option Json
  | [] => none
  | (k, v) :: rest => if k = key then some v else get? key rest

/-- Set a member: a known key keeps its place, a new one goes to the end. -/
def insert (key : String) (value : Json) : Members → Members
  | [] => [(key, value)]
  | (k, v) :: rest => if k = key then (k, value) :: rest else (k, v) :: insert key value rest

def keys (ms : Members) : List String :=
  ms.map Prod.fst

def values (ms : Members) : List Json :=
  ms.map Prod.snd

/-- Set the members of `more` one after another. -/
def insertAll (ms more : Members) : Members :=
  more.foldl (fun acc (k, v) => insert k v acc) ms

def sortedKeys (ms : Members) : List String :=
  ms.keys.mergeSort (fun a b => a ≤ b)

@[simp] theorem get?_nil (key : String) : get? key [] = none := rfl

theorem get?_insert_self (key : String) (value : Json) (ms : Members) :
    get? key (insert key value ms) = some value := by
  induction ms with
  | nil => simp [insert, get?]
  | cons m rest ih =>
    obtain ⟨k, v⟩ := m
    by_cases h : k = key <;> simp [insert, get?, h, ih]

/-- Setting a member leaves the other keys as they are. -/
theorem get?_insert_of_ne {key other : String} (h : other ≠ key) (value : Json) (ms : Members) :
    get? other (insert key value ms) = get? other ms := by
  induction ms with
  | nil => simp [insert, get?, Ne.symm h]
  | cons m rest ih =>
    obtain ⟨k, v⟩ := m
    by_cases hk : k = key
    · subst hk
      simp [insert, get?, Ne.symm h]
    · by_cases ho : k = other
      · subst ho
        simp [insert, get?, hk]
      · simp [insert, get?, hk, ho, ih]

/-- A key that is set keeps its place, and a new one is put last. -/
theorem keys_insert (key : String) (value : Json) (ms : Members) :
    keys (insert key value ms) = if key ∈ keys ms then keys ms else keys ms ++ [key] := by
  induction ms with
  | nil => simp [insert, keys]
  | cons m rest ih =>
    obtain ⟨k, v⟩ := m
    by_cases hk : k = key
    · simp [insert, keys, hk]
    · have ih' : (insert key value rest).map Prod.fst =
          if key ∈ rest.map Prod.fst then rest.map Prod.fst else rest.map Prod.fst ++ [key] := ih
      simp only [insert, hk, if_false, keys, List.map_cons, List.mem_cons, ih', Ne.symm hk,
        false_or]
      split <;> rfl

end Members

namespace Json

mutual

def WellFormed : Json → Prop
  | .array items => ItemsWellFormed items
  | .object members => (Members.keys members).Nodup ∧ MembersWellFormed members
  | _ => True

def ItemsWellFormed : List Json → Prop
  | [] => True
  | v :: rest => WellFormed v ∧ ItemsWellFormed rest

def MembersWellFormed : List (String × Json) → Prop
  | [] => True
  | (_, v) :: rest => WellFormed v ∧ MembersWellFormed rest

end

inductive Kind where
  | null | boolean | number | string | array | object
  deriving DecidableEq, Repr

def Kind.name : Kind → String
  | .null => "null"
  | .boolean => "boolean"
  | .number => "number"
  | .string => "string"
  | .array => "array"
  | .object => "object"

def kind : Json → Kind
  | .null => .null
  | .bool _ => .boolean
  | .number _ => .number
  | .string _ => .string
  | .array _ => .array
  | .object _ => .object

/-- The integer `n` as a value. -/
def ofNat (n : Nat) : Json :=
  .number (.integer n)

def string? : Json → Option String
  | .string s => some s
  | _ => none

def array? : Json → Option (List Json)
  | .array items => some items
  | _ => none

def object? : Json → Option Members
  | .object members => some members
  | _ => none

/-- Null and false are false; every other value is true. -/
def isTruthy : Json → Bool
  | .null | .bool false => false
  | _ => true

/-- Null, false, zero and everything empty are blank; every other value is not. -/
def isFilled : Json → Bool
  | .null => false
  | .bool b => b
  | .number n => !n.toFinite.isZero
  | .string s => !s.isEmpty
  | .array items => !items.isEmpty
  | .object members => !members.isEmpty

mutual

/-- The value and all values inside it, each before those inside it. -/
def everyValue : Json → List Json
  | .array items => .array items :: everyItem items
  | .object members => .object members :: everyMember members
  | v => [v]

def everyItem : List Json → List Json
  | [] => []
  | v :: rest => everyValue v ++ everyItem rest

def everyMember : List (String × Json) → List Json
  | [] => []
  | (_, v) :: rest => everyValue v ++ everyMember rest

end

end Json
end Gleaner
