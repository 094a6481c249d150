import Gleaner.Json.Basic
/-!
# The order of JSON values

Null comes before false, then true, numbers, strings, arrays and objects. Arrays are compared item
by item, objects first by their sorted keys and then value by value in the order of the keys, so the
order in which members are listed does not matter: every value is compared in its sorted form.

* `Json.sorted` lists the members of every object inside a value by ascending key;
* `Json.compare` is the order, `Json.compareSorted` the order on sorted forms;
* `Json.same` is equality up to the order of members, with integers apart from binary numbers.
-/

namespace Gleaner
namespace Json

mutual

/-- The value with the members of every object listed by ascending key. -/
def sorted : Json → Json
  | .array items => .array (sortedItems items)
  | .object members => .object ((sortedMembers members).mergeSort fun a b => a.1 ≤ b.1)
  | v => v

def sortedItems : List Json → List Json
  | [] => []
  | v :: rest => sorted v :: sortedItems rest

def sortedMembers : List (String × Json) → List (String × Json)
  | [] => []
  | (k, v) :: rest => (k, sorted v) :: sortedMembers rest

end

/-- The rank of a value's kind in the order; the two truth values have one each. -/
def rank : Json → Nat
  | .null => 0
  | .bool false => 1
  | .bool true => 2
  | .number _ => 3
  | .string _ => 4
  | .array _ => 5
  | .object _ => 6

def compareKeys : List String → List String → Ordering
  | [], [] => .eq
  | [], _ :: _ => .lt
  | _ :: _, [] => .gt
  | a :: as, b :: bs => (Ord.compare a b).then (compareKeys as bs)

mutual

def compareSorted : Json → Json → Ordering
  | .number a, .number b => a.compare b
  | .string a, .string b => Ord.compare a b
  | .array as, .array bs => compareItems as bs
  | .object as, .object bs =>
    (compareKeys (Members.keys as) (Members.keys bs)).then (compareMembers as bs)
  | a, b => Ord.compare a.rank b.rank

def compareItems : List Json → List Json → Ordering
  | [], [] => .eq
  | [], _ :: _ => .lt
  | _ :: _, [] => .gt
  | a :: as, b :: bs => (compareSorted a b).then (compareItems as bs)

/-- The order of the values of two member lists, one after the other. -/
def compareMembers : List (String × Json) → List (String × Json) → Ordering
  | (_, a) :: as, (_, b) :: bs => (compareSorted a b).then (compareMembers as bs)
  | _, _ => .eq

end

def compare (a b : Json) : Ordering :=
  compareSorted a.sorted b.sorted

mutual

/-- Equality of two sorted values, with integers apart from binary numbers. -/
def sameSorted : Json → Json → Bool
  | .null, .null => true
  | .bool a, .bool b => a == b
  | .number a, .number b => a.same b
  | .string a, .string b => a == b
  | .array as, .array bs => sameItems as bs
  | .object as, .object bs => sameMembers as bs
  | _, _ => false

def sameItems : List Json → List Json → Bool
  | [], [] => true
  | a :: as, b :: bs => sameSorted a b && sameItems as bs
  | _, _ => false

def sameMembers : List (String × Json) → List (String × Json) → Bool
  | [], [] => true
  | (k, a) :: as, (l, b) :: bs => k == l && sameSorted a b && sameMembers as bs
  | _, _ => false

end

/-- Equality up to the order of members, with integers apart from binary numbers. -/
def same (a b : Json) : Bool :=
  sameSorted a.sorted b.sorted

end Json
end Gleaner
