/-!
# Outlines

An outline lists the nodes of a tree in document order: a node comes before all that it holds, and
that comes before the next node beside it. A node is known by its number, so document order is the
order of numbers, and what a node holds is a range of numbers.

* `Outline.Entry` is a numbered node;
* `leaf` and `close` build an outline node by node;
* `parent?`, `ancestors`, `below`, `held` are the relations between nodes.
-/

namespace Gleaner

structure Outline.Entry (α : Type) where
  content : α
  -- The number of the node that holds it; a node at the top holds itself.
  holder : Nat
  -- One more than the last number of what the node holds.
  stop : Nat
  deriving Repr

structure Outline (α : Type) where
  -- The nodes in document order.
  entries : Array (Outline.Entry α)
  deriving Repr

namespace Outline

variable {α : Type}

def empty : Outline α :=
  ⟨#[]⟩

def size (o : Outline α) : Nat :=
  o.entries.size

/-- Add a node that holds nothing yet, inside the node `holder`. -/
def leaf (o : Outline α) (holder : Nat) (content : α) : Outline α :=
  ⟨o.entries.push ⟨content, holder, o.size + 1⟩⟩

/-- Let the node `n` hold all nodes after it. -/
def close (o : Outline α) (n : Nat) : Outline α :=
  ⟨o.entries.modify n fun e => { e with stop := o.size }⟩

def content? (o : Outline α) (n : Nat) : Option α :=
  o.entries[n]?.map Entry.content

def stop (o : Outline α) (n : Nat) : Nat :=
  (o.entries[n]?.map Entry.stop).getD 0

def parent? (o : Outline α) (n : Nat) : Option Nat :=
  match o.entries[n]? with
  | some e => if e.holder < n then some e.holder else none
  | none => none

/-- The nodes that hold a node, from the nearest to the one at the top. -/
def ancestors (o : Outline α) (n : Nat) : List Nat :=
  match o.entries[n]? with
  | some e => if e.holder < n then e.holder :: o.ancestors e.holder else []
  | none => []
termination_by n

def below (o : Outline α) (n : Nat) : List Nat :=
  List.range' (n + 1) (o.stop n - (n + 1))

def held (o : Outline α) (n : Nat) : List Nat :=
  (o.below n).filter fun m => o.parent? m == some n

/-- The node that holds another one comes before it. -/
theorem parent?_lt {o : Outline α} {n p : Nat} (h : o.parent? n = some p) : p < n := by
  unfold parent? at h
  split at h
  · split at h
    · cases h
      assumption
    · cases h
  · cases h

end Outline
end Gleaner
