import Gleaner.XPath.Evaluation
import Gleaner.Proofs.Sequencing
/-!
# The order of sets of nodes

Whatever set of nodes a path evaluates to, its nodes stand in document order, and each stands there
once. Steps and unions sort what they find; predicates only leave nodes out.

* `Xml.Document.pairwise_lt_inOrder`: nodes that are sorted stand once each;
* `Except.filterMapM_sublist`: what a traversal keeps stands in the order of the list;
* `XPath.eval_ascending`: the values of paths.
-/

namespace List

/-- Leaving out repeated items makes an ascending list strictly ascending. -/
theorem pairwise_lt_eraseReps {l : List Nat} (h : l.Pairwise (· ≤ ·)) :
    l.eraseReps.Pairwise (· < ·) := by
  have hloop : ∀ (as : List Nat) (a : Nat) (acc : List Nat), (a :: as).Pairwise (· ≤ ·) →
      (a :: acc).Pairwise (fun x y => y < x) →
      (eraseRepsBy.loop (· == ·) a as acc).Pairwise (· < ·) := by
    intro as
    induction as with
    | nil =>
        intro a acc _ hacc
        exact List.pairwise_reverse.2 hacc
    | cons b as ih =>
        intro a acc hle hacc
        rw [eraseRepsBy.loop]
        split
        · exact ih a acc (hle.sublist (by simp)) hacc
        · rename_i hne
          -- `b` follows `a` and differs from it, so it is above all that has been passed
          have hab : a < b := by
            have hle' : a ≤ b := List.rel_of_pairwise_cons hle List.mem_cons_self
            have hne' : a ≠ b := by simpa using hne
            omega
          refine ih b (a :: acc) hle.of_cons (List.pairwise_cons.2 ⟨?_, hacc⟩)
          intro c hc
          rcases List.mem_cons.1 hc with rfl | hc
          · exact hab
          · exact (List.rel_of_pairwise_cons hacc hc).trans hab
  cases l with
  | nil => exact .nil
  | cons a l => exact hloop l a [] h (List.pairwise_singleton _ a)

end List

namespace Except

variable {ε α β : Type}

/-- A traversal that keeps an item or leaves it out gives items of the list in their order. -/
theorem filterMapM_sublist {f : α → Except ε (Option β)} {g : α → β} {xs : List α} {ys : List β}
    (hf : ∀ a b, f a = .ok (some b) → b = g a) (h : xs.filterMapM f = .ok ys) :
    ys.Sublist (xs.map g) := by
  induction xs generalizing ys with
  | nil =>
      cases h
      exact .slnil
  | cons x xs ih =>
      rw [List.filterMapM_cons] at h
      rcases bind_eq_ok_iff.1 h with ⟨found, hx, hrest⟩
      cases found with
      | none => exact (ih hrest).cons _
      | some b =>
          rcases bind_eq_ok_iff.1 hrest with ⟨zs, hzs, heq⟩
          cases heq
          rw [hf x b hx]
          exact (ih hzs).cons_cons _

end Except

namespace Gleaner

namespace Xml.Document

/-- In document order each node stands once. -/
theorem pairwise_lt_inOrder (nodes : List Nat) : (inOrder nodes).Pairwise (· < ·) := by
  apply List.pairwise_lt_eraseReps
  have hsorted : (nodes.mergeSort fun a b => decide (a ≤ b)).Pairwise
      fun a b => decide (a ≤ b) = true := by
    apply List.pairwise_mergeSort
    · intro a b c hab hbc
      simp only [decide_eq_true_eq] at hab hbc ⊢
      exact Nat.le_trans hab hbc
    · intro a b
      simpa using Nat.le_total a b
  exact hsorted.imp fun h => of_decide_eq_true h

end Xml.Document

namespace XPath

/-- The nodes of a set stand in document order, each once. -/
def Value.Ascending : Value → Prop
  | .nodes ns => ns.Pairwise (· < ·)
  | _ => True

/-- Only node sets are taken for node sets. -/
theorem Value.asNodes_eq_ok {v : Value} {ns : List Nat} (h : v.asNodes = .ok ns) :
    v = .nodes ns := by
  cases v with
  | nodes ms =>
      cases h
      rfl
  | text s => cases h
  | number x => cases h
  | bool b => cases h

/-- No function has a set of nodes for its value. -/
theorem Function.apply_ascending {f : Function} {at_ : Context} {arguments : List Value} {v : Value}
    (h : f.apply at_ arguments = .ok v) : v.Ascending := by
  -- some functions first ask for a set; what they make of it is a text or a number all the same
  cases f
  all_goals
    simp only [Function.apply, Except.map_eq_ok_iff] at h
    rcases h with ⟨_, _, rfl⟩
    trivial

/-- The nodes of a set that fulfil a predicate keep their order. -/
theorem kept_ascending {at_ : Context} {ns kept : List Nat} {predicate : XPath}
    (hns : ns.Pairwise (· < ·))
    (h : (ns.zipIdx.filterMapM fun (n, i) => do
      let value ← eval { at_ with node := n, position := i + 1, size := ns.length } predicate
      .ok (if value.holdsAt (i + 1) then some n else none)) = .ok kept) :
    kept.Pairwise (· < ·) := by
  have hsublist : kept.Sublist (ns.zipIdx.map Prod.fst) := by
    apply Except.filterMapM_sublist _ h
    intro a b hab
    rcases Except.bind_eq_ok_iff.1 hab with ⟨value, _, hkept⟩
    split at hkept
    · cases hkept
      rfl
    · cases hkept
  rw [List.zipIdx_map_fst] at hsublist
  exact hns.sublist hsublist

/-- An operator that gives a node set gives it in document order. -/
theorem binary_ascending {at_ : Context} {op : Operator} {left right : XPath} {v : Value}
    (h : eval at_ (.binary op left right) = .ok v) : v.Ascending := by
  rw [eval] at h
  rcases Except.bind_eq_ok_iff.1 h with ⟨l, _, h⟩
  cases op with
  | union =>
      rcases Except.bind_eq_ok_iff.1 h with ⟨r, _, h⟩
      rcases Except.bind_eq_ok_iff.1 h with ⟨ns, _, h⟩
      rcases Except.bind_eq_ok_iff.1 h with ⟨ms, _, h⟩
      cases h
      exact Xml.Document.pairwise_lt_inOrder _
  | and =>
      dsimp only at h
      split at h
      · rcases Except.map_eq_ok_iff.1 h with ⟨_, _, rfl⟩
        trivial
      · cases h
        trivial
  | or =>
      dsimp only at h
      split at h
      · cases h
        trivial
      · rcases Except.map_eq_ok_iff.1 h with ⟨_, _, rfl⟩
        trivial
  | _ =>
      -- the other operators compare or calculate
      rcases Except.bind_eq_ok_iff.1 h with ⟨_, _, h⟩
      cases h
      trivial

/-- Every set of nodes that a path evaluates to stands in document order, without repetition. -/
theorem eval_ascending {at_ : Context} {v : Value} :
    ∀ {p : XPath}, eval at_ p = .ok v → v.Ascending
  | .here, h => by
      cases h
      exact List.pairwise_singleton _ _
  | .root, h => by
      cases h
      exact List.pairwise_singleton _ _
  | .literal s, h => by
      cases h
      trivial
  | .number x, h => by
      cases h
      trivial
  | .variable name, h => by
      cases h
  | .call name arguments, h => by
      rw [eval] at h
      split at h
      · cases h
      · rcases Except.bind_eq_ok_iff.1 h with ⟨values, _, h⟩
        rcases Except.bind_eq_ok_iff.1 h with ⟨_, _, h⟩
        exact Function.apply_ascending h
  | .negated inner, h => by
      rw [eval] at h
      rcases Except.bind_eq_ok_iff.1 h with ⟨_, _, h⟩
      cases h
      trivial
  | .binary op left right, h => binary_ascending h
  | .filtered nodes predicate, h => by
      rw [eval] at h
      rcases Except.bind_eq_ok_iff.1 h with ⟨w, hw, h⟩
      rcases Except.bind_eq_ok_iff.1 h with ⟨ns, hns, h⟩
      rcases Except.bind_eq_ok_iff.1 h with ⟨kept, hkept, h⟩
      cases h
      have hset : w.Ascending := eval_ascending hw
      rw [Value.asNodes_eq_ok hns] at hset
      exact kept_ascending hset hkept
  | .step start axis test predicates, h => by
      rw [eval] at h
      rcases Except.bind_eq_ok_iff.1 h with ⟨w, _, h⟩
      rcases Except.bind_eq_ok_iff.1 h with ⟨starts, _, h⟩
      rcases Except.bind_eq_ok_iff.1 h with ⟨found, _, h⟩
      cases h
      exact Xml.Document.pairwise_lt_inOrder _

end XPath
end Gleaner
