import Gleaner.Proofs.Json.NumberText
import Gleaner.Proofs.Json.Order
/-!
# The two equalities of values

The order converts numbers before it compares them, and the equality `Json.same` does not: one and
the binary number of the same value are equal in the order, but not the same. Nothing else sets the
two apart.

* `Json.numbers` lists the numbers inside a value, and `Json.SameNumbers` says that two values have
  the same numbers in the same places;
* `Json.same_iff`: the same values are the equal ones that have the same numbers;
* `Number.IsNormal` are the numbers of which equal ones are the same, and `Json.same_of_isNormal`
  says so of values.
-/

namespace Gleaner

/-! ## Numbers -/

namespace Number

/-- Numbers without conversion are the same only if they are equal. -/
theorem compare_of_same {m n : Number} (h : m.same n = true) : m.compare n = .eq := by
  cases m with
  | integer k =>
      cases n with
      | integer l =>
          rw [beq_iff_eq.1 (show (k == l) = true from h)]
          exact Std.ReflCmp.compare_self
      | real y => cases h
  | real x =>
      cases n with
      | integer l => cases h
      | real y => exact beq_iff_eq.1 h

/-- A number in the form that the results of arithmetic have: a whole one is a small integer. -/
def IsNormal (n : Number) : Prop :=
  ofFinite n.toFinite = n

/-- Numbers that come out of calculation are normal. -/
theorem isNormal_ofFinite (x : Binary64.Finite) : (ofFinite x).IsNormal := by
  by_cases h : x.isIntegral ∧ -exactBound < x.trunc ∧ x.trunc < exactBound
  -- a small integer comes back from its binary number, and every other number is one already
  · have hsmall : x.trunc.natAbs < 2 ^ 53 := by
      have hrange := h.2
      unfold exactBound at hrange
      omega
    rw [ofFinite, if_pos h]
    exact ofFinite_ofInt hsmall
  · have hreal : ofFinite x = .real x := by rw [ofFinite, if_neg h]
    rw [hreal]
    exact hreal

/-- Binary numbers of one value have one form. -/
theorem same_ofFinite {x y : Binary64.Finite} (h : x.scaled = y.scaled) :
    (ofFinite x).same (ofFinite y) = true := by
  have htrunc : x.trunc = y.trunc := by
    rw [Binary64.Finite.trunc, Binary64.Finite.trunc, h]
  have hmagnitude : x.magnitude = y.magnitude := by
    rw [← Binary64.Finite.scaled_natAbs, ← Binary64.Finite.scaled_natAbs, h]
  have hintegral : x.isIntegral = y.isIntegral := by
    rw [Binary64.Finite.isIntegral, Binary64.Finite.isIntegral, hmagnitude]
  -- both numbers take the same branch: its condition is about the value in units alone
  unfold ofFinite
  rw [htrunc, hintegral]
  split
  · exact beq_self_eq_true y.trunc
  · refine beq_iff_eq.2 ?_
    rw [Binary64.Finite.compare, h]
    exact Std.ReflCmp.compare_self

/-- Normal numbers that compare equal have the same form. -/
theorem same_of_isNormal {m n : Number} (hm : m.IsNormal) (hn : n.IsNormal)
    (h : m.compare n = .eq) : m.same n = true := by
  have hscaled : m.toFinite.scaled = n.toFinite.scaled := Std.LawfulEqCmp.eq_of_compare h
  rw [← hm, ← hn]
  exact same_ofFinite hscaled

end Number

namespace Json

open List (Forall₂)

/-! ## The numbers inside a value -/

mutual

/-- The numbers inside a value, in the order in which they are listed. -/
def numbers : Json → List Number
  | .number n => [n]
  | .array items => numbersOfItems items
  | .object members => numbersOfMembers members
  | _ => []

def numbersOfItems : List Json → List Number
  | [] => []
  | v :: rest => numbers v ++ numbersOfItems rest

def numbersOfMembers : List (String × Json) → List Number
  | [] => []
  | (_, v) :: rest => numbers v ++ numbersOfMembers rest

end

theorem numbersOfMembers_eq (ms : Members) :
    numbersOfMembers ms = numbersOfItems (Members.values ms) := by
  induction ms with
  | nil => rfl
  | cons m ms ih =>
      rw [numbersOfMembers, ih]
      rfl

/-- The numbers inside a value, in the order of the sorted keys. -/
def orderedNumbers (v : Json) : List Number :=
  v.sorted.numbers

/-- The numbers of both values are the same, without conversion, one after the other. -/
def SameNumbers (v w : Json) : Prop :=
  Forall₂ (fun m n => m.same n = true) v.orderedNumbers w.orderedNumbers

instance (v w : Json) : Decidable (SameNumbers v w) :=
  inferInstanceAs (Decidable (Forall₂ _ _ _))

/-! ## Equal values -/

/-- Objects compare equal exactly if they have the same keys and values that compare equal. -/
theorem compareSorted_object_iff (ms ns : Members) :
    compareSorted (.object ms) (.object ns) = .eq ↔
      Members.keys ms = Members.keys ns ∧
        compareItems (Members.values ms) (Members.values ns) = .eq := by
  rw [compareSorted, Ordering.then_eq_eq]
  constructor
  · rintro ⟨hkeys, hvalues⟩
    have heq := eq_of_compareKeys hkeys
    rw [compareMembers_eq_compareItems (length_eq_of_keys heq)] at hvalues
    exact ⟨heq, hvalues⟩
  · rintro ⟨heq, hvalues⟩
    rw [compareMembers_eq_compareItems (length_eq_of_keys heq), heq]
    exact ⟨Std.ReflCmp.compare_self, hvalues⟩

/-- Equal values are of one kind. -/
theorem alike_of_compareSorted {a b : Json} (h : compareSorted a b = .eq) : Alike a b := by
  rw [compareSorted_eq_then, Ordering.then_eq_eq] at h
  exact alike_of_rank_eq (Std.LawfulEqCmp.eq_of_compare h.1)

theorem compareItems_cons_iff (a b : Json) (as bs : List Json) :
    compareItems (a :: as) (b :: bs) = .eq ↔
      compareSorted a b = .eq ∧ compareItems as bs = .eq := by
  rw [compareItems, Ordering.then_eq_eq]

/-- Lists that compare equal have pairwise equal numbers in them, if that holds for the items. -/
theorem equal_numbersOfItems {as : List Json}
    (h : ∀ a ∈ as, ∀ b, compareSorted a b = .eq →
      Forall₂ (fun m n => m.compare n = .eq) a.numbers b.numbers)
    (bs : List Json) (heq : compareItems as bs = .eq) :
    Forall₂ (fun m n => m.compare n = .eq) (numbersOfItems as) (numbersOfItems bs) := by
  induction as generalizing bs with
  | nil =>
      cases bs with
      | nil => exact .nil
      | cons b bs => cases heq
  | cons a as ih =>
      cases bs with
      | nil => cases heq
      | cons b bs =>
          rcases (compareItems_cons_iff a b as bs).1 heq with ⟨hhead, hrest⟩
          have hnumbers := h a List.mem_cons_self b hhead
          exact List.rel_append hnumbers
            (ih (fun c hc => h c (List.mem_cons_of_mem a hc)) bs hrest)

/-- Equal values have equal numbers, and so as many of them. -/
theorem equal_numbers {a b : Json} (h : compareSorted a b = .eq) :
    Forall₂ (fun m n => m.compare n = .eq) a.numbers b.numbers := by
  induction a using parts_induction generalizing b with
  | step a ih =>
      cases alike_of_compareSorted h with
      | null | bool | string => exact .nil
      | number m n => exact .cons h .nil
      | array as bs => exact equal_numbersOfItems (fun a ha b => ih a ha) bs h
      | object ms ns =>
          have hvalues := ((compareSorted_object_iff ms ns).1 h).2
          rw [numbers, numbers, numbersOfMembers_eq, numbersOfMembers_eq]
          exact equal_numbersOfItems (fun a ha b => ih a ha) _ hvalues

/-! ## The same values -/

/-- The derived equality of members goes by keys, then by values. -/
theorem sameMembers_iff (ms ns : Members) :
    sameMembers ms ns = true ↔
      Members.keys ms = Members.keys ns ∧
        sameItems (Members.values ms) (Members.values ns) = true := by
  induction ms generalizing ns with
  | nil => cases ns <;> simp [sameMembers, sameItems, Members.keys, Members.values]
  | cons m ms ih =>
      cases ns with
      | nil => simp [sameMembers, Members.keys]
      | cons n ns =>
          have hrest := ih ns
          simp only [Members.keys, Members.values] at hrest
          simp only [sameMembers, sameItems, Members.keys, Members.values, List.map_cons,
            List.cons.injEq, Bool.and_eq_true, beq_iff_eq, hrest]
          tauto

/-- The derived equality of lists is equal comparison with every number of the same form. -/
theorem sameItems_iff {as : List Json}
    (h : ∀ a ∈ as, ∀ b, sameSorted a b = true ↔ compareSorted a b = .eq ∧
      Forall₂ (fun m n => m.same n = true) a.numbers b.numbers) (bs : List Json) :
    sameItems as bs = true ↔ compareItems as bs = .eq ∧
      Forall₂ (fun m n => m.same n = true) (numbersOfItems as) (numbersOfItems bs) := by
  induction as generalizing bs with
  | nil =>
      cases bs with
      | nil => exact ⟨fun _ => ⟨rfl, .nil⟩, fun _ => rfl⟩
      | cons b bs => simp [sameItems, compareItems]
  | cons a as ih =>
      cases bs with
      | nil => simp [sameItems, compareItems]
      | cons b bs =>
          have hhead := h a List.mem_cons_self b
          have hrest := ih (fun c hc => h c (List.mem_cons_of_mem a hc)) bs
          rw [sameItems, Bool.and_eq_true, hhead, hrest, compareItems_cons_iff, numbersOfItems,
            numbersOfItems]
          constructor
          · rintro ⟨⟨hab, hnumbers⟩, hitems, hothers⟩
            exact ⟨⟨hab, hitems⟩, List.rel_append hnumbers hothers⟩
          · rintro ⟨⟨hab, hitems⟩, hall⟩
            -- equal heads have as many numbers, so the numbers of both lists part in one place
            have hlength := (equal_numbers hab).length_eq
            have hnumbers := List.forall₂_take_append _ _ _ hall
            have hothers := List.forall₂_drop_append _ _ _ hall
            rw [List.take_left' hlength] at hnumbers
            rw [List.drop_left' hlength] at hothers
            exact ⟨⟨hab, hnumbers⟩, hitems, hothers⟩

/-- The same values are of one kind. -/
theorem alike_of_sameSorted {a b : Json} (h : sameSorted a b = true) : Alike a b := by
  unfold sameSorted at h
  split at h
  · exact .null
  · rw [beq_iff_eq.1 h]
    exact .bool _
  · exact .number _ _
  · exact .string _ _
  · exact .array _ _
  · exact .object _ _
  · cases h

/-- The derived equality is equal comparison with every number of the same form. -/
theorem sameSorted_iff (a b : Json) :
    sameSorted a b = true ↔ compareSorted a b = .eq ∧
      Forall₂ (fun m n => m.same n = true) a.numbers b.numbers := by
  induction a using parts_induction generalizing b with
  | step a ih =>
      by_cases halike : Alike a b
      · cases halike with
        | null => exact ⟨fun _ => ⟨rfl, .nil⟩, fun _ => rfl⟩
        | bool p => cases p <;> exact ⟨fun _ => ⟨rfl, .nil⟩, fun _ => rfl⟩
        | number m n =>
            constructor
            · intro h
              exact ⟨Number.compare_of_same h, .cons h .nil⟩
            · rintro ⟨_, h⟩
              cases h with
              | cons h _ => exact h
        | string s t =>
            have heq : (s == t) = true ↔ Ord.compare s t = .eq :=
              beq_iff_eq.trans Std.LawfulEqCmp.compare_eq_iff_eq.symm
            exact heq.trans ⟨fun h => ⟨h, .nil⟩, fun h => h.1⟩
        | array as bs => exact sameItems_iff ih bs
        | object ms ns =>
            rw [compareSorted_object_iff, numbers, numbers, numbersOfMembers_eq,
              numbersOfMembers_eq, and_assoc]
            -- both sides ask for equal keys first, and then the values are compared as items
            exact (sameMembers_iff ms ns).trans
              (and_congr_right fun _ => sameItems_iff ih (Members.values ns))
      -- values of two kinds are neither the same nor equal
      · exact ⟨fun h => absurd (alike_of_sameSorted h) halike,
          fun h => absurd (alike_of_compareSorted h.1) halike⟩

/-- The same values are the equal ones that have the same numbers. -/
theorem same_iff (a b : Json) : a.same b = true ↔ a.compare b = .eq ∧ a.SameNumbers b :=
  sameSorted_iff a.sorted b.sorted

/-- Equal values whose numbers are in normal form have the same numbers. -/
theorem sameNumbers_of_isNormal {a b : Json} (ha : ∀ n ∈ a.orderedNumbers, n.IsNormal)
    (hb : ∀ n ∈ b.orderedNumbers, n.IsNormal) (h : a.compare b = .eq) : a.SameNumbers b := by
  have hequal : Forall₂ (fun m n => m.compare n = .eq) a.orderedNumbers b.orderedNumbers :=
    equal_numbers h
  -- from here on the two lists of numbers count, no longer the values
  unfold SameNumbers
  generalize a.orderedNumbers = ms at ha hequal ⊢
  generalize b.orderedNumbers = ns at hb hequal ⊢
  induction hequal with
  | nil => exact .nil
  | cons hmn _ ih =>
      rcases List.forall_mem_cons.1 ha with ⟨hm, ha⟩
      rcases List.forall_mem_cons.1 hb with ⟨hn, hb⟩
      exact .cons (Number.same_of_isNormal hm hn hmn) (ih ha hb)

end Json
end Gleaner
