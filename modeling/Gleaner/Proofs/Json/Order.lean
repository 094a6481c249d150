import Gleaner.Json.Order
import Mathlib
/-!
# The laws of the order of values

The order compares by kind first, and inside of a kind by content: numbers by value, arrays item by
item, objects by their keys and then by the values of their members.

* `Json.parts_induction` is induction on a value by the values directly inside of it;
* `Ordering.Chains x y z` says how the order `z` of two ends follows from the orders `x` and `y` of
  two links, in a form that a lexicographic order hands on (`Chains.lex`);
* `Json.Relisted` says that two values differ only in the order in which members are listed;
* `Json.compare_total_preorder` puts the laws together.
-/

/-! ## Chains of orders -/

/-- Two links that do not descend: the order of the ends is the first link that is not equal. -/
def Ordering.Chains (x y z : Ordering) : Prop :=
  x.isLE → y.isLE → z = x.then y

namespace Ordering.Chains

variable {x y z x' y' z' : Ordering}

/-- Two comparisons that do not go down make up one that does not. -/
theorem isLE (h : Chains x y z) (hx : x.isLE) (hy : y.isLE) : z.isLE := by
  have hz : z = x.then y := h hx hy
  rw [hz]
  cases x <;> cases y <;> trivial

/-- A lexicographic order; the second parts count only where the first ones are equal. -/
theorem lex (h : Chains x y z) (h' : x = .eq → y = .eq → Chains x' y' z') :
    Chains (x.then x') (y.then y') (z.then z') := by
  intro hx hy
  cases x with
  | gt => cases hx
  | lt =>
      -- the first link ascends, and so do the ends: no second part counts
      have hy' : y.isLE := by cases y <;> trivial
      have hz : z = .lt := h rfl hy'
      rw [hz]
      rfl
  | eq =>
      cases y with
      | gt => cases hy
      | lt =>
          have hz : z = .lt := h rfl rfl
          rw [hz]
          cases x' <;> first | rfl | cases hx
      | eq =>
          have hz : z = .eq := h rfl rfl
          rw [hz]
          exact h' rfl rfl hx hy

/-- Every comparison that is transitive has chains. -/
theorem of_cmp {α : Type} {cmp : α → α → Ordering} [Std.TransCmp cmp] (a b c : α) :
    Chains (cmp a b) (cmp b c) (cmp a c) := by
  intro hab hbc
  cases hx : cmp a b with
  | gt => simp [hx] at hab
  | lt => exact Std.TransCmp.lt_of_lt_of_isLE hx hbc
  | eq => exact Std.TransCmp.congr_left hx

end Ordering.Chains

namespace Gleaner

/-- Numbers are compared by their values in units. -/
instance : Std.TransCmp Number.compare :=
  inferInstanceAs (Std.TransCmp (compareOn fun n : Number => n.toFinite.scaled))

namespace Json

open Ordering (Chains)

/-! ## Induction -/

/-- The values directly inside of a value. -/
def parts : Json → List Json
  | .array items => items
  | .object members => Members.values members
  | _ => []

/-- The parts of a value are smaller than the value. -/
theorem sizeOf_lt_of_mem_parts {v w : Json} (h : v ∈ w.parts) : sizeOf v < sizeOf w := by
  cases w with
  | array items =>
      have hlt := List.sizeOf_lt_of_mem (show v ∈ items from h)
      simp only [array.sizeOf_spec]
      omega
  | object members =>
      -- the value is smaller than its member, and the member than the object
      rcases List.mem_map.1 h with ⟨⟨key, u⟩, hmem, rfl⟩
      have hlt := List.sizeOf_lt_of_mem hmem
      simp only [object.sizeOf_spec, Prod.mk.sizeOf_spec] at hlt ⊢
      omega
  | _ => cases h

/-- Induction on a value by the values directly inside of it. -/
theorem parts_induction {motive : Json → Prop}
    (step : ∀ v, (∀ w ∈ v.parts, motive w) → motive v) (v : Json) : motive v := by
  induction h : sizeOf v using Nat.strongRecOn generalizing v with
  | ind n ih =>
      refine step v fun w hw => ih (sizeOf w) ?_ w rfl
      rw [← h]
      exact sizeOf_lt_of_mem_parts hw

/-! ## Kinds -/

/-- Two values of one rank: both are of one kind, or both are the same truth value. -/
inductive Alike : Json → Json → Prop where
  | null : Alike .null .null
  | bool (b : Bool) : Alike (.bool b) (.bool b)
  | number (m n : Number) : Alike (.number m) (.number n)
  | string (s t : String) : Alike (.string s) (.string t)
  | array (as bs : List Json) : Alike (.array as) (.array bs)
  | object (ms ns : Members) : Alike (.object ms) (.object ns)

/-- Values of equal rank are both of one kind, or both booleans with the same truth. -/
theorem alike_of_rank_eq {a b : Json} (h : a.rank = b.rank) : Alike a b := by
  cases a with
  | bool p =>
      cases b with
      | bool q =>
          cases p <;> cases q <;> first | exact .bool _ | cases h
      | _ => cases p <;> cases h
  | _ =>
      cases b with
      | bool q => cases q <;> cases h
      | _ => first | cases h; done | constructor

theorem compareSorted_of_rank_ne {a b : Json} (h : a.rank ≠ b.rank) :
    compareSorted a b = Ord.compare a.rank b.rank := by
  unfold compareSorted
  split <;> first | rfl | exact absurd rfl h

/-- The order is lexicographic: the ranks come first. -/
theorem compareSorted_eq_then (a b : Json) :
    compareSorted a b = (Ord.compare a.rank b.rank).then (compareSorted a b) := by
  by_cases h : a.rank = b.rank
  · simp [h]
  · rw [compareSorted_of_rank_ne h]
    cases Ord.compare a.rank b.rank <;> rfl

/-! ## Lists of values and keys -/

/-- Key lists are compared lexicographically. -/
theorem compareKeys_eq_compareLex (as bs : List String) :
    compareKeys as bs = List.compareLex Ord.compare as bs := by
  induction as generalizing bs with
  | nil => cases bs <;> rfl
  | cons a as ih =>
      cases bs with
      | nil => rfl
      | cons b bs =>
          rw [compareKeys, List.compareLex_cons_cons, ih bs]

instance : Std.TransCmp compareKeys := by
  have h : compareKeys = List.compareLex Ord.compare := by
    funext as bs
    exact compareKeys_eq_compareLex as bs
  rw [h]
  infer_instance

theorem eq_of_compareKeys {as bs : List String} (h : compareKeys as bs = .eq) : as = bs := by
  rw [compareKeys_eq_compareLex] at h
  exact Std.LawfulEqCmp.eq_of_compare h

/-- Members of objects with as many keys are compared by their values in order. -/
theorem compareMembers_eq_compareItems {ms ns : Members} (h : ms.length = ns.length) :
    compareMembers ms ns = compareItems (Members.values ms) (Members.values ns) := by
  induction ms generalizing ns with
  | nil =>
      cases ns with
      | nil => rfl
      | cons n ns => cases h
  | cons m ms ih =>
      cases ns with
      | nil => cases h
      | cons n ns =>
          have hrest := ih (Nat.succ.inj h)
          simp only [compareMembers, hrest, Members.values, List.map_cons, compareItems]

theorem length_eq_of_keys {ms ns : Members} (h : Members.keys ms = Members.keys ns) :
    ms.length = ns.length := by
  have hlen := congrArg List.length h
  simpa [Members.keys] using hlen

/-- Exchanging two lists reverses their comparison, if it does so for the items. -/
theorem compareItems_swap {as : List Json}
    (h : ∀ a ∈ as, ∀ b, compareSorted b a = (compareSorted a b).swap) (bs : List Json) :
    compareItems bs as = (compareItems as bs).swap := by
  induction as generalizing bs with
  | nil => cases bs <;> rfl
  | cons a as ih =>
      cases bs with
      | nil => rfl
      | cons b bs =>
          have hhead := h a List.mem_cons_self b
          have hrest := ih (fun c hc => h c (List.mem_cons_of_mem a hc)) bs
          rw [compareItems, compareItems, hhead, hrest, Ordering.swap_then]

/-- Comparisons of lists chain, if those of the items do. -/
theorem compareItems_chains {as : List Json}
    (h : ∀ a ∈ as, ∀ b c, Chains (compareSorted a b) (compareSorted b c) (compareSorted a c))
    (bs cs : List Json) :
    Chains (compareItems as bs) (compareItems bs cs) (compareItems as cs) := by
  induction as generalizing bs cs with
  | nil =>
      intro hab hbc
      cases bs with
      | nil => rfl
      | cons b bs =>
          cases cs with
          | nil => cases hbc
          | cons c cs => rfl
  | cons a as ih =>
      cases bs with
      | nil =>
          intro hab
          cases hab
      | cons b bs =>
          cases cs with
          | nil =>
              intro _ hbc
              cases hbc
          | cons c cs =>
              -- the first items decide, unless they are equal
              have hhead := h a List.mem_cons_self b c
              have hrest := ih (fun d hd => h d (List.mem_cons_of_mem a hd)) bs cs
              exact hhead.lex fun _ _ => hrest

/-! ## The order of sorted values -/

/-- Exchanging two values reverses their comparison. -/
theorem compareSorted_swap (a b : Json) : compareSorted b a = (compareSorted a b).swap := by
  induction a using parts_induction generalizing b with
  | step a ih =>
      by_cases hrank : a.rank = b.rank
      · cases alike_of_rank_eq hrank with
        | null => rfl
        | bool p => cases p <;> rfl
        | number m n => exact @Std.OrientedCmp.eq_swap _ Number.compare _ n m
        | string s t => exact @Std.OrientedCmp.eq_swap _ Ord.compare _ t s
        | array as bs => exact compareItems_swap ih bs
        | object ms ns =>
            have hkeys : compareKeys (Members.keys ns) (Members.keys ms) =
                (compareKeys (Members.keys ms) (Members.keys ns)).swap :=
              Std.OrientedCmp.eq_swap
            show (compareKeys _ _).then _ = ((compareKeys _ _).then _).swap
            rw [Ordering.swap_then, hkeys]
            cases heq : compareKeys (Members.keys ms) (Members.keys ns) with
            | lt => rfl
            | gt => rfl
            | eq =>
                -- equal keys: only then both lists of members have one length
                have hlen := length_eq_of_keys (eq_of_compareKeys heq)
                have hvalues : compareItems (Members.values ns) (Members.values ms) =
                    (compareItems (Members.values ms) (Members.values ns)).swap :=
                  compareItems_swap ih _
                rw [compareMembers_eq_compareItems hlen, compareMembers_eq_compareItems hlen.symm,
                  hvalues]
      · rw [compareSorted_of_rank_ne hrank, compareSorted_of_rank_ne (Ne.symm hrank)]
        exact Std.OrientedCmp.eq_swap

/-- Comparisons chain: transitivity for `<`, `=` and both mixed, in one statement. -/
theorem compareSorted_chains (a b c : Json) :
    Chains (compareSorted a b) (compareSorted b c) (compareSorted a c) := by
  induction a using parts_induction generalizing b c with
  | step a ih =>
      -- the ranks come first, so from here on all three values are of one kind
      rw [compareSorted_eq_then a b, compareSorted_eq_then b c, compareSorted_eq_then a c]
      refine (Chains.of_cmp a.rank b.rank c.rank).lex fun hab hbc => ?_
      have hab' := alike_of_rank_eq (Std.LawfulEqCmp.eq_of_compare hab)
      have hbc' := alike_of_rank_eq (Std.LawfulEqCmp.eq_of_compare hbc)
      cases hab' with
      | null =>
          cases hbc'
          intro _ _
          rfl
      | bool p =>
          cases hbc'
          cases p <;> exact fun _ _ => rfl
      | number m n =>
          cases hbc' with
          | number _ k => exact @Chains.of_cmp _ Number.compare _ m n k
      | string s t =>
          cases hbc' with
          | string _ u => exact @Chains.of_cmp _ Ord.compare _ s t u
      | array as bs =>
          cases hbc' with
          | array _ cs => exact compareItems_chains ih bs cs
      | object ms ns =>
          cases hbc' with
          | object _ ks =>
              -- the keys come before the values, which only count where all keys agree
              have hkeys := @Chains.of_cmp _ compareKeys _ (Members.keys ms) (Members.keys ns)
                (Members.keys ks)
              refine hkeys.lex fun hms hns => ?_
              have hmn := length_eq_of_keys (eq_of_compareKeys hms)
              have hnk := length_eq_of_keys (eq_of_compareKeys hns)
              rw [compareMembers_eq_compareItems hmn, compareMembers_eq_compareItems hnk,
                compareMembers_eq_compareItems (hmn.trans hnk)]
              exact compareItems_chains ih _ _

/-! ## The order of all values -/

instance : Std.OrientedCmp Json.compare where
  eq_swap {a b} := compareSorted_swap b.sorted a.sorted

instance : Std.TransCmp Json.compare where
  isLE_trans hab hbc := (compareSorted_chains _ _ _).isLE hab hbc

/-- Sorting the members does not change the kind. -/
theorem rank_sorted (v : Json) : v.sorted.rank = v.rank := by
  cases v with
  | bool b => rfl
  | _ => rfl

/-- Values of different kinds are compared by the rank of their kinds. -/
theorem compare_of_rank_lt {a b : Json} (h : a.rank < b.rank) : compare a b = .lt := by
  have hne : a.sorted.rank ≠ b.sorted.rank := by
    rw [rank_sorted, rank_sorted]
    omega
  rw [compare, compareSorted_of_rank_ne hne, rank_sorted, rank_sorted]
  exact Nat.compare_eq_lt.2 h

/-! ## Members in another order -/

/-- Two values that differ only in the order in which members are listed, at any depth. -/
inductive Relisted : Json → Json → Prop where
  | refl (v : Json) : Relisted v v
  | trans {u v w : Json} : Relisted u v → Relisted v w → Relisted u w
  | members {ms ns : Members} : ms.Perm ns → Relisted (.object ms) (.object ns)
  | item {front back : List Json} {v w : Json} :
      Relisted v w → Relisted (.array (front ++ v :: back)) (.array (front ++ w :: back))
  | member {front back : Members} {key : String} {v w : Json} :
      Relisted v w →
        Relisted (.object (front ++ (key, v) :: back)) (.object (front ++ (key, w) :: back))

theorem sortedItems_eq_map (items : List Json) : sortedItems items = items.map sorted := by
  induction items with
  | nil => rfl
  | cons v items ih => rw [sortedItems, ih, List.map_cons]

theorem sortedMembers_eq_map (ms : Members) :
    sortedMembers ms = ms.map fun m => (m.1, m.2.sorted) := by
  induction ms with
  | nil => rfl
  | cons m ms ih => rw [sortedMembers, ih, List.map_cons]

theorem itemsWellFormed_iff (items : List Json) :
    ItemsWellFormed items ↔ ∀ v ∈ items, v.WellFormed := by
  induction items with
  | nil => simp [ItemsWellFormed]
  | cons v items ih => simp [ItemsWellFormed, ih]

theorem membersWellFormed_iff (ms : Members) :
    MembersWellFormed ms ↔ ∀ m ∈ ms, m.2.WellFormed := by
  induction ms with
  | nil => simp [MembersWellFormed]
  | cons m ms ih => simp [MembersWellFormed, ih]

/-- Members without a repeated key have one sorted list, whatever their order. -/
theorem mergeSort_eq_of_perm {ms ns : Members} (hkeys : (Members.keys ms).Nodup)
    (hperm : ms.Perm ns) :
    ms.mergeSort (fun a b => a.1 ≤ b.1) = ns.mergeSort fun a b => a.1 ≤ b.1 := by
  have htrans : ∀ a b c : String × Json, decide (a.1 ≤ b.1) = true → decide (b.1 ≤ c.1) = true →
      decide (a.1 ≤ c.1) = true := by
    intro a b c hab hbc
    have hac : a.1 ≤ c.1 := String.le_trans (of_decide_eq_true hab) (of_decide_eq_true hbc)
    exact decide_eq_true hac
  have htotal : ∀ a b : String × Json, (decide (a.1 ≤ b.1) || decide (b.1 ≤ a.1)) = true := by
    intro a b
    simpa using String.le_total a.1 b.1
  have hms := List.mergeSort_perm ms fun a b => a.1 ≤ b.1
  have hns := List.mergeSort_perm ns fun a b => a.1 ≤ b.1
  refine List.Perm.eq_of_pairwise ?_ (List.pairwise_mergeSort htrans htotal ms)
    (List.pairwise_mergeSort htrans htotal ns) (hms.trans (hperm.trans hns.symm))
  -- two members that stand before each other have one key, so they are the same member
  intro a b ha hb hab hba
  have hkey : a.1 = b.1 := String.le_antisymm (of_decide_eq_true hab) (of_decide_eq_true hba)
  have ha' : a ∈ ms := hms.mem_iff.1 ha
  have hb' : b ∈ ms := hperm.mem_iff.2 (hns.mem_iff.1 hb)
  exact List.inj_on_of_nodup_map hkeys ha' hb' hkey

/-- Listing members in another order changes neither the form of a value nor its sorted form. -/
theorem Relisted.sorted_eq {v w : Json} (h : Relisted v w) (hv : v.WellFormed) :
    w.WellFormed ∧ v.sorted = w.sorted := by
  induction h with
  | refl v => exact ⟨hv, rfl⟩
  | trans _ _ ihuv ihvw =>
      rcases ihuv hv with ⟨hmid, huv⟩
      rcases ihvw hmid with ⟨hend, hvw⟩
      exact ⟨hend, huv.trans hvw⟩
  | @members ms ns hperm =>
      have hkeys : (Members.keys ms).Perm (Members.keys ns) := hperm.map Prod.fst
      refine ⟨⟨hkeys.nodup_iff.1 hv.1, ?_⟩, ?_⟩
      · rw [membersWellFormed_iff]
        intro m hm
        exact (membersWellFormed_iff ms).1 hv.2 m (hperm.mem_iff.2 hm)
      -- the values inside are sorted first, and that leaves the keys as they are
      · have hsorted : (Members.keys (sortedMembers ms)).Nodup := by
          rw [sortedMembers_eq_map, Members.keys, List.map_map]
          exact hv.1
        have hperm' : (sortedMembers ms).Perm (sortedMembers ns) := by
          rw [sortedMembers_eq_map, sortedMembers_eq_map]
          exact hperm.map _
        rw [sorted, sorted, mergeSort_eq_of_perm hsorted hperm']
  | @item front back v w _ ih =>
      have hall := (itemsWellFormed_iff _).1 hv
      rcases ih (hall v (by simp)) with ⟨hw, heq⟩
      refine ⟨(itemsWellFormed_iff _).2 ?_, ?_⟩
      · intro u hu
        rcases List.mem_append.1 hu with hfront | hrest
        · exact hall u (List.mem_append_left _ hfront)
        · rcases List.mem_cons.1 hrest with rfl | hback
          · exact hw
          · exact hall u (by simp [hback])
      · simp only [sorted, sortedItems_eq_map, List.map_append, List.map_cons, heq]
  | @member front back key v w _ ih =>
      have hall := (membersWellFormed_iff _).1 hv.2
      rcases ih (hall (key, v) (by simp)) with ⟨hw, heq⟩
      refine ⟨⟨?_, (membersWellFormed_iff _).2 ?_⟩, ?_⟩
      · simpa [Members.keys] using hv.1
      · intro m hm
        rcases List.mem_append.1 hm with hfront | hrest
        · exact hall m (List.mem_append_left _ hfront)
        · rcases List.mem_cons.1 hrest with rfl | hback
          · exact hw
          · exact hall m (by simp [hback])
      · simp only [sorted, sortedMembers_eq_map, List.map_append, List.map_cons, heq]

/--
The order of values is a total preorder: every value equals itself, the order of a pair turns round
with the pair, and it is transitive; equal values stand in the same order to every other one. The
kinds come one after another. The members of an object may be listed in any order, at any depth.
-/
theorem compare_total_preorder :
    (∀ a : Json, a.compare a = .eq) ∧
    (∀ a b : Json, b.compare a = (a.compare b).swap) ∧
    (∀ a b c : Json, a.compare b ≠ .gt → b.compare c ≠ .gt → a.compare c ≠ .gt) ∧
    (∀ a b c : Json, a.compare b = .eq →
      a.compare c = b.compare c ∧ c.compare a = c.compare b) ∧
    (∀ a b : Json, a.rank < b.rank → a.compare b = .lt) ∧
    ∀ a a' b b' : Json, a.WellFormed → b.WellFormed → Relisted a a' → Relisted b b' →
      a.compare b = a'.compare b' := by
  refine ⟨?_, ?_, ?_, ?_, ?_, ?_⟩
  · intro a
    exact Std.ReflCmp.compare_self
  · intro a b
    exact Std.OrientedCmp.eq_swap
  · intro a b c hab hbc
    have hab' := Ordering.ne_gt_iff_isLE.1 hab
    have hbc' := Ordering.ne_gt_iff_isLE.1 hbc
    exact Ordering.ne_gt_iff_isLE.2 (Std.TransCmp.isLE_trans hab' hbc')
  · intro a b c hab
    exact ⟨Std.TransCmp.congr_left hab, Std.TransCmp.congr_right hab⟩
  · intro a b hrank
    exact compare_of_rank_lt hrank
  · intro a a' b b' ha hb haa hbb
    have hleft : a.sorted = a'.sorted := (haa.sorted_eq ha).2
    have hright : b.sorted = b'.sorted := (hbb.sorted_eq hb).2
    rw [compare, hleft, hright, compare]

def person : Json :=
  .object [("name", .string "Ana"),
    ("home", .object [("zip", .string "0150"), ("town", .string "Oslo")])]

/-- The same person, with the members of both objects in another order. -/
def personRelisted : Json :=
  .object [("home", .object [("town", .string "Oslo"), ("zip", .string "0150")]),
    ("name", .string "Ana")]

theorem relisted_person : Relisted person personRelisted :=
  .trans (.members (.swap _ _ _)) (@Relisted.member [] _ _ _ _ (.members (.swap _ _ _)))

/-- A person and its relisted copy are compared alike, with each other and with a third value. -/
theorem compare_total_preorder_of_person :
    person.compare personRelisted = .eq ∧
    personRelisted.compare (.object [("town", .null)]) ≠ .gt ∧
    person.compare (.object [("town", .null)]) ≠ .gt ∧
    person.compare .null = personRelisted.compare .null ∧
    (Json.string "Ana").compare person = .lt ∧
    person.WellFormed ∧ Relisted person personRelisted ∧
    person.compare person = personRelisted.compare person := by
  rcases compare_total_preorder with ⟨_, _, htrans, heq, hkinds, hrelisted⟩
  have hsame : person.compare personRelisted = .eq := by cbv
  have hbelow : personRelisted.compare (.object [("town", .null)]) ≠ .gt := by cbv; simp
  have hperson : person.WellFormed := by
    simp [person, WellFormed, MembersWellFormed, Members.keys]
  refine ⟨hsame, hbelow, ?_, ?_, ?_, hperson, relisted_person, ?_⟩
  · exact htrans _ _ _ (by simp [hsame]) hbelow
  · exact (heq _ _ _ hsame).1
  · exact hkinds _ _ (by decide)
  · exact hrelisted _ _ _ _ hperson hperson relisted_person (.refl _)

end Json
end Gleaner
