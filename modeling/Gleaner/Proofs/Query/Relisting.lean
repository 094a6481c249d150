import Gleaner.Proofs.Query.Containment
/-!
# Containment and the order of members

Members are found by name, so their order in the container is without effect. The wanted members are
gone through as they are listed, and the first one that is not held decides between a false answer
and an error.

* `Lacks` and `Clashes` are the two reasons why a value is not held by another one, and
  `isContained_outcome` says that one of them stands behind every answer that is not true;
* `isContained_of_relisted` changes the order in the container;
* `Holds.relisted`, `Lacks.relisted` and `Clashes.relisted` change it in what is wanted, which
  `Json.Relisted.array_inv` and `Json.Relisted.object_inv` take apart;
* `isContained_relisted` says exactly when the answer depends on the order.
-/

namespace Gleaner

/-! ## Values in another order, taken apart -/

namespace Json.Relisted

open Json (Relisted)

variable {v w : Json} {items : List Json} {ms : Members}

/-- Relisting can be undone. -/
theorem symm (h : Relisted v w) : Relisted w v := by
  induction h with
  | refl v => exact .refl v
  | trans _ _ ihuv ihvw => exact ihvw.trans ihuv
  | members hperm => exact .members hperm.symm
  | item _ ih => exact .item ih
  | member _ ih => exact .member ih

theorem kind_eq (h : Relisted v w) : v.kind = w.kind := by
  induction h with
  | trans _ _ ihuv ihvw => exact ihuv.trans ihvw
  | _ => rfl

/-- Nothing but arrays and objects has something to relist in it. -/
theorem eq_of_scalar (h : Relisted v w) (harray : v.kind ≠ .array) (hobject : v.kind ≠ .object) :
    w = v := by
  induction h with
  | refl v => rfl
  | trans huv _ ihuv ihvw =>
      have hv := ihuv harray hobject
      rw [← hv] at harray hobject ⊢
      exact ihvw harray hobject
  | item => exact absurd rfl harray
  | members | member => exact absurd rfl hobject

/-- Each item of an array has its counterpart in a relisted one. -/
theorem array_inv (h : Relisted (.array items) w) :
    ∃ others, w = .array others ∧ ∀ v ∈ items, ∃ v' ∈ others, Relisted v v' := by
  generalize hv : Json.array items = v at h
  induction h generalizing items with
  | refl v => exact ⟨items, hv.symm, fun v hmem => ⟨v, hmem, .refl v⟩⟩
  | trans _ _ ihuv ihvw =>
      rcases ihuv hv with ⟨between, rfl, hfirst⟩
      rcases ihvw rfl with ⟨others, rfl, hsecond⟩
      refine ⟨others, rfl, fun v hmem => ?_⟩
      rcases hfirst v hmem with ⟨u, hu, hvu⟩
      rcases hsecond u hu with ⟨v', hv', huv'⟩
      exact ⟨v', hv', hvu.trans huv'⟩
  | members hperm => cases hv
  | @item front back v w hvw _ =>
      cases hv
      -- one item is replaced by another form of it, and the others stay
      refine ⟨_, rfl, fun u hu => ?_⟩
      rcases List.mem_append.1 hu with hfront | hrest
      · exact ⟨u, by simp [hfront], .refl u⟩
      · rcases List.mem_cons.1 hrest with rfl | hback
        · exact ⟨w, by simp, hvw⟩
        · exact ⟨u, by simp [hback], .refl u⟩
  | member => cases hv

/-- Each member of an object has its counterpart, of the same key, in a relisted one. -/
theorem object_inv (h : Relisted (.object ms) w) :
    ∃ ns, w = .object ns ∧ ∀ m ∈ ms, ∃ v', (m.1, v') ∈ ns ∧ Relisted m.2 v' := by
  generalize hv : Json.object ms = v at h
  induction h generalizing ms with
  | refl v => exact ⟨ms, hv.symm, fun m hm => ⟨m.2, hm, .refl m.2⟩⟩
  | trans _ _ ihuv ihvw =>
      rcases ihuv hv with ⟨between, rfl, hfirst⟩
      rcases ihvw rfl with ⟨ns, rfl, hsecond⟩
      refine ⟨ns, rfl, fun m hm => ?_⟩
      rcases hfirst m hm with ⟨u, hu, hmu⟩
      rcases hsecond _ hu with ⟨v', hv', huv'⟩
      exact ⟨v', hv', hmu.trans huv'⟩
  | members hperm =>
      cases hv
      exact ⟨_, rfl, fun m hm => ⟨m.2, hperm.mem_iff.1 hm, .refl m.2⟩⟩
  | item => cases hv
  | @member front back key v w hvw _ =>
      cases hv
      refine ⟨_, rfl, fun m hm => ?_⟩
      rcases List.mem_append.1 hm with hfront | hrest
      · exact ⟨m.2, by simp [hfront], .refl m.2⟩
      · rcases List.mem_cons.1 hrest with rfl | hback
        · exact ⟨w, by simp, hvw⟩
        · exact ⟨m.2, by simp [hback], .refl m.2⟩

/-- A member has its counterpart of the same key in a relisted object. -/
theorem member_inv {key : String} (h : Relisted (.object ms) w) (hmem : (key, v) ∈ ms) :
    ∃ ns v', w = .object ns ∧ (key, v') ∈ ns ∧ Relisted v v' := by
  rcases h.object_inv with ⟨ns, rfl, hns⟩
  rcases hns _ hmem with ⟨v', hv', hvv⟩
  exact ⟨ns, v', rfl, hv', hvv⟩

/-- Every member can be listed first, in every order of its value. -/
theorem exists_first {wanted : Members} {key : String} (hmem : (key, v) ∈ wanted)
    (h : Relisted v w) :
    ∃ rest, Relisted (.object wanted) (.object ((key, w) :: rest)) := by
  rcases List.append_of_mem hmem with ⟨front, back, rfl⟩
  refine ⟨front ++ back, .trans (.members List.perm_middle) ?_⟩
  exact @Relisted.member [] _ _ _ _ h

end Json.Relisted

namespace Query

open Json (Relisted)

variable {h h' n n' : Json}

/-! ## Why a value is not held -/

/-- Something wanted is missing: it is compared with a value of its kind, or not found at all. -/
inductive Lacks : Json → Json → Prop where
  | value {h n : Json} : h.kind = n.kind → n.kind ≠ .object → ¬ Holds h n → Lacks h n
  | absent {ms wanted : Members} {key : String} {w : Json} :
      (key, w) ∈ wanted → Members.get? key ms = none → Lacks (.object ms) (.object wanted)
  | member {ms wanted : Members} {key : String} {v w : Json} :
      (key, w) ∈ wanted → Members.get? key ms = some v → Lacks v w →
        Lacks (.object ms) (.object wanted)

/-- Something wanted is found under its keys as a value of another kind. -/
inductive Clashes : Json → Json → Prop where
  | value {h n : Json} : h.kind ≠ n.kind → Clashes h n
  | member {ms wanted : Members} {key : String} {v w : Json} :
      (key, w) ∈ wanted → Members.get? key ms = some v → Clashes v w →
        Clashes (.object ms) (.object wanted)

/-- What an object holds, its members hold key by key. -/
theorem Holds.of_member {ms wanted : Members} {key : String} {v w : Json}
    (hholds : Holds (.object ms) (.object wanted)) (hmem : (key, w) ∈ wanted)
    (hget : Members.get? key ms = some v) : Holds v w := by
  rcases holds_object.1 hholds _ hmem with ⟨u, hu, huw⟩
  cases hget.symm.trans hu
  exact huw

/-- What is lacked is not held. -/
theorem Lacks.not_holds (hlacks : Lacks h n) : ¬ Holds h n := by
  induction hlacks with
  | value _ _ hnot => exact hnot
  | absent hmem hget =>
      intro hholds
      rcases holds_object.1 hholds _ hmem with ⟨v, hv, _⟩
      cases hget.symm.trans hv
  | member hmem hget _ ih => exact fun hholds => ih (hholds.of_member hmem hget)

/-- What clashes is not held. -/
theorem Clashes.not_holds (hclashes : Clashes h n) : ¬ Holds h n := by
  induction hclashes with
  | value hkind => exact fun hholds => hkind hholds.kind_eq
  | member hmem hget _ ih => exact fun hholds => ih (hholds.of_member hmem hget)

/-- The answer of an object that does not hold another one is that of a wanted member. -/
theorem holdsMembers_decided {ms wanted : Members} (hnot : holdsMembers ms wanted ≠ .ok true) :
    ∃ m ∈ wanted,
      (Members.get? m.1 ms = none ∧ holdsMembers ms wanted = .ok false) ∨
      ∃ v, Members.get? m.1 ms = some v ∧ holdsMembers ms wanted = isContained v m.2 := by
  induction wanted with
  | nil => exact absurd rfl hnot
  | cons m wanted ih =>
      rcases m with ⟨key, w⟩
      rw [holdsMembers] at hnot ⊢
      cases hget : Members.get? key ms with
      | none => exact ⟨(key, w), List.mem_cons_self, .inl ⟨hget, rfl⟩⟩
      | some v =>
          rw [hget] at hnot
          rcases hv : isContained v w with e | _ | _
          · exact ⟨(key, w), List.mem_cons_self, .inr ⟨v, hget, by simp [hv]⟩⟩
          · exact ⟨(key, w), List.mem_cons_self, .inr ⟨v, hget, by simp [hv]⟩⟩
          · -- a member that is held leaves the answer to the ones after it
            simp only [hv] at hnot ⊢
            rcases ih hnot with ⟨m, hm, hdecided⟩
            exact ⟨m, List.mem_cons_of_mem _ hm, hdecided⟩

/-- Values of one kind are compared without an error; only objects hand one on. -/
theorem isContained_eq_ok (hkind : h.kind = n.kind) (hobject : n.kind ≠ .object) :
    ∃ p, isContained h n = .ok p := by
  cases n with
  | null | bool | number => exact ⟨_, isContained_atomic (by constructor) hkind⟩
  | string part =>
      cases h with
      | string s => exact ⟨_, isContained_string s part⟩
      | _ => cases hkind
  | array wanted =>
      cases h with
      | array items => exact ⟨_, isContained.eq_3 ..⟩
      | _ => cases hkind
  | object => exact absurd rfl hobject

/-- A false answer means that something is missing, an error that something is of another kind. -/
theorem isContained_outcome (h n : Json) :
    Holds h n ∨ (isContained h n = .ok false ∧ Lacks h n) ∨
      ∃ e, isContained h n = .error e ∧ Clashes h n := by
  induction n using Json.parts_induction generalizing h with
  | step n ih =>
      by_cases hkind : h.kind = n.kind
      case neg => exact .inr (.inr ⟨_, isContained_of_kind_ne hkind, .value hkind⟩)
      by_cases hobject : n.kind = .object
      case neg =>
        rcases isContained_eq_ok hkind hobject with ⟨_ | _, hp⟩
        · refine .inr (.inl ⟨hp, .value hkind hobject ?_⟩)
          simp [Holds, hp]
        · exact .inl hp
      rcases n with _ | _ | _ | _ | _ | wanted <;> try cases hobject
      rcases h with _ | _ | _ | _ | _ | ms <;> try cases hkind
      by_cases hholds : holdsMembers ms wanted = .ok true
      case pos => exact .inl hholds
      -- the answer is that of one of the members, so it has the reason that the member has
      rcases holdsMembers_decided hholds with ⟨m, hm, ⟨hget, hfalse⟩ | ⟨v, hget, hanswer⟩⟩
      · exact .inr (.inl ⟨hfalse, .absent hm hget⟩)
      · rcases ih m.2 (List.mem_map_of_mem hm) v with
          htrue | ⟨hfalse, hlacks⟩ | ⟨e, herror, hclashes⟩
        · exact absurd (hanswer.trans htrue) hholds
        · exact .inr (.inl ⟨hanswer.trans hfalse, .member hm hget hlacks⟩)
        · exact .inr (.inr ⟨e, hanswer.trans herror, .member hm hget hclashes⟩)

/-! ## The container in another order -/

theorem holdsItems_eq_all (items wanted : List Json) :
    holdsItems items wanted =
      wanted.all fun w => (items.map isContained).any fun f => (f w).toOption.getD false := by
  induction wanted with
  | nil => rfl
  | cons w wanted ih => simp [holdsItems, ih, List.any_map, Function.comp_def]

/-- Only what the members found for a key hold counts. -/
theorem holdsMembers_congr {ms ns : Members}
    (hget : ∀ key, (Members.get? key ms).map isContained = (Members.get? key ns).map isContained)
    (wanted : Members) : holdsMembers ms wanted = holdsMembers ns wanted := by
  induction wanted with
  | nil => rfl
  | cons m wanted ih =>
      rcases m with ⟨key, w⟩
      rw [holdsMembers, holdsMembers, ih]
      have hkey := hget key
      cases hms : Members.get? key ms with
      | none =>
          rw [hms] at hkey
          rw [Option.map_eq_none_iff.1 hkey.symm]
      | some v =>
          rw [hms] at hkey
          rcases Option.map_eq_some_iff.1 hkey.symm with ⟨v', hns, hv⟩
          simp only [hns, hv]

/-- The containment test sees an array's items only by the tests on them. -/
theorem isContained_array_congr {items others : List Json}
    (hitems : items.map isContained = others.map isContained) :
    isContained (.array items) = isContained (.array others) := by
  funext n
  cases n with
  | array wanted =>
      rw [isContained_array, isContained_array, holdsItems_eq_all, holdsItems_eq_all, hitems]
  | _ => rfl

/-- The containment test sees an object's members only by looking them up. -/
theorem isContained_object_congr {ms ns : Members}
    (hget : ∀ key, (Members.get? key ms).map isContained = (Members.get? key ns).map isContained) :
    isContained (.object ms) = isContained (.object ns) := by
  funext n
  cases n with
  | object wanted =>
      rw [isContained_object, isContained_object]
      exact holdsMembers_congr hget wanted
  | _ => rfl

/-- In the container the order of the members has no effect, not even on an error. -/
theorem isContained_of_relisted (hh : Relisted h h') (hform : h.WellFormed) :
    isContained h' = isContained h := by
  induction hh with
  | refl v => rfl
  | trans huv _ ihuv ihvw =>
      have hmid := (huv.sorted_eq hform).1
      exact (ihvw hmid).trans (ihuv hform)
  | members hperm =>
      refine isContained_object_congr fun key => ?_
      rw [Members.get?_of_perm hform.1 hperm key]
  | @item front back v w hvw ih =>
      have hv := (Json.itemsWellFormed_iff _).1 hform v (by simp)
      refine isContained_array_congr ?_
      simp only [List.map_append, List.map_cons, ih hv]
  | @member front back name v w hvw ih =>
      have hv := (Json.membersWellFormed_iff _).1 hform.2 (name, v) (by simp)
      refine isContained_object_congr fun key => ?_
      exact Members.map_get?_of_eq (ih hv) key

/-! ## What is wanted in another order -/

/-- Holding does not depend on the order of members in what is held. -/
theorem Holds.relisted (hholds : Holds h n) (hn : Relisted n n') : Holds h n' := by
  induction n' using Json.parts_induction generalizing h n with
  | step n' ih =>
      -- each part that is wanted now was wanted before, as a value in another order
      cases n' with
      | array wanted =>
          rcases hn.symm.array_inv with ⟨others, rfl, hothers⟩
          rcases hholds.array_inv with ⟨items, rfl, hitems⟩
          refine holds_array.2 fun w hw => ?_
          rcases hothers w hw with ⟨u, hu, hwu⟩
          rcases hitems u hu with ⟨v, hv, hvu⟩
          exact ⟨v, hv, ih w hw hvu hwu.symm⟩
      | object wanted =>
          rcases hn.symm.object_inv with ⟨others, rfl, hothers⟩
          rcases hholds.object_inv with ⟨ms, rfl, hms⟩
          refine holds_object.2 fun m hm => ?_
          rcases hothers m hm with ⟨u, hu, hmu⟩
          rcases hms _ hu with ⟨v, hv, hvu⟩
          exact ⟨v, hv, ih m.2 (List.mem_map_of_mem hm) hvu hmu.symm⟩
      | _ => rwa [hn.symm.eq_of_scalar nofun nofun] at hholds

theorem holds_iff_of_relisted (hn : Relisted n n') : Holds h n ↔ Holds h n' :=
  ⟨fun hholds => hholds.relisted hn, fun hholds => hholds.relisted hn.symm⟩

/-- What is lacked does not depend on the order of members either. -/
theorem Lacks.relisted (hlacks : Lacks h n) (hn : Relisted n n') : Lacks h n' := by
  induction hlacks generalizing n' with
  | value hkind hobject hnot =>
      rw [hn.kind_eq] at hkind hobject
      exact .value hkind hobject fun hholds => hnot (hholds.relisted hn.symm)
  | absent hmem hget =>
      rcases hn.member_inv hmem with ⟨others, w', rfl, hw', _⟩
      exact .absent hw' hget
  | member hmem hget _ ih =>
      rcases hn.member_inv hmem with ⟨others, w', rfl, hw', hww⟩
      exact .member hw' hget (ih hww)

/-- What clashes does not depend on the order of members either. -/
theorem Clashes.relisted (hclashes : Clashes h n) (hn : Relisted n n') : Clashes h n' := by
  induction hclashes generalizing n' with
  | value hkind =>
      rw [hn.kind_eq] at hkind
      exact .value hkind
  | member hmem hget _ ih =>
      rcases hn.member_inv hmem with ⟨others, w', rfl, hw', hww⟩
      exact .member hw' hget (ih hww)

/-- The member that something is missing in can be listed first, and then the answer is false. -/
theorem Lacks.exists_false (hlacks : Lacks h n) :
    ∃ n', Relisted n n' ∧ isContained h n' = .ok false := by
  induction hlacks with
  | @value h n hkind hobject hnot =>
      rcases isContained_eq_ok hkind hobject with ⟨_ | _, hp⟩
      · exact ⟨n, .refl n, hp⟩
      · exact absurd hp hnot
  | absent hmem hget =>
      rcases Relisted.exists_first hmem (.refl _) with ⟨rest, hrest⟩
      refine ⟨_, hrest, ?_⟩
      rw [isContained_object, holdsMembers, hget]
  | member hmem hget _ ih =>
      rcases ih with ⟨w', hww, hfalse⟩
      rcases Relisted.exists_first hmem hww with ⟨rest, hrest⟩
      refine ⟨_, hrest, ?_⟩
      simp only [isContained_object, holdsMembers, hget, hfalse]

/-- The member with a value of another kind can be listed first, and then there is an error. -/
theorem Clashes.exists_error (hclashes : Clashes h n) :
    ∃ n' e, Relisted n n' ∧ isContained h n' = .error e := by
  induction hclashes with
  | @value h n hkind => exact ⟨n, _, .refl n, isContained_of_kind_ne hkind⟩
  | member hmem hget _ ih =>
      rcases ih with ⟨w', e, hww, herror⟩
      rcases Relisted.exists_first hmem hww with ⟨rest, hrest⟩
      refine ⟨_, e, hrest, ?_⟩
      simp only [isContained_object, holdsMembers, hget, herror]

/--
The order of members and the answer: in the container it has no effect, and a true answer does not
depend on it at all. In what is wanted it decides between a false answer and an error exactly where
something is missing and something else is found as a value of another kind.
-/
theorem isContained_relisted :
    (∀ h h' n : Json, h.WellFormed → Relisted h h' → isContained h' n = isContained h n) ∧
    (∀ h h' n n' : Json, h.WellFormed → Relisted h h' → Relisted n n' →
      (Holds h' n' ↔ Holds h n)) ∧
    (∀ h h' n n' : Json, h.WellFormed → Relisted h h' → Relisted n n' →
      ¬ (Lacks h n ∧ Clashes h n) →
      (isContained h' n').toOption = (isContained h n).toOption) ∧
    ∀ h n : Json, Lacks h n → Clashes h n →
      ∃ n₁ n₂ e, Relisted n n₁ ∧ Relisted n n₂ ∧
        isContained h n₁ = .ok false ∧ isContained h n₂ = .error e := by
  refine ⟨?_, ?_, ?_, ?_⟩
  · intro h h' n hform hh
    rw [isContained_of_relisted hh hform]
  · intro h h' n n' hform hh hn
    rw [Holds, isContained_of_relisted hh hform]
    exact (holds_iff_of_relisted hn).symm
  · intro h h' n n' hform hh hn hboth
    rw [isContained_of_relisted hh hform]
    rcases isContained_outcome h n with hholds | ⟨hfalse, hlacks⟩ | ⟨e, herror, hclashes⟩
    · rw [hholds, hholds.relisted hn]
    · rcases isContained_outcome h n' with hholds | ⟨hfalse', _⟩ | ⟨_, _, hclashes⟩
      · exact absurd (hholds.relisted hn.symm) hlacks.not_holds
      · rw [hfalse, hfalse']
      · exact absurd ⟨hlacks, hclashes.relisted hn.symm⟩ hboth
    · rcases isContained_outcome h n' with hholds | ⟨_, hlacks⟩ | ⟨e', herror', _⟩
      · exact absurd (hholds.relisted hn.symm) hclashes.not_holds
      · exact absurd ⟨hlacks.relisted hn.symm, hclashes⟩ hboth
      · rw [herror, herror']
        rfl
  · intro h n hlacks hclashes
    rcases hlacks.exists_false with ⟨n₁, hn₁, hfalse⟩
    rcases hclashes.exists_error with ⟨n₂, e, hn₂, herror⟩
    exact ⟨n₁, n₂, e, hn₁, hn₂, hfalse, herror⟩

def labelTag : Json :=
  .object [("label", .string "x")]

/-- A size and a label, of which the tag has no size, and its label is no number. -/
def sizedLabel : Json :=
  .object [("size", .number (.integer 1)), ("label", .number (.integer 1))]

def labelledSize : Json :=
  .object [("label", .number (.integer 1)), ("size", .number (.integer 1))]

theorem relisted_sizedLabel : Relisted sizedLabel labelledSize :=
  .members (.swap _ _ _)

/-- A person and a label in two orders, and a label whose answer depends on the order. -/
theorem isContained_relisted_of_sizedLabel :
    Json.person.WellFormed ∧ Relisted Json.person Json.personRelisted ∧
    Relisted sizedLabel labelledSize ∧
    ¬ (Lacks Json.person sizedLabel ∧ Clashes Json.person sizedLabel) ∧
    isContained Json.personRelisted sizedLabel = isContained Json.person sizedLabel ∧
    (Holds Json.personRelisted labelledSize ↔ Holds Json.person sizedLabel) ∧
    (isContained Json.personRelisted labelledSize).toOption =
      (isContained Json.person sizedLabel).toOption ∧
    Lacks labelTag sizedLabel ∧ Clashes labelTag sizedLabel ∧
    ∃ n₁ n₂ e, Relisted sizedLabel n₁ ∧ Relisted sizedLabel n₂ ∧
      isContained labelTag n₁ = .ok false ∧ isContained labelTag n₂ = .error e := by
  rcases isContained_relisted with ⟨hcontainer, htrue, hanswer, hboth⟩
  have hperson : Json.person.WellFormed := by
    simp [Json.person, Json.WellFormed, Json.MembersWellFormed, Members.keys]
  -- the person has neither of the two keys, so nothing is found as a value of another kind
  have hfound : ¬ Clashes Json.person sizedLabel := by
    intro hclashes
    cases hclashes with
    | value hkind => exact hkind rfl
    | member hmem hget _ =>
        simp only [List.mem_cons, List.not_mem_nil, or_false, Prod.mk.injEq] at hmem
        rcases hmem with ⟨rfl, rfl⟩ | ⟨rfl, rfl⟩ <;> cases hget
  have hneither : ¬ (Lacks Json.person sizedLabel ∧ Clashes Json.person sizedLabel) :=
    fun h => hfound h.2
  have hlacks : Lacks labelTag sizedLabel := @Lacks.absent _ _ "size" _ List.mem_cons_self rfl
  have hclashes : Clashes labelTag sizedLabel :=
    @Clashes.member _ _ "label" _ _ (List.mem_cons_of_mem _ List.mem_cons_self) rfl
      (.value (by decide))
  refine ⟨hperson, Json.relisted_person, relisted_sizedLabel, hneither, ?_, ?_, ?_, hlacks,
    hclashes, ?_⟩
  · exact hcontainer _ _ _ hperson Json.relisted_person
  · exact htrue _ _ _ _ hperson Json.relisted_person relisted_sizedLabel
  · exact hanswer _ _ _ _ hperson Json.relisted_person relisted_sizedLabel hneither
  · exact hboth _ _ hlacks hclashes

/-- The same wanted members in two orders, with a false answer to one and an error to the other. -/
theorem isContained_depends_on_order :
    labelTag.WellFormed ∧ sizedLabel.WellFormed ∧ Relisted sizedLabel labelledSize ∧
    isContained labelTag sizedLabel = .ok false ∧
    isContained labelTag labelledSize =
      .error (.mismatch (.notContained .string .number)) := by
  refine ⟨?_, ?_, relisted_sizedLabel, by rfl, by rfl⟩
  all_goals simp [labelTag, sizedLabel, Json.WellFormed, Json.MembersWellFormed, Members.keys]

end Query
end Gleaner
