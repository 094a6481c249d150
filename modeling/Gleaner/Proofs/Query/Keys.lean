import Gleaner.Proofs.Json.IntegerOrder
import Gleaner.Proofs.Json.Members
import Gleaner.Proofs.Query.Ranges
/-!
# Keys

What a value is asked for by its keys: the names of an object, and the positions of an array. They
are listed, tested, counted and followed by different operations, which all have to mean the same
keys.

* `Members.pairwise_sortedKeys`, `Members.mem_sortedKeys`, `Members.map_get?_keys`: the names of an
  object, in ascending order and in their own;
* `hasKey_array_iff`: a number is a position of an array if it is from zero on and below the length;
* `increasing_positions_iff` says up to which length positions are told apart by the order;
* `keys_agree` puts the operations together.
-/

namespace Gleaner

open Binary64 (Finite)

/-! ## Names -/

namespace Members

variable {key : String} {ms : Members}

theorem sortedKeys_perm (ms : Members) : ms.sortedKeys.Perm ms.keys :=
  List.mergeSort_perm _ _

theorem mem_sortedKeys : key ∈ ms.sortedKeys ↔ key ∈ ms.keys :=
  ms.sortedKeys_perm.mem_iff

/-- Sorting distinct keys puts them in strictly increasing order. -/
theorem pairwise_sortedKeys (hkeys : (keys ms).Nodup) : ms.sortedKeys.Pairwise (· < ·) := by
  have hsorted : ms.sortedKeys.Pairwise fun a b => decide (a ≤ b) = true := by
    refine List.pairwise_mergeSort ?_ ?_ _
    · intro a b c hab hbc
      exact decide_eq_true (String.le_trans (of_decide_eq_true hab) (of_decide_eq_true hbc))
    · intro a b
      simpa using String.le_total a b
  -- equal neighbours would be one key that is repeated
  have hdistinct : ms.sortedKeys.Pairwise (· ≠ ·) := ms.sortedKeys_perm.nodup_iff.2 hkeys
  refine (hsorted.and hdistinct).imp ?_
  rintro a b ⟨hle, hne⟩
  exact lt_of_le_of_ne (of_decide_eq_true hle) hne

/-- A key can be looked up exactly if it is one of the keys. -/
theorem isSome_get?_iff : (get? key ms).isSome = true ↔ key ∈ keys ms := by
  induction ms with
  | nil => simp [keys]
  | cons m ms ih =>
      rcases m with ⟨k, v⟩
      by_cases hk : k = key
      · simp [get?, keys, hk]
      · simpa [get?, keys, hk, Ne.symm hk] using ih

/-- The keys lead to the values, in the same order. -/
theorem map_get?_keys (hkeys : (keys ms).Nodup) :
    ms.keys.map (fun key => (get? key ms).getD .null) = ms.values := by
  rw [keys, values, List.map_map]
  refine List.map_congr_left ?_
  rintro ⟨key, v⟩ hmem
  rw [Function.comp_apply, (get?_eq_some_iff hkeys).2 hmem, Option.getD_some]

end Members

namespace Query

/-! ## Positions -/

def positions (length : Nat) : List Json :=
  (List.range length).map .ofNat

theorem keysOf_array (items : List Json) :
    keysOf (.array items) = .ok (.array (positions items.length)) :=
  rfl

/-- The positions of a list are the integers from zero to below its length. -/
theorem mem_positions {length : Nat} {n : Int} :
    Json.number (.integer n) ∈ positions length ↔ 0 ≤ n ∧ n < length := by
  rw [positions, List.mem_map]
  constructor
  · rintro ⟨k, hk, heq⟩
    cases heq
    have hlt := List.mem_range.1 hk
    omega
  · rintro ⟨hpos, hlt⟩
    refine ⟨n.toNat, List.mem_range.2 (by omega), ?_⟩
    rw [Json.ofNat, Int.toNat_of_nonneg hpos]

theorem trunc_lt_iff {x : Finite} (hx : 0 ≤ x.scaled) (n : Int) :
    x.trunc < n ↔ x.scaled < n * Binary64.unitsPerOne := by
  rw [Finite.trunc, Int.tdiv_eq_ediv_of_nonneg hx]
  exact Int.ediv_lt_iff_lt_mul (Int.natCast_pos.2 Binary64.unitsPerOne_pos)

/-- A number is a position of an array if it is from zero on and below the length. -/
theorem hasKey_array_iff (items : List Json) (n : Number) :
    ∃ known, hasKey (.array items) (.number n) = .ok known ∧
      (known = true ↔ 0 ≤ n.toFinite.scaled ∧
        n.toFinite.scaled < items.length * Binary64.unitsPerOne) := by
  refine ⟨_, rfl, ?_⟩
  rw [Bool.and_eq_true, decide_eq_true_iff, decide_eq_true_iff]
  exact and_congr_right fun hpos => trunc_lt_iff hpos _

theorem inRange_of_lt {k : Nat} (hk : k ≤ 2 ^ 53 + 1) : (Number.integer k).InRange := by
  unfold Number.InRange Number.leastInteger Number.integerBound
  omega

/-- Up to `2 ^ 53` neighbouring positions are told apart by comparison. -/
theorem integerOrder_positions {i j : Nat} (hij : i < j) (hj : j ≤ 2 ^ 53) :
    integerOrder i j = .lt := by
  have hsmall : (i : Int).natAbs < 2 ^ 53 := by omega
  have hi := inRange_of_lt (k := i) (by omega)
  have hj' := inRange_of_lt (k := j) (by omega)
  refine integerOrder_of_lt hi hj' (by omega) fun heq => ?_
  have heq' := (ofInt_inj_of_small hi hj' (.inl hsmall)).1 heq
  omega

/-- Two positions beyond `2 ^ 53` have one binary number, so they are equal in the order. -/
theorem integerOrder_beyond :
    integerOrder ((2 ^ 53 : Nat) : Int) ((2 ^ 53 + 1 : Nat) : Int) = .eq := by
  decide +kernel

/-- The positions are in strictly ascending order up to the length at which two become equal. -/
theorem increasing_positions_iff (length : Nat) :
    (positions length).Pairwise (fun a b => Json.compare a b = .lt) ↔ length ≤ 2 ^ 53 + 1 := by
  rw [positions, List.pairwise_map]
  constructor
  · intro hpairwise
    by_contra hlong
    have hget := List.pairwise_iff_getElem.1 hpairwise (2 ^ 53) (2 ^ 53 + 1)
      (by rw [List.length_range]; omega) (by rw [List.length_range]; omega) (Nat.lt_succ_self _)
    rw [List.getElem_range, List.getElem_range] at hget
    have hlt : integerOrder ((2 ^ 53 : Nat) : Int) ((2 ^ 53 + 1 : Nat) : Int) = .lt := hget
    rw [integerOrder_beyond] at hlt
    cases hlt
  · intro hlength
    refine List.pairwise_lt_range.imp_of_mem fun {i j} hi hj hij => ?_
    have hlt := List.mem_range.1 hj
    exact integerOrder_positions hij (by omega)

/-- Rounding takes no integer to the other side of a length, if one of them is small. -/
theorem scaled_ofInt_lt_iff {n : Int} (hn : (Number.integer n).InRange) (hpos : 0 ≤ n)
    {length : Nat} (hsmall : length ≤ 2 ^ 53 ∨ n ≤ 2 ^ 53) :
    (Finite.ofInt n).scaled < length * Binary64.unitsPerOne ↔ n < length := by
  have hunits : (0 : Int) < Binary64.unitsPerOne := Int.natCast_pos.2 Binary64.unitsPerOne_pos
  rcases hsmall with hlength | hexact
  · have hexact : (Finite.ofInt length).scaled = length * Binary64.unitsPerOne :=
      Finite.scaled_ofInt_of_le (by omega)
    have hbound := Number.natAbs_le_of_inRange hn
    rw [← hexact]
    constructor
    · intro hlt
      by_contra hge
      exact absurd (Finite.scaled_ofInt_mono (by omega) hbound (not_lt.1 hge)) (not_le.2 hlt)
    · intro hlt
      exact Finite.scaled_ofInt_lt hbound (by omega) (.inl (by omega)) hlt
  · rw [Finite.scaled_ofInt_of_le (by omega), Int.mul_lt_mul_right hunits]

/-- Rounding leaves no integer from zero on below zero. -/
theorem scaled_ofInt_nonneg {n : Int} (hn : (Number.integer n).InRange) (hpos : 0 ≤ n) :
    0 ≤ (Finite.ofInt n).scaled := by
  have hzero : (Finite.ofInt 0).scaled = 0 :=
    (Finite.scaled_ofInt_of_le (by decide)).trans (Int.zero_mul _)
  rw [← hzero]
  exact Finite.scaled_ofInt_mono (by decide) (Number.natAbs_le_of_inRange hn) hpos

/-- An integer is listed among the positions exactly if it is a position. -/
theorem hasKey_integer {items : List Json} {n : Int} (hn : (Number.integer n).InRange)
    (hpos : 0 ≤ n) (hsmall : items.length ≤ 2 ^ 53 ∨ n ≤ 2 ^ 53) :
    ∃ known, hasKey (.array items) (.number (.integer n)) = .ok known ∧
      (known = true ↔ Json.number (.integer n) ∈ positions items.length) := by
  rcases hasKey_array_iff items (.integer n) with ⟨known, hknown, hiff⟩
  refine ⟨known, hknown, hiff.trans ?_⟩
  rw [mem_positions]
  exact and_congr (iff_of_true (scaled_ofInt_nonneg hn hpos) hpos)
    (scaled_ofInt_lt_iff hn hpos hsmall)

/-- A binary number that is whole is a position exactly if it is equal to one in the order. -/
theorem hasKey_real {items : List Json} {x : Finite} {k : Nat}
    (hx : x.scaled = k * Binary64.unitsPerOne) (hsmall : items.length ≤ 2 ^ 53 ∨ k ≤ 2 ^ 53) :
    ∃ known, hasKey (.array items) (.number (.real x)) = .ok known ∧
      (known = true ↔
        ∃ p ∈ positions items.length, Json.compare p (.number (.real x)) = .eq) := by
  have hunits : (0 : Int) < Binary64.unitsPerOne := Int.natCast_pos.2 Binary64.unitsPerOne_pos
  have hequal : ∀ i ≤ 2 ^ 53, Json.compare (.ofNat i) (.number (.real x)) = .eq ↔ i = k := by
    intro i hi
    have horder : Json.compare (.ofNat i) (.number (.real x)) =
        Ord.compare (Finite.ofInt i).scaled x.scaled := rfl
    have hexact : (Finite.ofInt i).scaled = i * Binary64.unitsPerOne :=
      Finite.scaled_ofInt_of_le (by omega)
    rw [horder, hexact, hx, Int.compare_eq_eq, Int.mul_eq_mul_right_iff (Int.ne_of_gt hunits)]
    exact Int.natCast_inj
  have hlisted : (∃ p ∈ positions items.length, Json.compare p (.number (.real x)) = .eq) ↔
      k < items.length := by
    constructor
    · rintro ⟨p, hp, heq⟩
      rcases List.mem_map.1 hp with ⟨i, hi, rfl⟩
      have hlt := List.mem_range.1 hi
      by_contra hge
      -- the position comes before the key, and one of the two is exact in binary
      have hik := (hequal i (by omega)).1 heq
      omega
    · intro hlt
      exact ⟨_, List.mem_map.2 ⟨k, List.mem_range.2 hlt, rfl⟩, (hequal k (by omega)).2 rfl⟩
  rcases hasKey_array_iff items (.real x) with ⟨known, hknown, hiff⟩
  refine ⟨known, hknown, hiff.trans ?_⟩
  have hnonneg : 0 ≤ x.scaled := hx ▸ Int.mul_nonneg (Int.natCast_nonneg k) (Int.le_of_lt hunits)
  rw [hlisted, Number.toFinite, and_iff_right hnonneg, hx,
    Int.mul_lt_mul_right hunits, Int.ofNat_lt]

/-! ## Following the keys -/

/-- Up to `2 ^ 53` the item at a position is the one that stands there. -/
theorem itemAt_position {items : List Json} {k : Nat} (hexact : k ≤ 2 ^ 53)
    (hitems : (items.length : Int) ≤ greatestInt64) (hk : k < items.length) :
    itemAt items (.integer k) = items[k] := by
  have hfloor : (Number.integer k).toFinite.floor = k :=
    Finite.floor_of_scaled (Finite.scaled_ofInt_of_le (n := k) (by omega))
  exact (picksAt_itemAt hitems (.integer k)).eq_item hk hfloor

theorem mapM_item_positions (items : List Json) (length : Nat) :
    (positions length).mapM (item (.array items)) =
      .ok ((List.range length).map fun k : Nat => itemAt items (.integer k)) := by
  rw [positions, List.mapM_map]
  exact Except.mapM_eq_ok fun k _ => item_array items (.integer k)

/-- What is found at the positions, one after the other, is the array. -/
theorem map_itemAt_range {items : List Json} (hitems : items.length ≤ 2 ^ 53 + 1) :
    (List.range items.length).map (fun k : Nat => itemAt items (.integer k)) = items := by
  have hlength : (items.length : Int) ≤ greatestInt64 := by
    unfold greatestInt64
    omega
  refine List.ext_getElem (by simp) fun k hk hk' => ?_
  rw [List.getElem_map, List.getElem_range, itemAt_position (by omega) hlength hk']

theorem mapM_item_names (members : Members) (names : List String) :
    (names.map Json.string).mapM (item (.object members)) =
      .ok (names.map fun key => (Members.get? key members).getD .null) := by
  rw [List.mapM_map]
  exact Except.mapM_eq_ok fun key _ => rfl

section Queries

variable {v : Json} {ks : List Json}

theorem eval_keys (h : keysOf v = .ok (.array ks)) :
    (Query.call .keys []).eval v = .ok [.array ks] :=
  congrArg (Except.map ([·])) h

/-- The query of all items at the keys follows the keys in their order. -/
theorem eval_index_keys (h : keysOf v = .ok (.array ks)) :
    (Query.index .identity (.iterate (.call .keys []))).eval v = ks.mapM (item v) := by
  have hitems : (Query.iterate (.call .keys [])).eval v = .ok ks := by
    rw [eval, eval_keys h]
    exact forEach_singleton (.array ks) children
  rw [eval, hitems]
  show ([v].flatMap fun l => ks.map fun r => (l, r)).mapM (fun p => item p.1 p.2) = _
  rw [List.flatMap_singleton, List.mapM_map]
  rfl

theorem eval_iterate_identity {values : List Json} (h : children v = .ok values) :
    (Query.iterate .identity).eval v = .ok values := by
  rw [eval]
  exact (forEach_singleton v children).trans h

/-- Where the keys lead to the items in order, the item at each position is found there. -/
theorem itemAt_of_eval_index_keys {items : List Json}
    (h : (Query.index .identity (.iterate (.call .keys []))).eval (.array items) =
      (Query.iterate .identity).eval (.array items)) {k : Nat} {w : Json}
    (hk : items[k]? = some w) : itemAt items (.integer k) = w := by
  rw [eval_index_keys (keysOf_array items), mapM_item_positions, eval_iterate_identity rfl] at h
  have hrange : (List.range items.length)[k]? = some k :=
    List.getElem?_range (List.getElem?_eq_some_iff.1 hk).1
  have hget := congrArg (·[k]?) (Except.ok.inj h)
  simp only [List.getElem?_map, hrange, hk, Option.map_some] at hget
  exact Option.some.inj hget

theorem eval_has {q : Query} {k : Json} (hq : firstResult (q.eval v) = .ok k) {known : Bool}
    (hknown : hasKey v k = .ok known) : (Query.call .has [q]).eval v = .ok [.bool known] := by
  rw [eval_unary, applyUnary, hq]
  simp only [bind, Except.bind, hknown]

end Queries

/-! ## The operations together -/

/-- A value with keys: an array, or an object, which repeats no name. -/
inductive IsKeyed : Json → Prop where
  | array (items : List Json) : IsKeyed (.array items)
  | object {members : Members} : (Members.keys members).Nodup → IsKeyed (.object members)

/-- An array with at most so many items, or a value without positions. -/
def HasAtMost (bound : Nat) : Json → Prop
  | .array items => items.length ≤ bound
  | _ => True

/-- A number up to a bound, or a name. -/
def IsAtMost (bound : Nat) : Json → Prop
  | .number n => n.floor ≤ bound
  | _ => True

/--
What can be a key: of an object a string, of an array an integer from zero on, be it written as an
integer or as a binary number.
-/
inductive IsKeyFor : Json → Json → Prop where
  | name (members : Members) (key : String) : IsKeyFor (.object members) (.string key)
  | integer (items : List Json) {n : Int} (hn : (Number.integer n).InRange) (hpos : 0 ≤ n) :
      IsKeyFor (.array items) (.number (.integer n))
  | real (items : List Json) {x : Finite} {k : Nat} (hx : x.scaled = k * Binary64.unitsPerOne) :
      IsKeyFor (.array items) (.number (.real x))

/-- Whether a key is listed: a binary number if it is equal to one in the order, else as it is. -/
def ListsKey (ks : List Json) : Json → Prop
  | .number (.real x) => ∃ p ∈ ks, Json.compare p (.number (.real x)) = .eq
  | k => k ∈ ks

/-- Whether a value has a key is whether the key is listed, of an array and of an object. -/
theorem hasKey_listsKey {v k : Json} {ks : List Json} (hks : keysOf v = .ok (.array ks))
    (hk : IsKeyFor v k) (hsmall : HasAtMost (2 ^ 53) v ∨ IsAtMost (2 ^ 53) k) :
    ∃ known, hasKey v k = .ok known ∧ (known = true ↔ ListsKey ks k) := by
  cases hk with
  | name members key =>
      cases hks
      refine ⟨_, rfl, Members.isSome_get?_iff.trans (Members.mem_sortedKeys.symm.trans ?_)⟩
      show key ∈ Members.sortedKeys members ↔
        Json.string key ∈ (Members.sortedKeys members).map Json.string
      constructor
      · exact List.mem_map_of_mem
      · intro hmem
        rcases List.mem_map.1 hmem with ⟨_, hmem, ⟨⟩⟩
        exact hmem
  | integer items hn hpos =>
      cases hks
      exact hasKey_integer hn hpos hsmall
  | @real items x k hx =>
      cases hks
      have hfloor : x.floor = k := Finite.floor_of_scaled hx
      refine hasKey_real hx (hsmall.imp_right fun hk => ?_)
      have hk : x.floor ≤ (2 ^ 53 : Nat) := hk
      omega

/-- So the query for a key tells whether it is listed, whichever query gives the key. -/
theorem eval_has_listsKey {v : Json} {ks : List Json} (hks : keysOf v = .ok (.array ks)) (q : Query)
    (k : Json) (hk : IsKeyFor v k) (hsmall : HasAtMost (2 ^ 53) v ∨ IsAtMost (2 ^ 53) k)
    (hq : firstResult (q.eval v) = .ok k) :
    ∃ known, (Query.call .has [q]).eval v = .ok [.bool known] ∧
      (known = true ↔ ListsKey ks k) := by
  rcases hasKey_listsKey hks hk hsmall with ⟨known, hknown, hiff⟩
  exact ⟨known, eval_has hq hknown, hiff⟩

/--
The keys of an array or an object mean the same wherever they are used. Their list is strictly
increasing in the order of values, for an array exactly up to `2 ^ 53 + 1` items; a value that can
be a key is in it exactly if the value has the key, where the array has at most `2 ^ 53` items or
the key is at most `2 ^ 53`; their number is the length; and what stands at the keys, all of them in
turn, is up to `2 ^ 53 + 1` items what iterating gives, up to the order, which for an array is the
same.
-/
theorem keys_agree {v : Json} (hv : IsKeyed v) :
    ∃ ks values found : List Json,
      (Query.call .keys []).eval v = .ok [.array ks] ∧
      (ks.Pairwise (fun a b => Json.compare a b = .lt) ↔ HasAtMost (2 ^ 53 + 1) v) ∧
      (∀ (q : Query) (k : Json), IsKeyFor v k → HasAtMost (2 ^ 53) v ∨ IsAtMost (2 ^ 53) k →
        firstResult (q.eval v) = .ok k →
        ∃ known, (Query.call .has [q]).eval v = .ok [.bool known] ∧
          (known = true ↔ ListsKey ks k)) ∧
      (Query.call .length []).eval v = .ok [.ofNat ks.length] ∧
      (Query.iterate .identity).eval v = .ok values ∧
      (Query.index .identity (.iterate (.call .keys []))).eval v = .ok found ∧
      (HasAtMost (2 ^ 53 + 1) v → found.Perm values ∧ (v.kind = .array → found = values)) := by
  cases hv with
  | array items =>
      have hks := keysOf_array items
      have hfound := (eval_index_keys hks).trans (mapM_item_positions items _)
      have hlength : (positions items.length).length = items.length := by simp [positions]
      refine ⟨_, items, _, eval_keys hks, increasing_positions_iff items.length,
        eval_has_listsKey hks, ?_, eval_iterate_identity rfl, hfound, fun hitems => ?_⟩
      · rw [hlength]
        rfl
      · rw [map_itemAt_range hitems]
        exact ⟨.refl _, fun _ => rfl⟩
  | @object members hkeys =>
      have hks : keysOf (.object members) =
          .ok (.array ((Members.sortedKeys members).map .string)) := rfl
      have hincreasing : ((Members.sortedKeys members).map Json.string).Pairwise
          fun a b => Json.compare a b = .lt := by
        rw [List.pairwise_map]
        exact (Members.pairwise_sortedKeys hkeys).imp fun hlt => compare_lt_iff_lt.2 hlt
      have hfound := (eval_index_keys hks).trans (mapM_item_names members _)
      have hperm := (Members.sortedKeys_perm members).map
        fun key => (Members.get? key members).getD .null
      rw [Members.map_get?_keys hkeys] at hperm
      have hlength : ((Members.sortedKeys members).map Json.string).length = members.length := by
        rw [List.length_map, (Members.sortedKeys_perm members).length_eq, Members.keys,
          List.length_map]
      refine ⟨_, members.values, _, eval_keys hks, iff_of_true hincreasing trivial,
        eval_has_listsKey hks, ?_, eval_iterate_identity rfl, hfound, fun _ => ⟨hperm, ?_⟩⟩
      · rw [hlength]
        rfl
      · intro hkind
        cases hkind

def unorderedMembers : Members :=
  [("town", .null), ("name", .bool true)]

/-- A name is listed without its value, in the order of names. -/
example : (Query.call .keys []).eval (.object unorderedMembers) =
    .ok [.array [.string "name", .string "town"]] := by
  cbv

/-- An object with members out of order, and an array of two items. -/
theorem keys_agree_of_unorderedMembers :
    (∃ ks values found : List Json,
      (Query.call .keys []).eval (.object unorderedMembers) = .ok [.array ks] ∧
      ks.Pairwise (fun a b => Json.compare a b = .lt) ∧
      (∃ known, (Query.call .has [.literal (.string "name")]).eval (.object unorderedMembers) =
        .ok [.bool known] ∧ (known = true ↔ Json.string "name" ∈ ks)) ∧
      (Query.index .identity (.iterate (.call .keys []))).eval (.object unorderedMembers) =
        .ok found ∧ found.Perm values) ∧
      ∃ ks : List Json, (Query.call .keys []).eval (.array twoItems) = .ok [.array ks] ∧
        ∃ known, (Query.call .has [integerLiteral 2]).eval (.array twoItems) = .ok [.bool known] ∧
          (known = true ↔ Json.number (.integer 2) ∈ ks) := by
  have hobject : IsKeyed (.object unorderedMembers) := .object (by decide)
  constructor
  · rcases keys_agree hobject with
      ⟨ks, values, found, hks, hincreasing, hhas, _, _, hfound, hiterated⟩
    have hname := hhas (.literal (.string "name")) _ (.name unorderedMembers "name") (.inl trivial)
      rfl
    exact ⟨ks, values, found, hks, hincreasing.2 trivial, hname, hfound, (hiterated trivial).1⟩
  · rcases keys_agree (.array twoItems) with ⟨ks, _, _, hks, _, hhas, _⟩
    have hkey : IsKeyFor (.array twoItems) (.number (.integer 2)) :=
      .integer twoItems ⟨by decide, by decide⟩ (by decide)
    have hsmall : HasAtMost (2 ^ 53) (.array twoItems) :=
      show twoItems.length ≤ 2 ^ 53 by decide
    exact ⟨ks, hks, hhas (integerLiteral 2) _ hkey (.inl hsmall) rfl⟩

/--
An array of `2 ^ 53 + 2` items has two keys that are equal in the order, and the last item is not
found at its key; one of `2 ^ 53 + 1` items has a key that is not listed.
-/
theorem not_keys_agree_of_endMarked :
    (endMarked (2 ^ 53 + 1)).length = 2 ^ 53 + 2 ∧
      (Query.call .keys []).eval (.array (endMarked (2 ^ 53 + 1))) =
        .ok [.array (positions (2 ^ 53 + 2))] ∧
      ¬(positions (2 ^ 53 + 2)).Pairwise (fun a b => Json.compare a b = .lt) ∧
      (Query.index .identity (.iterate (.call .keys []))).eval (.array (endMarked (2 ^ 53 + 1))) ≠
        (Query.iterate .identity).eval (.array (endMarked (2 ^ 53 + 1))) ∧
      (endMarked (2 ^ 53)).length = 2 ^ 53 + 1 ∧
      (Query.call .has [integerLiteral (2 ^ 53 + 1)]).eval (.array (endMarked (2 ^ 53))) =
        .ok [.bool true] ∧
      Json.number (.integer (2 ^ 53 + 1)) ∉ positions (2 ^ 53 + 1) := by
  have hlength : (endMarked (2 ^ 53 + 1)).length = 2 ^ 53 + 2 := length_endMarked (2 ^ 53 + 1)
  have hkeys : keysOf (.array (endMarked (2 ^ 53 + 1))) =
      .ok (.array (positions (2 ^ 53 + 2))) := by
    rw [keysOf_array, hlength]
  refine ⟨hlength, eval_keys hkeys, ?_, ?_, length_endMarked _, ?_, ?_⟩
  · rw [increasing_positions_iff]
    omega
  · intro heq
    have hlast := itemAt_of_eval_index_keys heq (getElem?_endMarked_last (2 ^ 53 + 1))
    cases hlast.symm.trans itemAt_endMarked
  · refine eval_has (k := .number (.integer (2 ^ 53 + 1))) rfl ?_
    rw [hasKey, length_endMarked]
    exact congrArg Except.ok (by decide +kernel)
  · rw [mem_positions]
    omega

end Query
end Gleaner
