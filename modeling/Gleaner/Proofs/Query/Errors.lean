import Gleaner.Proofs.Query.Parts
import Gleaner.Proofs.Sequencing
import Gleaner.Query.Evaluation
/-!
# The errors of operations

What an operation on values answers when it does not succeed. All but the remainder fail with an
error of evaluation.

* `FailsOnly` says that a computation fails with errors of one kind only, and is closed under the
  ways in which computations are put together;
* each operation has one lemma `..._fails`;
* `Critical` are the operands of which no remainder is taken, by `combine_fails` and
  `combine_of_critical`.
-/

namespace Gleaner
namespace Query

/-- The errors with which the evaluation of a query fails. -/
def Error.IsOfRun : Error → Prop
  | .cannotIndex .. | .cannotIterate .. | .mismatch .. => True
  | _ => False

/-- A computation that fails, if it does, with errors of one kind. -/
def FailsOnly {α : Type} (P : Error → Prop) (x : Except Error α) : Prop :=
  ∀ e, x = .error e → P e

namespace FailsOnly

variable {α β : Type} {P Q : Error → Prop}

theorem ok (a : α) : FailsOnly P (.ok a : Except Error α) := by
  intro e h
  cases h

theorem error {e : Error} (h : P e) : FailsOnly P (.error e : Except Error α) := by
  intro e' heq
  cases heq
  exact h

theorem mono {x : Except Error α} (h : FailsOnly P x) (hPQ : ∀ e, P e → Q e) : FailsOnly Q x :=
  fun e heq => hPQ e (h e heq)

/-- A sequence fails only as its steps do. -/
theorem bind {x : Except Error α} {f : α → Except Error β} (hx : FailsOnly P x)
    (hf : ∀ a, x = .ok a → FailsOnly P (f a)) : FailsOnly P (x >>= f) := by
  cases x with
  | error e => exact .error (hx e rfl)
  | ok a => exact hf a rfl

theorem map {x : Except Error α} (hx : FailsOnly P x) (f : α → β) : FailsOnly P (x.map f) := by
  cases x with
  | error e => exact .error (hx e rfl)
  | ok a => exact .ok (f a)

/-- A pass over a list fails only as its items do. -/
theorem mapM {xs : List α} {f : α → Except Error β} (hf : ∀ a ∈ xs, FailsOnly P (f a)) :
    FailsOnly P (xs.mapM f) := by
  induction xs with
  | nil => exact .ok []
  | cons a xs ih =>
      rw [List.mapM_cons]
      refine .bind (hf a List.mem_cons_self) fun b _ => .bind (ih fun c hc => ?_) fun bs _ => .ok _
      exact hf c (List.mem_cons_of_mem a hc)

theorem forEach {vs : List Json} {f : Json → Stream} (hf : ∀ v ∈ vs, FailsOnly P (f v)) :
    FailsOnly P (forEach vs f) :=
  .map (.mapM hf) _

theorem forPairs {lefts rights : List Json} {f : Json → Json → Except Error Json}
    (hf : ∀ l ∈ lefts, ∀ r ∈ rights, FailsOnly P (f l r)) :
    FailsOnly P (forPairs lefts rights f) := by
  refine .mapM fun pair hpair => ?_
  rcases List.mem_flatMap.1 hpair with ⟨l, hl, hpair⟩
  rcases List.mem_map.1 hpair with ⟨r, hr, rfl⟩
  exact hf l hl r hr

theorem foldlM {f : β → α → Except Error β} (hf : ∀ b a, FailsOnly P (f b a)) (b : β)
    (xs : List α) : FailsOnly P (xs.foldlM f b) := by
  induction xs generalizing b with
  | nil => exact .ok b
  | cons a xs ih =>
      rw [List.foldlM_cons]
      exact .bind (hf b a) fun c _ => ih c

/-- Containing the errors of a stream leaves only those that cannot be contained. -/
theorem contained {s : Stream} (h : FailsOnly P s) : FailsOnly P (contained s) := by
  cases s with
  | ok vs => exact .ok vs
  | error e =>
      unfold Query.contained
      dsimp only
      split
      · exact .error (h e rfl)
      · exact .ok []

end FailsOnly

/-! ## Selection -/

theorem member_fails (v : Json) (key : String) : FailsOnly Error.IsOfRun (member v key) := by
  cases v <;> first | exact .ok _ | exact .error trivial

theorem item_fails (v position : Json) : FailsOnly Error.IsOfRun (item v position) := by
  unfold item
  split <;> first | exact .ok _ | exact .error trivial

theorem part_fails (v low high : Json) : FailsOnly Error.IsOfRun (part v low high) := by
  cases v <;> first | exact .ok _ | exact .error trivial

theorem children_fails (v : Json) : FailsOnly Error.IsOfRun (children v) := by
  cases v <;> first | exact .ok _ | exact .error trivial

theorem itemsOf_fails (v : Json) : FailsOnly Error.IsOfRun (itemsOf v) := by
  cases v <;> first | exact .ok _ | exact .error trivial

/-! ## Arithmetic -/

theorem numeric_fails (x : Binary64) : FailsOnly Error.IsOfRun (numeric x) := by
  unfold numeric
  split
  · exact .ok _
  · exact .error trivial

theorem negate_fails (v : Json) : FailsOnly Error.IsOfRun (negate v) := by
  cases v <;> first | exact .ok _ | exact .error trivial

/-- The operands of which no remainder is taken: the least integer and minus one. -/
def Critical (l r : Json) : Prop :=
  ∃ m n : Number, l = .number m ∧ r = .number n ∧ toInt64 m.toFinite.trunc = leastInt64 ∧
    toInt64 n.toFinite.trunc = -1

/-- A remainder fails with an error of the run, or at the one pair that overflows. -/
theorem remainder_fails (l r : Binary64.Finite) :
    FailsOnly (fun e => e.IsOfRun ∨ e = .remainderOverflow ∧
      toInt64 l.trunc = leastInt64 ∧ toInt64 r.trunc = -1) (remainder l r) := by
  unfold remainder
  dsimp only
  split
  · exact .error (.inl trivial)
  · split
    · rename_i hcritical
      exact .error (.inr ⟨rfl, hcritical⟩)
    · exact (numeric_fails _).mono fun e he => .inl he

/-- Arithmetic on numbers fails with an error of the run, or at the one pair that overflows. -/
theorem combineNumbers_fails (op : Operator) (m n : Number) :
    FailsOnly (fun e => e.IsOfRun ∨ e = .remainderOverflow ∧ op = .mod ∧
      Critical (.number m) (.number n)) (combineNumbers op m.toFinite n.toFinite) := by
  have hnumeric : ∀ {P : Prop} (x : Binary64),
      FailsOnly (fun e => e.IsOfRun ∨ e = .remainderOverflow ∧ P) (numeric x) :=
    fun x => (numeric_fails x).mono fun e he => .inl he
  cases op <;> rw [combineNumbers]
  case div =>
    split
    · exact .error (.inl trivial)
    · exact hnumeric _
  case mod =>
    split
    · exact .error (.inl trivial)
    · refine (remainder_fails _ _).mono fun e he => he.imp_right ?_
      rintro ⟨rfl, hl, hr⟩
      exact ⟨rfl, rfl, m, n, rfl, rfl, hl, hr⟩
  all_goals exact hnumeric _

/-- Arithmetic fails with an error of evaluation, but for the remainder of critical operands. -/
theorem combine_fails (op : Operator) (l r : Json) :
    FailsOnly (fun e => e.IsOfRun ∨ e = .remainderOverflow ∧ op = .mod ∧ Critical l r)
      (combine op l r) := by
  unfold combine
  split
  · exact .ok _
  · exact .ok _
  · exact combineNumbers_fails _ _ _
  all_goals first | exact .ok _ | exact .error (.inl trivial)

/-- Zero is cut to zero, whatever its sign. -/
theorem trunc_of_isZero {x : Binary64.Finite} (h : x.isZero = true) : x.trunc = 0 := by
  have hmagnitude : x.magnitude = 0 := by
    rw [Binary64.Finite.magnitude, beq_iff_eq.1 h, Nat.zero_mul]
  have hscaled : x.scaled = 0 := by
    rw [Binary64.Finite.scaled, hmagnitude]
    split <;> rfl
  rw [Binary64.Finite.trunc, hscaled, Int.zero_tdiv]

/-- A divisor that is cut to minus one is not zero. -/
theorem isZero_eq_false_of_trunc {x : Binary64.Finite} (h : toInt64 x.trunc = -1) :
    x.isZero = false := by
  cases hzero : x.isZero with
  | false => rfl
  | true =>
      rw [trunc_of_isZero hzero] at h
      exact absurd h (by decide)

/-- No remainder is taken of critical operands. -/
theorem combine_of_critical {l r : Json} (h : Critical l r) :
    combine .mod l r = .error .remainderOverflow := by
  rcases h with ⟨m, n, rfl, rfl, hl, hr⟩
  have hcombine : combine .mod (.number m) (.number n) = remainder m.toFinite n.toFinite := by
    show combineNumbers .mod m.toFinite n.toFinite = _
    rw [combineNumbers, isZero_eq_false_of_trunc hr, if_neg (by decide)]
  rw [hcombine]
  simp [remainder, hl, hr]

/-- Addition fails with errors of the run only. -/
theorem combine_add_fails (l r : Json) : FailsOnly Error.IsOfRun (combine .add l r) := by
  refine (combine_fails .add l r).mono fun e he => ?_
  rcases he with hrun | ⟨_, hop, _⟩
  · exact hrun
  · cases hop

theorem sum_fails (items : List Json) : FailsOnly Error.IsOfRun (sum items) :=
  .foldlM combine_add_fails .null items

/-! ## Functions -/

-- the recursion is on what should be contained, as in the definitions
mutual

/-- The containment test fails with errors of the run only. -/
theorem isContained_fails (container : Json) :
    (contained : Json) → FailsOnly Error.IsOfRun (isContained container contained)
  | .object wanted => by
      unfold isContained
      split
      · exact holdsMembers_fails _ wanted
      · exact .error trivial
  | .array wanted => by
      unfold isContained
      split <;> first | exact .ok _ | exact .error trivial
  | .string part => by
      unfold isContained
      split <;> first | exact .ok _ | exact .error trivial
  | .null => by
      unfold isContained
      split <;> first | exact .ok _ | exact .error trivial
  | .bool b => by
      unfold isContained
      split <;> first | exact .ok _ | exact .error trivial
  | .number n => by
      unfold isContained
      split <;> first | exact .ok _ | exact .error trivial

/-- The containment test of members fails with errors of the run only. -/
theorem holdsMembers_fails (members : Members) :
    (wanted : List (String × Json)) → FailsOnly Error.IsOfRun (holdsMembers members wanted)
  | [] => .ok true
  | (key, w) :: rest => by
      unfold holdsMembers
      split
      · exact .ok _
      · rename_i candidate _
        have hfirst := isContained_fails candidate w
        split
        · rename_i e he
          exact .error (hfirst e he)
        · exact .ok _
        · exact holdsMembers_fails members rest

end

theorem hasKey_fails (v key : Json) : FailsOnly Error.IsOfRun (hasKey v key) := by
  unfold hasKey
  split <;> first | exact .ok _ | exact .error trivial

theorem lengthOf_fails (v : Json) : FailsOnly Error.IsOfRun (lengthOf v) := by
  cases v <;> first | exact .ok _ | exact .error trivial

theorem keysOf_fails (v : Json) : FailsOnly Error.IsOfRun (keysOf v) := by
  cases v <;> first | exact .ok _ | exact .error trivial

theorem reversed_fails (v : Json) : FailsOnly Error.IsOfRun (reversed v) := by
  cases v <;> first | exact .ok _ | exact .error trivial

theorem toNumber_fails (v : Json) : FailsOnly Error.IsOfRun (toNumber v) := by
  cases v with
  | string s =>
      unfold toNumber
      dsimp only
      split
      · exact .ok _
      · exact .error trivial
  | _ => first | exact .ok _ | exact .error trivial

theorem extremum_fails (wanted : Ordering) (v : Json) :
    FailsOnly Error.IsOfRun (extremum wanted v) := by
  cases v <;> first | exact .ok _ | exact .error trivial

theorem textInput_fails (f : Builtin) (v : Json) : FailsOnly Error.IsOfRun (textInput f v) := by
  cases v <;> first | exact .ok _ | exact .error trivial

theorem joinTexts_fails (separator : String) (items : List Json) :
    FailsOnly Error.IsOfRun (joinTexts separator items) := by
  refine .bind (.mapM fun v _ => ?_) fun parts _ => .ok _
  cases v <;> first | exact .ok _ | exact .error trivial

/-- A test for a pattern fails with errors of the run only. -/
theorem testPattern_fails (pattern : String) {text : Except Error String}
    (h : FailsOnly Error.IsOfRun text) : FailsOnly Error.IsOfRun (testPattern pattern text) := by
  unfold testPattern
  split
  · exact h.map _
  · exact .error trivial

/-- A function that is called without arguments, and takes none, fails in evaluation only. -/
theorem applyNullary_fails {f : Builtin} (hf : f.arity = 0) (v : Json) :
    FailsOnly Error.IsOfRun (applyNullary f v) := by
  cases f with
  | length => exact (lengthOf_fails v).map _
  | keys => exact (keysOf_fails v).map _
  | first => cases v <;> first | exact .ok _ | exact .error trivial
  | last => cases v <;> first | exact .ok _ | exact .error trivial
  | tostring => exact .ok _
  | tonumber => exact (toNumber_fails v).map _
  | asciiDowncase => exact (textInput_fails _ v).map _
  | asciiUpcase => exact (textInput_fails _ v).map _
  | type => exact .ok _
  | empty => exact .ok _
  | add => exact .bind (itemsOf_fails v) fun items _ => .bind (sum_fails items) fun _ _ => .ok _
  | min => exact (extremum_fails _ v).map _
  | max => exact (extremum_fails _ v).map _
  | reverse => exact (reversed_fails v).map _
  | _ => cases hf

end Query
end Gleaner
