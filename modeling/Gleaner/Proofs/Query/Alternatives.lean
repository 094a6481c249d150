import Gleaner.Proofs.Query.Parsing
import Gleaner.Proofs.Query.Parts
import Gleaner.Proofs.Query.Streams
/-!
# Alternatives

An alternative takes the true results of its left side. If there are none, because the left side
fails or because all of its results are false, it takes all results of its right side. The grammar
groups alternatives to the right.

* `Query.form` is what a query is apart from its parts; `eval_congr`: the results of a query depend
  only on its form and on the results of its parts;
* `offered` are the results that an alternative takes from a left side, `orElse` is the alternative
  of two streams, and `orElse_assoc` says that grouping does not matter;
* `Regrouped` says that two queries differ only in the grouping of alternatives;
* `Listed` are operands that are read one after the other, `parseLevel_alternative` says how the
  grammar groups them;
* `eval_alternative_assoc` puts this together.
-/

namespace Gleaner
namespace Query

/-! ## Queries of one form -/

/-- A query without its parts: the input stands in the place of each. -/
def form : Query → Query
  | .field _ name => .field .identity name
  | .index _ _ => .index .identity .identity
  | .slice _ low high =>
    .slice .identity (low.map fun _ => .identity) (high.map fun _ => .identity)
  | .iterate _ => .iterate .identity
  | .optional _ => .optional .identity
  | .array inner => .array (inner.map fun _ => .identity)
  | .pipe _ _ => .pipe .identity .identity
  | .comma _ _ => .comma .identity .identity
  | .alternative _ _ => .alternative .identity .identity
  | .and _ _ => .and .identity .identity
  | .or _ _ => .or .identity .identity
  | .not _ => .not .identity
  | .neg _ => .neg .identity
  | .compare op _ _ => .compare op .identity .identity
  | .arith op _ _ => .arith op .identity .identity
  | .call f arguments => .call f (arguments.map fun _ => .identity)
  | q => q

theorem parts_form (q : Query) : q.form.parts = q.parts.map fun _ => .identity := by
  cases q with
  | array inner => cases inner <;> rfl
  | slice target low high => cases low <;> cases high <;> rfl
  | _ => rfl

theorem length_parts_of_form_eq {p q : Query} (h : p.form = q.form) :
    p.parts.length = q.parts.length := by
  have hparts := congrArg (fun x => x.parts.length) h
  simpa only [parts_form, List.length_map] using hparts

/-- The results of a query depend on its form and on the results of its parts. -/
theorem eval_congr {p q : Query} (hform : p.form = q.form)
    (hparts : p.parts.map eval = q.parts.map eval) : p.eval = q.eval := by
  funext v
  -- two queries of one form are made by one constructor
  cases p <;> cases q <;> try (cases hform; done)
  case call f arguments f' arguments' =>
      have hmeanings : meanings arguments = meanings arguments' := by
        rw [meanings_eq_map, meanings_eq_map]
        exact hparts
      have hf : f = f' := by injection hform
      rw [eval, eval, hmeanings, hf]
  case array inner inner' =>
      cases inner <;> cases inner' <;> simp_all [form, parts, eval, evalItems]
  case slice target low high target' low' high' =>
      cases low <;> cases low' <;> cases high <;> cases high' <;>
        simp_all [form, parts, eval, evalBound]
  all_goals simp_all [form, parts, eval]

/-! ## The alternative of two streams -/

/-- The results that an alternative takes from its left side. -/
def offered (left : Stream) : Stream :=
  (contained left).map (List.filter Json.isTruthy)

/-- The alternative of two streams: the right one counts if the left one offers nothing. -/
def orElse (left right : Stream) : Stream :=
  match offered left with
  | .ok [] => right
  | s => s

section Streams

variable {left : Stream}

/-- The results of `a // b` depend on the two streams only. -/
theorem eval_alternative (left right : Query) (v : Json) :
    (Query.alternative left right).eval v = orElse (left.eval v) (right.eval v) := by
  rw [eval, orElse, offered]
  cases contained (left.eval v) with
  | error e => rfl
  | ok ls =>
      simp only [bind, Except.bind, Except.map]
      cases ls.filter Json.isTruthy <;> rfl

theorem offered_ok (ls : List Json) : offered (.ok ls) = .ok (ls.filter Json.isTruthy) :=
  rfl

theorem offered_error {e : Error} (he : e.isFatal = false) : offered (.error e) = .ok [] := by
  simp [offered, contained, he, Except.map]

theorem offered_fatal {e : Error} (he : e.isFatal = true) : offered (.error e) = .error e := by
  simp [offered, contained, he, Except.map]

/-- What a stream offers is offered as it is. -/
theorem offered_offered (s : Stream) : offered (offered s) = offered s := by
  cases s with
  | ok ls =>
      rw [offered_ok, offered_ok, List.filter_filter]
      simp only [Bool.and_self]
  | error e =>
      cases he : e.isFatal with
      | false =>
          rw [offered_error he]
          rfl
      | true => rw [offered_fatal he, offered_fatal he]

theorem orElse_of_empty (h : offered left = .ok []) (right : Stream) :
    orElse left right = right := by
  rw [orElse, h]

/-- Where the left side offers something, the right one does not count. -/
theorem orElse_of_ne (h : offered left ≠ .ok []) (right : Stream) :
    orElse left right = offered left := by
  unfold orElse
  split
  · exact absurd ‹_› h
  · rfl

/-- The first truthy results are the same in both groupings, and so are the failures. -/
theorem orElse_assoc (a b c : Stream) : orElse (orElse a b) c = orElse a (orElse b c) := by
  by_cases h : offered a = .ok []
  · rw [orElse_of_empty h, orElse_of_empty h]
  · -- the left side offers something, so what stands behind it does not count
    have hab : offered (orElse a b) = offered a := by rw [orElse_of_ne h, offered_offered]
    have hab' : offered (orElse a b) ≠ .ok [] := hab ▸ h
    rw [orElse_of_ne hab', hab, orElse_of_ne h]

end Streams

/-! ## Grouping -/

/-- Two queries that differ only in how alternatives are grouped, at any depth. -/
inductive Regrouped : Query → Query → Prop where
  | group (a b c : Query) :
      Regrouped (.alternative (.alternative a b) c) (.alternative a (.alternative b c))
  | inside {p q : Query} : p.form = q.form → (∀ x ∈ p.parts.zip q.parts, Regrouped x.1 x.2) →
      Regrouped p q
  | symm {p q : Query} : Regrouped p q → Regrouped q p
  | trans {p q r : Query} : Regrouped p q → Regrouped q r → Regrouped p r

namespace Regrouped

variable {p q : Query}

theorem refl (q : Query) : Regrouped q q := by
  induction q using parts_induction with
  | step q ih =>
      exact .inside rfl fun x hx => (List.forall₂_iff_zip.1 (List.forall₂_same.2 ih)).2 hx

/-- Queries that differ only in the grouping of alternatives have the same results. -/
theorem eval_eq (h : Regrouped p q) : p.eval = q.eval := by
  induction h with
  | group a b c =>
      funext v
      simp only [eval_alternative, orElse_assoc]
  | @inside p q hform _ ih =>
      have hparts : List.Forall₂ (fun a b => a.eval = b.eval) p.parts q.parts :=
        List.forall₂_iff_zip.2 ⟨length_parts_of_form_eq hform, fun hx => ih _ hx⟩
      -- equal in pairs, so the two lists of meanings are equal
      refine eval_congr hform ?_
      rwa [← List.forall₂_eq_eq_eq, List.forall₂_map_left_iff, List.forall₂_map_right_iff]
  | symm _ ih => exact ih.symm
  | trans _ _ ih ih' => exact ih.trans ih'

end Regrouped

def groupedLeft (first : Query) (more : List Query) : Query :=
  more.foldl .alternative first

def groupedRight (first : Query) : List Query → Query
  | [] => first
  | q :: more => .alternative first (groupedRight q more)

/-- The first two operands of a chain may be grouped. -/
theorem regrouped_groupedRight (first q : Query) (more : List Query) :
    Regrouped (groupedRight (.alternative first q) more) (groupedRight first (q :: more)) := by
  cases more with
  | nil => exact .refl _
  | cons r more => exact .group first q (groupedRight r more)

/-- The grouping to the left is a regrouping of the one to the right. -/
theorem regrouped_left_right (first : Query) (more : List Query) :
    Regrouped (groupedLeft first more) (groupedRight first more) := by
  induction more generalizing first with
  | nil => exact .refl first
  | cons q more ih =>
      -- the first two operands are one operand for the rest
      have hrest : Regrouped (groupedLeft (.alternative first q) more)
          (groupedRight (.alternative first q) more) := ih (.alternative first q)
      exact hrest.trans (regrouped_groupedRight first q more)

/-! ## Alternatives that are read -/

/-- Operands of alternatives, read from lexemes one after the other, and the lexemes left. -/
inductive Listed (stop : Nat) : List Lexeme → Query → List Query → List Lexeme → Prop where
  | last {fuel : Nat} {ls rest : List Lexeme} {q : Query} :
      parseLevel stop fuel .or ls = .ok (q, rest) → (∀ l ∈ rest.head?, l.token ≠ .alternative) →
      Listed stop ls q [] rest
  | more {fuel offset : Nat} {ls between rest : List Lexeme} {q first : Query}
      {more : List Query} :
      parseLevel stop fuel .or ls = .ok (q, ⟨.alternative, offset⟩ :: between) →
      Listed stop between first more rest → Listed stop ls q (first :: more) rest

section Reading

variable {stop fuel : Nat} {ls rest : List Lexeme} {q : Query}

theorem parseRest_alternative (stop fuel offset : Nat) (q : Query) (ls : List Lexeme) :
    parseRest stop (fuel + 1) .alternative q (⟨.alternative, offset⟩ :: ls) =
      parseLevel stop fuel .alternative ls >>= fun found =>
        .ok (.alternative q found.1, found.2) :=
  rfl

/-- Without `//` at the front there is nothing left to read at its level. -/
theorem parseRest_of_no_alternative (h : ∀ l ∈ ls.head?, l.token ≠ .alternative) :
    parseRest stop (fuel + 1) .alternative q ls = .ok (q, ls) := by
  cases ls with
  | nil => rfl
  | cons l ls =>
      have hnone : Level.alternative.operator? l.token = none := by
        cases ht : l.token with
        | alternative => exact absurd ht (h l rfl)
        | _ => rfl
      rw [parseRest, hnone]

/-- What is read at the level of alternatives: one operand, or an operand and an alternative. -/
theorem parseLevel_alternative_eq_ok
    (h : parseLevel stop (fuel + 2) .alternative ls = .ok (q, rest)) :
    ∃ first after, parseLevel stop (fuel + 1) .or ls = .ok (first, after) ∧
      ((∀ l ∈ after.head?, l.token ≠ .alternative) ∧ q = first ∧ rest = after ∨
        ∃ offset between p, after = ⟨.alternative, offset⟩ :: between ∧
          parseLevel stop fuel .alternative between = .ok (p, rest) ∧
            q = .alternative first p) := by
  rw [parseLevel_next (by decide)] at h
  rcases Except.bind_eq_ok_iff.1 h with ⟨⟨first, after⟩, hfirst, hrest⟩
  refine ⟨first, after, hfirst, ?_⟩
  -- the lexeme behind the operand decides
  by_cases hnone : ∀ l ∈ after.head?, l.token ≠ .alternative
  · rw [parseRest_of_no_alternative hnone] at hrest
    cases hrest
    exact .inl ⟨hnone, rfl, rfl⟩
  · cases after with
    | nil => exact absurd nofun hnone
    | cons l between =>
        rcases l with ⟨token, offset⟩
        obtain rfl : token = .alternative := by simpa using hnone
        rw [parseRest_alternative] at hrest
        rcases Except.bind_eq_ok_iff.1 hrest with ⟨⟨p, after⟩, hp, heq⟩
        cases heq
        exact .inr ⟨offset, between, p, rfl, hp, rfl⟩

/-- The grammar groups alternatives to the right. -/
theorem listed_of_parseLevel (h : parseLevel stop fuel .alternative ls = .ok (q, rest)) :
    ∃ first more, Listed stop ls first more rest ∧ q = groupedRight first more := by
  -- on the fuel, of which an operand and the operator behind it take two
  induction fuel using Nat.twoStepInduction generalizing ls q with
  | zero => cases h
  | one => cases h
  | more fuel ih =>
      rcases parseLevel_alternative_eq_ok h with
        ⟨first, after, hfirst, ⟨hnone, rfl, rfl⟩ | ⟨offset, between, p, rfl, hp, rfl⟩⟩
      · exact ⟨q, [], .last hfirst hnone, rfl⟩
      · rcases ih hp with ⟨second, more, hlisted, rfl⟩
        exact ⟨first, second :: more, .more hfirst hlisted, rfl⟩

end Reading

/-! ## Associativity -/

section Outcome

variable {a : Query} {v : Json}

/-- If the left side succeeds, its truthy results are the answer if there are any. -/
theorem eval_alternative_of_ok {ls : List Json} (ha : a.eval v = .ok ls) (b : Query) :
    (Query.alternative a b).eval v =
      if ls.any Json.isTruthy then .ok (ls.filter Json.isTruthy) else b.eval v := by
  rw [eval_alternative, ha]
  split
  · rename_i hany
    rcases List.any_eq_true.1 hany with ⟨l, hl, htrue⟩
    refine orElse_of_ne (fun hnil => ?_) _
    rw [offered_ok, Except.ok.injEq, List.filter_eq_nil_iff] at hnil
    exact hnil l hl htrue
  · rename_i hnone
    refine orElse_of_empty ?_ _
    rw [offered_ok, Except.ok.injEq, List.filter_eq_nil_iff]
    simpa using hnone

/-- If the left side fails, the right one counts, unless the failure ends the run. -/
theorem eval_alternative_of_error {e : Error} (ha : a.eval v = .error e) (b : Query) :
    (Query.alternative a b).eval v = if e.isFatal then .error e else b.eval v := by
  rw [eval_alternative, ha]
  cases he : e.isFatal with
  | true => exact (orElse_of_ne (by simp [offered_fatal he]) _).trans (offered_fatal he)
  | false => exact orElse_of_empty (offered_error he) _

end Outcome

/--
The two groupings of three alternatives have the same outcome. An alternative gives the true results
of its left side, and if the left side fails or none of its results is true, it has the outcome of
its right side; only an error that ends the whole run passes through. So alternatives can be grouped
in any way, at any depth of a query, and it cannot be observed that the grammar groups the operands
that it reads to the right.
-/
theorem eval_alternative_assoc :
    (∀ (a b c : Query) (v : Json),
      (Query.alternative (.alternative a b) c).eval v =
        (Query.alternative a (.alternative b c)).eval v) ∧
    (∀ (a b : Query) (v : Json) (ls : List Json), a.eval v = .ok ls →
      (Query.alternative a b).eval v =
        if ls.any Json.isTruthy then .ok (ls.filter Json.isTruthy) else b.eval v) ∧
    (∀ (a b : Query) (v : Json) (e : Error), a.eval v = .error e →
      (Query.alternative a b).eval v = if e.isFatal then .error e else b.eval v) ∧
    (∀ p q : Query, Regrouped p q → ∀ v, p.eval v = q.eval v) ∧
    ∀ (stop fuel : Nat) (ls rest : List Lexeme) (q : Query),
      parseLevel stop fuel .alternative ls = .ok (q, rest) →
      ∃ first more, Listed stop ls first more rest ∧ q = groupedRight first more ∧
        Regrouped (groupedLeft first more) q := by
  refine ⟨?_, ?_, ?_, ?_, ?_⟩
  · intro a b c v
    exact congrFun (Regrouped.group a b c).eval_eq v
  · intro a b v ls ha
    exact eval_alternative_of_ok ha b
  · intro a b v e ha
    exact eval_alternative_of_error ha b
  · intro p q h v
    exact congrFun h.eval_eq v
  · intro stop fuel ls rest q hparse
    rcases listed_of_parseLevel hparse with ⟨first, more, hlisted, rfl⟩
    exact ⟨first, more, hlisted, rfl, regrouped_left_right first more⟩

def falseResults : Json :=
  .array [.null, .bool false]

/-- The lexemes of `.k // .[] // .`. -/
def threeAlternatives : List Lexeme :=
  [⟨.field "k", 0⟩, ⟨.alternative, 3⟩, ⟨.dot, 6⟩, ⟨.leftBracket, 7⟩, ⟨.rightBracket, 8⟩,
    ⟨.alternative, 10⟩, ⟨.dot, 13⟩]

/-- The first alternative fails, the second one has false results only, and the last one counts. -/
theorem eval_alternative_assoc_of_falseResults :
    (Query.field .identity "k").eval falseResults = .error (.cannotIndex .array "\"k\"") ∧
      (Query.iterate .identity).eval falseResults = .ok [.null, .bool false] ∧
      parseLevel 14 40 .alternative threeAlternatives =
        .ok (.alternative (.field .identity "k") (.alternative (.iterate .identity) .identity),
          []) ∧
      (∃ first more, Listed 14 threeAlternatives first more [] ∧
        Query.alternative (.field .identity "k") (.alternative (.iterate .identity) .identity) =
          groupedRight first more) ∧
      (Query.array (some (.alternative (.alternative (.field .identity "k") (.iterate .identity))
        .identity))).eval falseResults = .ok [.array [falseResults]] := by
  rcases eval_alternative_assoc with ⟨_, hok, herror, hregrouped, hparsed⟩
  have hfield : (Query.field .identity "k").eval falseResults =
      .error (.cannotIndex .array "\"k\"") := by
    rfl
  have hitems : (Query.iterate .identity).eval falseResults = .ok [.null, .bool false] := by
    rfl
  have hparse : parseLevel 14 40 .alternative threeAlternatives =
      .ok (.alternative (.field .identity "k") (.alternative (.iterate .identity) .identity),
        []) := by
    rfl
  refine ⟨hfield, hitems, hparse, ?_, ?_⟩
  · rcases hparsed _ _ _ _ _ hparse with ⟨first, more, hlisted, heq, _⟩
    exact ⟨first, more, hlisted, heq⟩
  · have hinside : Regrouped
        (.array (some (.alternative (.alternative (.field .identity "k") (.iterate .identity))
          .identity)))
        (.array (some (.alternative (.field .identity "k")
          (.alternative (.iterate .identity) .identity)))) :=
      .inside rfl (by simpa [parts] using Regrouped.group _ _ _)
    rw [hregrouped _ _ hinside, eval, evalItems, herror _ _ _ _ hfield, hok _ _ _ _ hitems]
    rfl

end Query
end Gleaner
