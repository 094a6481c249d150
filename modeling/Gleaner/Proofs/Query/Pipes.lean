import Gleaner.Proofs.Query.Streams
/-!
# Pipes

A pipe runs its right part on each result of its left part, so pipes compose like functions from
values to streams. A stream ends with the first error, and so the order in which the parts run
decides which error that is; it does not decide whether there is one.

* `FailsAt` and `FailsAfter` are the errors of a function on values, and of a function on the
  results of another one;
* `SameOrFail` says that two streams are the same, or both fail with errors of given kinds;
* `staged` and `inTurn` are the two orders in which two functions can run on a list of values, and
  `sameOrFail_staged_inTurn` compares them;
* `eval_map` says that `map` iterates like a pipe in brackets;
* `eval_pipe_laws` puts this together.
-/

namespace Gleaner
namespace Query

/-! ## Errors -/

section Errors

variable {vs us : List Json} {f g : Json → Stream} {e : Error}

/-- An error of a function on one of some values. -/
def FailsAt (f : Json → Stream) (vs : List Json) (e : Error) : Prop :=
  ∃ v ∈ vs, f v = .error e

/-- An error of the second function on a result of the first one. -/
def FailsAfter (f g : Json → Stream) (vs : List Json) (e : Error) : Prop :=
  ∃ v ∈ vs, ∃ ws, f v = .ok ws ∧ FailsAt g ws e

theorem FailsAt.mono (h : FailsAt f us e) (hsub : us ⊆ vs) : FailsAt f vs e := by
  rcases h with ⟨u, hu, hfail⟩
  exact ⟨u, hsub hu, hfail⟩

theorem FailsAfter.mono (h : FailsAfter f g us e) (hsub : us ⊆ vs) : FailsAfter f g vs e := by
  rcases h with ⟨u, hu, hafter⟩
  exact ⟨u, hsub hu, hafter⟩

theorem failsAt_of_forEach (h : forEach vs f = .error e) : FailsAt f vs e := by
  rcases forEach_eq_error_iff.1 h with ⟨before, v, after, rfl, _, hv⟩
  exact ⟨v, by simp, hv⟩

end Errors

/-- Two streams are the same, their error included, or both fail, each with an error of its kind. -/
def SameOrFail (E E' : Error → Prop) (s s' : Stream) : Prop :=
  s = s' ∨ ∃ e e', s = .error e ∧ s' = .error e' ∧ E e ∧ E' e'

namespace SameOrFail

variable {E E' F F' : Error → Prop} {s s' : Stream}

/-- A change of the results keeps them the same, and the errors as they are. -/
theorem map (h : SameOrFail E E' s s') (g : List Json → List Json) :
    SameOrFail E E' (s.map g) (s'.map g) := by
  rcases h with rfl | ⟨e, e', rfl, rfl, he, he'⟩
  · exact .inl rfl
  · exact .inr ⟨e, e', rfl, rfl, he, he'⟩

/-- The errors of a failure may be described less closely. -/
theorem mono (h : SameOrFail E E' s s') (hE : ∀ e, E e → F e) (hE' : ∀ e, E' e → F' e) :
    SameOrFail F F' s s' := by
  rcases h with h | ⟨e, e', hs, hs', he, he'⟩
  · exact .inl h
  · exact .inr ⟨e, e', hs, hs', hE e he, hE' e' he'⟩

end SameOrFail

/-! ## Two functions in turn -/

section Stages

variable {v : Json} {vs ws xs : List Json} {f g : Json → Stream} {e e' : Error}

/-- The first function on all values, and then the second one on all results. -/
def staged (f g : Json → Stream) (vs : List Json) : Stream :=
  forEach vs f >>= fun ws => forEach ws g

def inTurn (f g : Json → Stream) (vs : List Json) : Stream :=
  forEach vs fun v => f v >>= fun ws => forEach ws g

theorem staged_cons_of_error (hv : f v = .error e) : staged f g (v :: vs) = .error e := by
  rw [staged, forEach_cons, hv]
  rfl

theorem inTurn_cons_of_error (hv : f v = .error e) : inTurn f g (v :: vs) = .error e := by
  rw [inTurn, forEach_cons, hv]
  rfl

theorem inTurn_cons_of_error_after (hv : f v = .ok ws) (hws : forEach ws g = .error e) :
    inTurn f g (v :: vs) = .error e := by
  rw [inTurn, forEach_cons, hv]
  exact congrArg (· >>= _) hws

theorem inTurn_cons_of_ok (hv : f v = .ok ws) (hws : forEach ws g = .ok xs) :
    inTurn f g (v :: vs) = (inTurn f g vs).map (xs ++ ·) := by
  rw [inTurn, forEach_cons, hv]
  exact congrArg (· >>= _) hws

/-- The results of the first value come before those of the others. -/
theorem staged_cons (hv : f v = .ok ws) :
    staged f g (v :: vs) = forEach vs f >>= fun us =>
      forEach ws g >>= fun xs => (forEach us g).map (xs ++ ·) := by
  simp only [← forEach_append]
  rw [staged, forEach_cons, hv]
  cases forEach vs f <;> rfl

theorem staged_cons_of_ok (hv : f v = .ok ws) (hws : forEach ws g = .ok xs) :
    staged f g (v :: vs) = (staged f g vs).map (xs ++ ·) := by
  rw [staged_cons hv, hws, staged]
  cases forEach vs f <;> rfl

/--
The two orders give the same stream, unless the first function fails on some value and the second
one on a result of another.
-/
theorem sameOrFail_staged_inTurn (f g : Json → Stream) (vs : List Json) :
    SameOrFail (FailsAt f vs) (FailsAfter f g vs) (staged f g vs) (inTurn f g vs) := by
  induction vs with
  | nil => exact .inl rfl
  | cons v vs ih =>
      have hsub : vs ⊆ v :: vs := List.subset_cons_self v vs
      cases hv : f v with
      | error e => exact .inl ((staged_cons_of_error hv).trans (inTurn_cons_of_error hv).symm)
      | ok ws =>
          cases hws : forEach ws g with
          | ok xs =>
              rw [staged_cons_of_ok hv hws, inTurn_cons_of_ok hv hws]
              have hrest := ih.map (xs ++ ·)
              exact hrest.mono (fun e he => he.mono hsub) fun e he => he.mono hsub
          | error e' =>
              rw [staged_cons hv, inTurn_cons_of_error_after hv hws, hws]
              cases hvs : forEach vs f with
              | ok us => exact .inl rfl
              | error e =>
                  -- the first function runs on the other values before the second one fails
                  have he : FailsAt f (v :: vs) e := (failsAt_of_forEach hvs).mono hsub
                  have he' : FailsAfter f g (v :: vs) e' :=
                    ⟨v, List.mem_cons_self, ws, hv, failsAt_of_forEach hws⟩
                  exact .inr ⟨e, e', rfl, rfl, he, he'⟩

end Stages

/-! ## Queries -/

section Queries

variable (a b c : Query) (v : Json)

theorem eval_pipe_identity_left : (Query.pipe .identity a).eval v = a.eval v :=
  forEach_singleton v a.eval

/-- Piping into the identity changes nothing. -/
theorem eval_pipe_identity_right : (Query.pipe a .identity).eval v = a.eval v := by
  rw [eval_pipe]
  cases a.eval v with
  | error e => rfl
  | ok us =>
      have hsingle : forEach us (Query.identity).eval = .ok (us.flatMap fun u => [u]) :=
        forEach_eq_ok fun u _ => rfl
      exact hsingle.trans (congrArg Except.ok (List.flatMap_singleton' us))

theorem eval_pipe_pipe_left :
    (Query.pipe (.pipe a b) c).eval v = a.eval v >>= staged b.eval c.eval := by
  rw [eval_pipe, eval_pipe]
  cases a.eval v <;> rfl

theorem eval_pipe_pipe_right :
    (Query.pipe a (.pipe b c)).eval v = a.eval v >>= inTurn b.eval c.eval :=
  rfl

theorem eval_comma_of_ok {us : List Json} (ha : a.eval v = .ok us) :
    (Query.comma a b).eval v = (b.eval v).map (us ++ ·) := by
  rw [eval, ha]
  rfl

theorem eval_comma_of_error {e : Error} (ha : a.eval v = .error e) :
    (Query.comma a b).eval v = .error e := by
  rw [eval, ha]
  rfl

theorem eval_pipe_of_ok {us : List Json} (ha : a.eval v = .ok us) :
    (Query.pipe a c).eval v = forEach us c.eval := by
  rw [eval_pipe, ha]
  rfl

theorem eval_pipe_of_error {e : Error} (ha : a.eval v = .error e) :
    (Query.pipe a c).eval v = .error e := by
  rw [eval_pipe, ha]
  rfl

/-- A pipe out of both parts of a comma, and a comma of pipes. -/
theorem sameOrFail_comma :
    SameOrFail (fun e => b.eval v = .error e)
      (fun e => ∃ us, a.eval v = .ok us ∧ FailsAt c.eval us e)
      ((Query.pipe (.comma a b) c).eval v) ((Query.comma (.pipe a c) (.pipe b c)).eval v) := by
  cases ha : a.eval v with
  | error e =>
      rw [eval_pipe_of_error _ c v (eval_comma_of_error a b v ha),
        eval_comma_of_error _ _ v (eval_pipe_of_error a c v ha)]
      exact .inl rfl
  | ok us =>
      have hpipe := eval_pipe_of_ok a c v ha
      have hcomma := eval_comma_of_ok a b v ha
      cases hb : b.eval v with
      | ok ws =>
          -- both parts have results, so the pipe runs on one list after the other either way
          rw [hb] at hcomma
          rw [eval_pipe_of_ok _ c v hcomma, forEach_append, ← hpipe, ← eval_pipe_of_ok b c v hb]
          exact .inl rfl
      | error e =>
          rw [hb] at hcomma
          rw [eval_pipe_of_error _ c v hcomma]
          cases hus : forEach us c.eval with
          | ok xs =>
              rw [eval_comma_of_ok _ _ v (hpipe.trans hus), eval_pipe_of_error b c v hb]
              exact .inl rfl
          | error e' =>
              -- the second part of the comma fails before the pipe runs, or is not reached
              rw [eval_comma_of_error _ _ v (hpipe.trans hus)]
              exact .inr ⟨e, e', rfl, rfl, rfl, us, rfl, failsAt_of_forEach hus⟩

/-- The two groupings of two pipes. -/
theorem sameOrFail_pipe :
    SameOrFail (fun e => ∃ us, a.eval v = .ok us ∧ FailsAt b.eval us e)
      (fun e => ∃ us, a.eval v = .ok us ∧ FailsAfter b.eval c.eval us e)
      ((Query.pipe (.pipe a b) c).eval v) ((Query.pipe a (.pipe b c)).eval v) := by
  rw [eval_pipe_pipe_left, eval_pipe_pipe_right]
  cases a.eval v with
  | error e => exact .inl rfl
  | ok us =>
      exact (sameOrFail_staged_inTurn b.eval c.eval us).mono (fun e he => ⟨us, rfl, he⟩)
        fun e he => ⟨us, rfl, he⟩

/-- Mapping is a pipe from the items to the function, in brackets. -/
theorem eval_map :
    (Query.call .map [a]).eval v = (Query.array (some (.pipe (.iterate .identity) a))).eval v := by
  have hitems : (Query.iterate .identity).eval v = children v := forEach_singleton v children
  calc
    (Query.call .map [a]).eval v =
        (children v >>= fun us => forEach us a.eval).map fun ws => [.array ws] := by
      rw [eval_unary, applyUnary]
      cases children v with
      | error e => rfl
      | ok us => cases hus : forEach us a.eval <;> simp [hus, bind, Except.bind, Except.map]
    _ = _ := by
      rw [eval, evalItems, eval_pipe, hitems]

end Queries

/--
A pipe gives the results of its right part on each result of its left part, in order. The input is
its unit on both sides. The two groupings of two pipes give the same stream or both fail, and so do
a pipe out of a comma and the comma of the pipes. Where both fail, it is with the same error, unless
two parts fail: then the error of the one that is run first counts, that of the query in the middle
on the left side and that of the last query on the right side. An error that ends the whole run is
one of them. Mapping is, its error included, the array of the results of a pipe from the items.
-/
theorem eval_pipe_laws :
    (∀ (a : Query) (v : Json), (Query.pipe .identity a).eval v = a.eval v ∧
      (Query.pipe a .identity).eval v = a.eval v) ∧
    (∀ (a b c : Query) (v : Json),
      SameOrFail (fun e => ∃ us, a.eval v = .ok us ∧ FailsAt b.eval us e)
        (fun e => ∃ us, a.eval v = .ok us ∧ FailsAfter b.eval c.eval us e)
        ((Query.pipe (.pipe a b) c).eval v) ((Query.pipe a (.pipe b c)).eval v)) ∧
    (∀ (a b c : Query) (v : Json),
      SameOrFail (fun e => b.eval v = .error e)
        (fun e => ∃ us, a.eval v = .ok us ∧ FailsAt c.eval us e)
        ((Query.pipe (.comma a b) c).eval v) ((Query.comma (.pipe a c) (.pipe b c)).eval v)) ∧
    (∀ (f : Query) (v : Json),
      (Query.call .map [f]).eval v =
        (Query.array (some (.pipe (.iterate .identity) f))).eval v) ∧
    ∀ (a b : Query) (v : Json) (us : List Json) (g : Json → List Json), a.eval v = .ok us →
      (∀ u ∈ us, b.eval u = .ok (g u)) → (Query.pipe a b).eval v = .ok (us.flatMap g) := by
  refine ⟨?_, sameOrFail_pipe, sameOrFail_comma, eval_map, ?_⟩
  · intro a v
    exact ⟨eval_pipe_identity_left a v, eval_pipe_identity_right a v⟩
  · intro a b v us g ha hb
    rw [eval_pipe_of_ok a b v ha]
    exact forEach_eq_ok hb

/-- Where two parts fail, the grouping decides which error it is. -/
example :
    (Query.pipe (.pipe (.iterate .identity) (.iterate .identity)) (.field .identity "k")).eval
        (.array [.array [.bool true], .bool true]) = .error (.cannotIterate .boolean) ∧
      (Query.pipe (.iterate .identity) (.pipe (.iterate .identity) (.field .identity "k"))).eval
        (.array [.array [.bool true], .bool true]) = .error (.cannotIndex .boolean "\"k\"") := by
  exact ⟨rfl, rfl⟩

def nestedLists : Json :=
  .array [.array [.ofNat 1], .array [.ofNat 2, .null]]

/-- Iterating twice over nested lists. -/
theorem eval_pipe_laws_of_nestedLists :
    (Query.iterate .identity).eval nestedLists =
        .ok [.array [.ofNat 1], .array [.ofNat 2, .null]] ∧
      (∀ u ∈ [Json.array [.ofNat 1], .array [.ofNat 2, .null]],
        (Query.iterate .identity).eval u = .ok (u.array?.getD [])) ∧
      (Query.pipe (.iterate .identity) (.iterate .identity)).eval nestedLists =
        .ok [.ofNat 1, .ofNat 2, .null] := by
  rcases eval_pipe_laws with ⟨_, _, _, _, hcompose⟩
  have hlists : (Query.iterate .identity).eval nestedLists =
      .ok [.array [.ofNat 1], .array [.ofNat 2, .null]] := by
    rfl
  have hitems : ∀ u ∈ [Json.array [.ofNat 1], .array [.ofNat 2, .null]],
      (Query.iterate .identity).eval u = .ok (u.array?.getD []) := by
    intro u hu
    rcases List.mem_pair.1 hu with rfl | rfl <;> rfl
  exact ⟨hlists, hitems, hcompose _ _ _ _ _ hlists hitems⟩

end Query
end Gleaner
