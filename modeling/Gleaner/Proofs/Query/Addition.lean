import Gleaner.Proofs.Json.Merging
import Gleaner.Proofs.Query.Errors
import Gleaner.Proofs.Query.Streams
/-!
# Addition of values that are no numbers

Strings, arrays and objects are added by joining them, null is the unit, and values of different
kinds are not added. So a sum can be taken in any grouping. This is not so of numbers, whose sums
are rounded.

* `Adds x y w` says that `w` is the sum of `x` and `y`; `Adds.assoc`: grouping does not matter;
* `Agree` says that two computations give the same value, or both fail;
* `sum_append_eq_ok_iff`: the sum of two lists is the sum of their sums;
* `addition_associative` puts this together for values and for the queries that add items.
-/

namespace Gleaner
namespace Query

/-! ## Sums of two values -/

/-- The sums of two values, except of two numbers. -/
inductive Adds : Json → Json → Json → Prop where
  | nullLeft (v : Json) : Adds .null v v
  | nullRight (v : Json) : Adds v .null v
  | strings (s t : String) : Adds (.string s) (.string t) (.string (s ++ t))
  | arrays (xs ys : List Json) : Adds (.array xs) (.array ys) (.array (xs ++ ys))
  | objects (ms ns : Members) :
      Adds (.object ms) (.object ns) (.object (Members.insertAll ms ns))

variable {x y z w : Json}

/-- A sum without numbers is no number. -/
theorem Adds.kind_ne (h : Adds x y w) (hx : x.kind ≠ .number) (hy : y.kind ≠ .number) :
    w.kind ≠ .number := by
  cases h with
  | nullLeft => exact hy
  | nullRight => exact hx
  | strings | arrays | objects => exact nofun

theorem combine_add_null (v : Json) :
    combine .add .null v = .ok v ∧ combine .add v .null = .ok v := by
  cases v <;> exact ⟨rfl, rfl⟩

/-- What addition gives, unless both operands are numbers, is described by `Adds`. -/
theorem combine_add_eq_ok_iff (h : x.kind ≠ .number ∨ y.kind ≠ .number) :
    combine .add x y = .ok w ↔ Adds x y w := by
  constructor
  · intro hsum
    unfold combine at hsum
    split at hsum
    · cases hsum
      exact .nullLeft _
    · cases hsum
      exact .nullRight _
    · exact (h.elim (fun hx => hx rfl) fun hy => hy rfl).elim
    · cases hsum
      exact .strings _ _
    · cases hsum
      exact .arrays _ _
    · cases hsum
      exact .objects _ _
    -- the other cases are about other operators, or fail
    all_goals contradiction
  · intro hadds
    cases hadds with
    | nullLeft => exact (combine_add_null _).1
    | nullRight => exact (combine_add_null _).2
    | strings | arrays | objects => rfl

/-- The grouping of three values does not matter; of an object in the middle no key is repeated. -/
theorem Adds.assoc (hy : y.WellFormed) :
    (∃ u, Adds x y u ∧ Adds u z w) ↔ ∃ u, Adds y z u ∧ Adds x u w := by
  constructor
  · rintro ⟨u, hxy, huz⟩
    cases hxy with
    | nullLeft => exact ⟨w, huz, .nullLeft w⟩
    | nullRight => exact ⟨z, .nullLeft z, huz⟩
    | strings s t =>
        cases huz with
        | nullRight => exact ⟨_, .nullRight _, .strings s t⟩
        | strings _ r =>
            rw [String.append_assoc]
            exact ⟨_, .strings t r, .strings s _⟩
    | arrays xs ys =>
        cases huz with
        | nullRight => exact ⟨_, .nullRight _, .arrays xs ys⟩
        | arrays _ zs =>
            rw [List.append_assoc]
            exact ⟨_, .arrays ys zs, .arrays xs _⟩
    | objects ms ns =>
        cases huz with
        | nullRight => exact ⟨_, .nullRight _, .objects ms ns⟩
        | objects _ ps =>
            -- the one case that is about the order of members
            rw [Members.insertAll_assoc hy.1]
            exact ⟨_, .objects ns ps, .objects ms _⟩
  · rintro ⟨u, hyz, hxu⟩
    cases hyz with
    | nullLeft => exact ⟨x, .nullRight x, hxu⟩
    | nullRight => exact ⟨w, hxu, .nullRight w⟩
    | strings t r =>
        cases hxu with
        | nullLeft => exact ⟨_, .nullLeft _, .strings t r⟩
        | strings s _ =>
            rw [← String.append_assoc]
            exact ⟨_, .strings s t, .strings _ r⟩
    | arrays ys zs =>
        cases hxu with
        | nullLeft => exact ⟨_, .nullLeft _, .arrays ys zs⟩
        | arrays xs _ =>
            rw [← List.append_assoc]
            exact ⟨_, .arrays xs ys, .arrays _ zs⟩
    | objects ns ps =>
        cases hxu with
        | nullLeft => exact ⟨_, .nullLeft _, .objects ns ps⟩
        | objects ms _ =>
            rw [← Members.insertAll_assoc hy.1]
            exact ⟨_, .objects ms ns, .objects _ ps⟩

/-- Grouping plays no part in a sum that succeeds, unless its operands are numbers. -/
theorem combine_add_assoc (hx : x.kind ≠ .number) (hy : y.kind ≠ .number) (hform : y.WellFormed) :
    (∃ u, combine .add x y = .ok u ∧ combine .add u z = .ok w) ↔
      ∃ u, combine .add y z = .ok u ∧ combine .add x u = .ok w := by
  calc
    _ ↔ ∃ u, Adds x y u ∧ Adds u z w := by
      refine exists_congr fun u => ?_
      rw [combine_add_eq_ok_iff (.inl hx)]
      exact and_congr_right fun hxy => combine_add_eq_ok_iff (.inl (hxy.kind_ne hx hy))
    _ ↔ ∃ u, Adds y z u ∧ Adds x u w := Adds.assoc hform
    _ ↔ _ := by simp only [combine_add_eq_ok_iff (.inl hx), combine_add_eq_ok_iff (.inl hy)]

/-! ## Sums of lists -/

variable {xs ys : List Json}

theorem sum_cons (y : Json) (ys : List Json) : sum (y :: ys) = ys.foldlM (combine .add) y := by
  rw [sum, List.foldlM_cons, (combine_add_null y).1]
  rfl

/-- A sum that starts from a value is that value and the sum of the items. -/
theorem foldlM_add_eq_ok_iff (hx : x.kind ≠ .number)
    (hys : ∀ y ∈ ys, y.kind ≠ .number ∧ y.WellFormed) :
    ys.foldlM (combine .add) x = .ok w ↔ ∃ t, sum ys = .ok t ∧ combine .add x t = .ok w := by
  induction ys generalizing x w with
  | nil =>
      have hnone : sum [] = .ok .null := rfl
      simp [hnone, (combine_add_null x).2, pure, Except.pure]
  | cons y ys ih =>
      rcases List.forall_mem_cons.1 hys with ⟨⟨hy, hform⟩, hrest⟩
      -- the items that are left are summed by themselves, then the first item is moved over to them
      calc
        (y :: ys).foldlM (combine .add) x = .ok w ↔
            ∃ u, combine .add x y = .ok u ∧ ys.foldlM (combine .add) u = .ok w := by
          rw [List.foldlM_cons, Except.bind_eq_ok_iff]
        _ ↔ ∃ u, combine .add x y = .ok u ∧ ∃ t, sum ys = .ok t ∧ combine .add u t = .ok w := by
          refine exists_congr fun u => and_congr_right fun hxy => ih ?_ hrest
          exact ((combine_add_eq_ok_iff (.inl hx)).1 hxy).kind_ne hx hy
        _ ↔ ∃ t, sum ys = .ok t ∧ ∃ u, combine .add x y = .ok u ∧ combine .add u t = .ok w := by
          simp only [← exists_and_left]
          rw [exists_comm]
          simp only [and_left_comm]
        _ ↔ ∃ t, sum ys = .ok t ∧ ∃ s, combine .add y t = .ok s ∧ combine .add x s = .ok w := by
          simp only [combine_add_assoc hx hy hform]
        _ ↔ ∃ s, (∃ t, sum ys = .ok t ∧ combine .add y t = .ok s) ∧ combine .add x s = .ok w := by
          simp only [← exists_and_left, ← exists_and_right]
          rw [exists_comm]
          simp only [and_assoc]
        _ ↔ ∃ s, sum (y :: ys) = .ok s ∧ combine .add x s = .ok w := by
          simp only [sum_cons, ih hy hrest]

/-- A sum of anything but numbers is no number. -/
theorem kind_ne_of_foldlM (hx : x.kind ≠ .number) (hys : ∀ y ∈ ys, y.kind ≠ .number)
    (h : ys.foldlM (combine .add) x = .ok w) : w.kind ≠ .number := by
  induction ys generalizing x with
  | nil =>
      cases h
      exact hx
  | cons y ys ih =>
      rcases List.forall_mem_cons.1 hys with ⟨hy, hrest⟩
      rw [List.foldlM_cons] at h
      rcases Except.bind_eq_ok_iff.1 h with ⟨u, hu, hsum⟩
      exact ih (((combine_add_eq_ok_iff (.inl hx)).1 hu).kind_ne hx hy) hrest hsum

/-- The sum of two lists is the sum of their sums. -/
theorem sum_append_eq_ok_iff (hxs : ∀ x ∈ xs, x.kind ≠ .number)
    (hys : ∀ y ∈ ys, y.kind ≠ .number ∧ y.WellFormed) :
    sum (xs ++ ys) = .ok w ↔
      ∃ s, sum xs = .ok s ∧ ∃ t, sum ys = .ok t ∧ combine .add s t = .ok w := by
  rw [sum, List.foldlM_append, Except.bind_eq_ok_iff]
  refine exists_congr fun s => and_congr_right fun hs => ?_
  have hnull : Json.null.kind ≠ .number := nofun
  exact foldlM_add_eq_ok_iff (kind_ne_of_foldlM hnull hxs hs) hys

/-! ## Agreement -/

/-- Two computations agree: they give the same value, or both fail in evaluation. -/
def Agree {α : Type} (a b : Except Error α) : Prop :=
  (∃ v, a = .ok v ∧ b = .ok v) ∨
    ∃ e e', a = .error e ∧ b = .error e' ∧ e.IsOfRun ∧ e'.IsOfRun

namespace Agree

variable {α β : Type} {a b : Except Error α}

/-- Runs agree if they succeed alike and fail only with errors of a run. -/
theorem of_ok_iff (ha : FailsOnly Error.IsOfRun a) (hb : FailsOnly Error.IsOfRun b)
    (h : ∀ v, a = .ok v ↔ b = .ok v) : Agree a b := by
  cases a with
  | ok v => exact .inl ⟨v, rfl, (h v).1 rfl⟩
  | error e =>
      cases b with
      | ok v => cases (h v).2 rfl
      | error e' => exact .inr ⟨e, e', rfl, rfl, ha e rfl, hb e' rfl⟩

theorem map (h : Agree a b) (f : α → β) : Agree (a.map f) (b.map f) := by
  rcases h with ⟨v, rfl, rfl⟩ | ⟨e, e', rfl, rfl, he, he'⟩
  · exact .inl ⟨f v, rfl, rfl⟩
  · exact .inr ⟨e, e', rfl, rfl, he, he'⟩

end Agree

/-- Grouping plays no part in a sum without numbers, failures included. -/
theorem agree_assoc (z : Json) (hx : x.kind ≠ .number) (hy : y.kind ≠ .number)
    (hform : y.WellFormed) :
    Agree (do combine .add (← combine .add x y) z) (do combine .add x (← combine .add y z)) := by
  refine .of_ok_iff ?_ ?_ fun w => ?_
  · exact .bind (combine_add_fails x y) fun u _ => combine_add_fails u z
  · exact .bind (combine_add_fails y z) fun u _ => combine_add_fails x u
  · rw [Except.bind_eq_ok_iff, Except.bind_eq_ok_iff]
    exact combine_add_assoc hx hy hform

/-- A sum over two lists in a row is the sum of their sums. -/
theorem agree_sum_append (hxs : ∀ x ∈ xs, x.kind ≠ .number)
    (hys : ∀ y ∈ ys, y.kind ≠ .number ∧ y.WellFormed) :
    Agree (sum (xs ++ ys)) (do combine .add (← sum xs) (← sum ys)) := by
  refine .of_ok_iff (sum_fails _) ?_ fun w => ?_
  · exact .bind (sum_fails xs) fun s _ => .bind (sum_fails ys) fun t _ => combine_add_fails s t
  · simp only [Except.bind_eq_ok_iff]
    exact sum_append_eq_ok_iff hxs hys

/-! ## Queries -/

theorem eval_add (items : List Json) :
    (Query.call .add []).eval (.array items) = (sum items).map ([·]) := by
  simp only [eval_nullary, applyNullary, itemsOf, bind, Except.bind]
  cases sum items <;> rfl

/-- The sum of the items of a query's one result. -/
theorem eval_pipe_add {q : Query} {v : Json} (hq : q.eval v = .ok [.array xs]) :
    (Query.pipe q (.call .add [])).eval v = (sum xs).map ([·]) := by
  rw [@eval_pipe_of_single _ _ (.ok (.array xs)) _ hq]
  exact eval_add xs

/--
Addition of values that are no numbers has null as its unit, and the grouping of the values does not
matter: two groupings give the same value, with the members of an object in the same order, or both
fail. So the items of two arrays, added in one go, are the sum of the items of the one added to the
sum of the items of the other.
-/
theorem addition_associative :
    (∀ v : Json, combine .add .null v = .ok v ∧ combine .add v .null = .ok v) ∧
    (∀ x y z : Json, x.kind ≠ .number → y.kind ≠ .number → y.WellFormed →
      Agree (do combine .add (← combine .add x y) z) (do combine .add x (← combine .add y z))) ∧
    ∀ (p q : Query) (v : Json) (xs ys : List Json), p.eval v = .ok [.array xs] →
      q.eval v = .ok [.array ys] → (∀ x ∈ xs ++ ys, x.kind ≠ .number) →
      (∀ y ∈ ys, y.WellFormed) →
      Agree ((Query.pipe (.arith .add p q) (.call .add [])).eval v)
        ((Query.arith .add (.pipe p (.call .add [])) (.pipe q (.call .add []))).eval v) := by
  refine ⟨combine_add_null, fun x y z hx hy hform => agree_assoc z hx hy hform, ?_⟩
  intro p q v xs ys hp hq hkinds hforms
  rcases List.forall_mem_append.1 hkinds with ⟨hxs, hys⟩
  have hwhole : (Query.arith .add p q).eval v = .ok [.array (xs ++ ys)] :=
    eval_arith_of_ok hp hq rfl
  rw [eval_pipe_add hwhole, eval_arith_of_single (eval_pipe_add hp) (eval_pipe_add hq)]
  exact (agree_sum_append hxs fun y hy => ⟨hys y hy, hforms y hy⟩).map _

def titledPage : Json :=
  .object [("title", .string "Notes"), ("page", .ofNat 1)]

def authoredPage : Json :=
  .object [("author", .string "Ana"), ("page", .ofNat 2)]

def untitled : Json :=
  .object [("title", .null)]

def drafts : Json :=
  .object [("first", .array [titledPage, .null]), ("later", .array [authoredPage, untitled])]

/-- Pages and a null are summed up with the same result in both groupings. -/
theorem addition_associative_of_drafts :
    (titledPage.kind ≠ .number ∧ authoredPage.kind ≠ .number ∧ authoredPage.WellFormed) ∧
      (Query.field .identity "first").eval drafts = .ok [.array [titledPage, .null]] ∧
      (Query.field .identity "later").eval drafts = .ok [.array [authoredPage, untitled]] ∧
      (∀ v ∈ [titledPage, .null] ++ [authoredPage, untitled], v.kind ≠ .number) ∧
      (∀ v ∈ [authoredPage, untitled], v.WellFormed) ∧
      Agree (do combine .add (← combine .add titledPage authoredPage) untitled)
        (do combine .add titledPage (← combine .add authoredPage untitled)) ∧
      Agree
        ((Query.pipe (.arith .add (.field .identity "first") (.field .identity "later"))
          (.call .add [])).eval drafts)
        ((Query.arith .add (.pipe (.field .identity "first") (.call .add []))
          (.pipe (.field .identity "later") (.call .add []))).eval drafts) := by
  rcases addition_associative with ⟨_, hgrouping, hitems⟩
  have hfirst : (Query.field .identity "first").eval drafts =
      .ok [.array [titledPage, .null]] := by
    rfl
  have hlater : (Query.field .identity "later").eval drafts =
      .ok [.array [authoredPage, untitled]] := by
    rfl
  have hkinds : ∀ v ∈ [titledPage, .null] ++ [authoredPage, untitled], v.kind ≠ .number := by
    decide
  have hauthored : authoredPage.WellFormed := by
    simp [authoredPage, Json.ofNat, Json.WellFormed, Json.MembersWellFormed, Members.keys]
  have huntitled : untitled.WellFormed := by
    simp [untitled, Json.WellFormed, Json.MembersWellFormed, Members.keys]
  have hforms : ∀ v ∈ [authoredPage, untitled], v.WellFormed :=
    List.forall_mem_cons.2 ⟨hauthored, List.forall_mem_singleton.2 huntitled⟩
  have htitledKind : titledPage.kind ≠ .number := by decide
  have hauthoredKind : authoredPage.kind ≠ .number := by decide
  exact ⟨⟨htitledKind, hauthoredKind, hauthored⟩, hfirst, hlater, hkinds, hforms,
    hgrouping titledPage authoredPage untitled htitledKind hauthoredKind hauthored,
    hitems _ _ drafts _ _ hfirst hlater hkinds hforms⟩

end Query
end Gleaner
