import Gleaner.Document
import Gleaner.Proofs.Query.Streams
/-!
# The rows of a list

A root that selects one list means its items. So the list itself and its iterated form select the
same rows, as long as the results of the iteration are not taken for a list themselves.

* `Document.rowsOfResults_eq_self_iff`: which results stand for themselves;
* `Query.eval_iterate_of_list`: what the iteration of a list gives;
* `Document.rows_of_iterated_list` compares the two roots on every document.
-/

namespace Gleaner

namespace Query

/-- The results of an iteration over one list are its items. -/
theorem eval_iterate_of_list {q : Query} {v : Json} {items : List Json}
    (h : q.eval v = .ok [.array items]) : (Query.iterate q).eval v = .ok items := by
  rw [eval, h]
  exact forEach_singleton (.array items) children

end Query

namespace Document

/-- Results stand for themselves, unless they are one null or one list. -/
theorem rowsOfResults_eq_self_iff (vs : List Json) :
    rowsOfResults vs = vs ↔ vs ≠ [.null] ∧ ∀ inner, vs ≠ [.array inner] := by
  constructor
  · intro h
    refine ⟨?_, ?_⟩
    · rintro rfl
      cases h
    · rintro inner rfl
      -- no list is its own single item
      have hself : inner = [.array inner] := h
      have hsize := congrArg sizeOf hself
      simp at hsize
      omega
  -- the two results that mean something else are excluded, so the last case is left
  · rintro ⟨hnull, hlist⟩
    unfold rowsOfResults
    split
    · rename_i inner
      exact absurd rfl (hlist inner)
    · exact absurd rfl hnull
    · rfl

/-- Rows are told apart by their values. -/
theorem map_json_injective : Function.Injective (List.map Row.json) := by
  refine List.map_injective_iff.2 ?_
  intro v w h
  cases h
  rfl

/-- The rows of a document are what the results of its root mean. -/
theorem rows_of_eval {root : String} {q : Query} {v : Json} {vs : List Json}
    (hread : Query.read root = .ok q) (heval : q.eval v = .ok vs) :
    (json v).rows root = .ok ((rowsOfResults vs).map .json) := by
  rw [rows, selected, hread]
  show ((q.eval v).mapError Expression.Error.query >>= _).mapError _ = _
  rw [heval]
  rfl

/--
A root that selects one list selects a row for each of its items, in order. The root that iterates
over it selects the same rows exactly when the list is not one null or one list. One null gives it
no row, and of one list inside it selects the items.
-/
theorem rows_of_iterated_list {root itemsRoot : String} {q : Query} {v : Json} {items : List Json}
    (hroot : Query.read root = .ok q) (hitems : Query.read itemsRoot = .ok (.iterate q))
    (hlist : q.eval v = .ok [.array items]) :
    (json v).rows root = .ok (items.map .json) ∧
    ((json v).rows itemsRoot = .ok (items.map .json) ↔
      items ≠ [.null] ∧ ∀ inner, items ≠ [.array inner]) ∧
    (items = [.null] → (json v).rows itemsRoot = .ok []) ∧
    ∀ inner, items = [.array inner] → (json v).rows itemsRoot = .ok (inner.map .json) := by
  have hwhole : (json v).rows root = .ok (items.map .json) := rows_of_eval hroot hlist
  have hiterated : (json v).rows itemsRoot = .ok ((rowsOfResults items).map .json) :=
    rows_of_eval hitems (Query.eval_iterate_of_list hlist)
  refine ⟨hwhole, ?_, ?_, ?_⟩
  · rw [hiterated, Except.ok.injEq, map_json_injective.eq_iff]
    exact rowsOfResults_eq_self_iff items
  · rintro rfl
    exact hiterated
  · rintro inner rfl
    exact hiterated

/-- A list of staff lists: of each town, but there is only one. -/
def staffOfTown : Json :=
  .array [.array [.string "Ana", .string "Bo"]]

theorem read_whole : Query.read "." = .ok .identity := by
  cbv

theorem read_items : Query.read "$[*]" = .ok (.iterate .identity) := by
  cbv

/-- A list gives its items as rows, whether it is selected as a whole or iterated. -/
theorem rows_of_iterated_list_of_staff :
    Query.read "." = .ok .identity ∧ Query.read "$[*]" = .ok (.iterate .identity) ∧
    Query.identity.eval staffOfTown = .ok [staffOfTown] ∧
    (json staffOfTown).rows "." = .ok [.json (.array [.string "Ana", .string "Bo"])] ∧
    (json staffOfTown).rows "$[*]" = .ok [.json (.string "Ana"), .json (.string "Bo")] := by
  have hlist : Query.identity.eval staffOfTown = .ok [staffOfTown] := rfl
  have hrows := rows_of_iterated_list read_whole read_items hlist
  exact ⟨read_whole, read_items, hlist, hrows.1, hrows.2.2.2 _ rfl⟩

/-- The iteration over a list does not always select its items. -/
theorem not_rows_of_lone_list :
    ¬ ∀ (root itemsRoot : String) (q : Query) (v : Json) (items : List Json),
      Query.read root = .ok q → Query.read itemsRoot = .ok (.iterate q) →
        q.eval v = .ok [.array items] →
          (json v).rows root = .ok (items.map .json) ∧
            (json v).rows itemsRoot = .ok (items.map .json) := by
  intro h
  have hboth := h "." "$[*]" .identity staffOfTown _ read_whole read_items rfl
  -- the one result of the iteration is a list, so its items are taken for the rows
  have hrows : (json staffOfTown).rows "$[*]" = .ok [.json (.string "Ana"), .json (.string "Bo")] :=
    rows_of_eval read_items (Query.eval_iterate_of_list rfl)
  rw [hrows] at hboth
  cases hboth.2

end Document
end Gleaner
