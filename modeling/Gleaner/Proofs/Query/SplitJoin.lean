import Gleaner.Proofs.Query.Streams
import Gleaner.Proofs.Text.Pieces
/-!
# Splitting and joining strings

A string is split at the occurrences of a separator, and strings are joined with a separator between
neighbours. The empty string has no parts.

* `textParts` are the strings that a string is split into;
* `joinWith_textParts`, `not_infix_of_mem_textParts`: joined they are the string again, and none of
  them has the separator inside;
* `join_undoes_split`: so a query that joins undoes one that splits.
-/

namespace Gleaner
namespace Query

/-! ## Strings -/

variable (s sep : String)

def textParts : List String :=
  if s.isEmpty then [] else (Text.pieces sep.toList s.toList).map String.ofList

/-- Splitting gives the list of the parts. -/
theorem splitText_eq : splitText s sep = .array ((textParts s sep).map .string) := by
  unfold splitText textParts
  split
  · rfl
  · rw [List.map_map]
    rfl

/-- Joining texts puts the separator between them. -/
theorem joinTexts_strings (parts : List String) :
    joinTexts sep (parts.map .string) = .ok (.string (Text.joinWith sep parts)) := by
  have hscalar : ∀ part ∈ parts, (scalarText ∘ Json.string) part = .ok (id part) :=
    fun part _ => rfl
  rw [joinTexts, List.mapM_map, Except.mapM_eq_ok hscalar, List.map_id]
  rfl

/-- Joining the parts with the separator gives the text again. -/
theorem joinWith_textParts : Text.joinWith sep (textParts s sep) = s := by
  rw [← String.toList_inj, Text.joinWith, String.toList_intercalate]
  unfold textParts
  split
  · rename_i hempty
    rw [String.isEmpty_iff.1 hempty]
    rfl
  · rw [List.map_map]
    have hchars : String.toList ∘ String.ofList = id := funext fun _ => String.toList_ofList
    rw [hchars, List.map_id, Text.intercalate_pieces]

/-- No part has the separator in it. -/
theorem not_infix_of_mem_textParts {s sep part : String} (hsep : sep ≠ "")
    (h : part ∈ textParts s sep) : ¬ sep.toList <:+: part.toList := by
  unfold textParts at h
  split at h
  · cases h
  · rcases List.mem_map.1 h with ⟨cs, hcs, rfl⟩
    rw [String.toList_ofList]
    exact Text.not_infix_of_mem_pieces (by simpa using hsep) hcs

/-! ## Queries -/

variable {s sep : String} {q : Query}

theorem eval_split (hq : firstResult (q.eval (.string s)) = .ok (.string sep)) :
    (Query.call .split [q]).eval (.string s) = .ok [splitText s sep] := by
  simp [eval_unary, applyUnary, textArgument, textInput, hq, bind, Except.bind]

theorem eval_join {items : List Json}
    (hq : firstResult (q.eval (.array items)) = .ok (.string sep)) :
    (Query.call .join [q]).eval (.array items) = (joinTexts sep items).map ([·]) := by
  simp only [eval_unary, applyUnary, textArgument, hq, itemsOf, bind, Except.bind]
  cases joinTexts sep items <;> rfl

/--
Joining undoes splitting. A string that is split at a separator gives strings, and these joined with
the separator are the string again; the string and the separator may be empty. Unless the separator
is empty, none of the strings has it inside. What the separator is, is said by the first result of a
query, in each of the two calls.
-/
theorem join_undoes_split (s sep : String) :
    ∃ parts : List String,
      (∀ q : Query, firstResult (q.eval (.string s)) = .ok (.string sep) →
        (Query.call .split [q]).eval (.string s) = .ok [.array (parts.map .string)]) ∧
      (∀ q : Query, firstResult (q.eval (.array (parts.map .string))) = .ok (.string sep) →
        (Query.call .join [q]).eval (.array (parts.map .string)) = .ok [.string s]) ∧
      (sep ≠ "" → ∀ part ∈ parts, ¬ sep.toList <:+: part.toList) := by
  refine ⟨textParts s sep, fun q hq => ?_, fun q hq => ?_, fun hsep part hpart => ?_⟩
  · rw [eval_split hq, splitText_eq]
  · rw [eval_join hq, joinTexts_strings, joinWith_textParts]
    rfl
  · exact not_infix_of_mem_textParts hsep hpart

/-- A separator of which two occurrences overlap. -/
theorem join_undoes_split_of_overlap :
    ∃ parts : List String,
      (Query.call .split [.literal (.string "aa")]).eval (.string "aaab") =
        .ok [.array (parts.map .string)] ∧
      (Query.call .join [.literal (.string "aa")]).eval (.array (parts.map .string)) =
        .ok [.string "aaab"] ∧
      ∀ part ∈ parts, ¬ "aa".toList <:+: part.toList := by
  rcases join_undoes_split "aaab" "aa" with ⟨parts, hsplit, hjoin, hinside⟩
  have hliteral (v : Json) :
      firstResult ((Query.literal (.string "aa")).eval v) = .ok (.string "aa") := by
    rfl
  exact ⟨parts, hsplit _ (hliteral _), hjoin _ (hliteral _), hinside (by decide)⟩

end Query
end Gleaner
