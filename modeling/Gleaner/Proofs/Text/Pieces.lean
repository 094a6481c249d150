import Gleaner.Proofs.Text.Ends
import Mathlib
/-!
# The parts of a text between separators

A text is cut at the occurrences of a separator, from left to right. A part ends where the first
occurrence begins, and the next part begins where that occurrence ends, so nothing is cut at an
occurrence that overlaps one before it.

* `LeftmostParts sep cs parts` says that `parts` are cut from `cs` in this way;
* `leftmostParts_piecesFrom`: these are the parts that a text is cut into;
* `intercalate_pieces`: with the separator between them, the parts are the text again;
* `infix_of_mem_pieces`, `not_infix_of_mem_pieces`: each part stands in the text, and none has the
  separator inside;
* `linesOf_closed`: lines that are written one after another, each with a line feed, are read again.
-/

namespace Gleaner
namespace Text

variable {sep held cs : List Char} {parts : List (List Char)}

/-! ## The relation -/

/-- No occurrence of `sep` in `cs` begins before the position `n`. -/
def NoneBefore (sep cs : List Char) (n : Nat) : Prop :=
  ∀ i < n, ¬ sep <+: cs.drop i

/-- The parts of a text, each but the last one up to the first occurrence of the separator. -/
inductive LeftmostParts (sep : List Char) : List Char → List (List Char) → Prop where
  | last {part : List Char} : NoneBefore sep part part.length → LeftmostParts sep part [part]
  | cut {part rest : List Char} {parts : List (List Char)} :
      NoneBefore sep (part ++ sep ++ rest) part.length → LeftmostParts sep rest parts →
      LeftmostParts sep (part ++ sep ++ rest) (part :: parts)

theorem noneBefore_zero (cs : List Char) : NoneBefore sep cs 0 :=
  fun i hi => absurd hi (Nat.not_lt_zero i)

/-- A text in which no occurrence begins holds none, whatever follows it. -/
theorem NoneBefore.not_occurs {part after : List Char} (hsep : sep ≠ [])
    (h : NoneBefore sep (part ++ after) part.length) : ¬ sep <:+: part := by
  rintro ⟨front, back, rfl⟩
  have hpos : 0 < sep.length := List.length_pos_iff.2 hsep
  refine h front.length (by simp only [List.length_append]; omega) ⟨back ++ after, ?_⟩
  simp

/-- If none begins at the next character either, that character joins what is held back. -/
theorem NoneBefore.hold {c : Char} (h : NoneBefore sep (held.reverse ++ c :: cs) held.length)
    (hmissed : ¬ sep <+: c :: cs) :
    NoneBefore sep ((c :: held).reverse ++ cs) (c :: held).length := by
  intro i hi
  rw [List.reverse_cons, List.append_assoc, List.singleton_append]
  rcases Nat.lt_succ_iff_lt_or_eq.1 hi with hi | rfl
  · exact h i hi
  · rwa [← List.length_reverse, List.drop_left]

namespace LeftmostParts

theorem ne_nil (h : LeftmostParts sep cs parts) : parts ≠ [] := by
  cases h <;> exact List.cons_ne_nil _ _

/-- With the separator between them, the parts are the text. -/
theorem intercalate_eq (h : LeftmostParts sep cs parts) : sep.intercalate parts = cs := by
  induction h with
  | last _ => exact List.intercalate_singleton
  | cut _ hrest ih => rw [List.intercalate_cons_of_ne_nil hrest.ne_nil, ih]

/-- The separator occurs in none of the parts. -/
theorem not_occurs (h : LeftmostParts sep cs parts) (hsep : sep ≠ []) :
    ∀ part ∈ parts, ¬ sep <:+: part := by
  induction h with
  | @last part hnone =>
      have hwhole : NoneBefore sep (part ++ []) part.length := by rwa [List.append_nil]
      exact List.forall_mem_singleton.2 (hwhole.not_occurs hsep)
  | cut hnone _ ih =>
      rw [List.append_assoc] at hnone
      exact List.forall_mem_cons.2 ⟨hnone.not_occurs hsep, ih⟩

end LeftmostParts

/-! ## Cutting -/

/--
Cutting goes on behind a separator that is being passed. What is held back is a part without an
occurrence so far.
-/
theorem leftmostParts_piecesFrom {skip : Nat} (hsep : sep ≠ [])
    (h : NoneBefore sep (held.reverse ++ cs.drop skip) held.length) :
    LeftmostParts sep (held.reverse ++ cs.drop skip) (piecesFrom sep held skip cs) := by
  induction cs generalizing held skip with
  | nil =>
      rw [List.drop_nil, List.append_nil] at h ⊢
      rw [← List.length_reverse] at h
      exact .last h
  | cons c cs ih =>
      cases skip with
      | succ skip => exact ih h
      | zero =>
          rw [List.drop_zero] at h ⊢
          rw [piecesFrom]
          split
          · rename_i hfound
            rcases dropPrefix?_isSome_iff.1 hfound with ⟨rest, hrest⟩
            -- the first character of the occurrence is read already, the others are passed
            have hpassed : cs.drop (sep.length - 1) = rest := by
              have hdrop := congrArg (List.drop sep.length) hrest
              rw [List.drop_left, ← Nat.sub_add_cancel (List.length_pos_iff.2 hsep),
                List.drop_succ_cons] at hdrop
              exact hdrop.symm
            have hparts := @ih [] (sep.length - 1) (noneBefore_zero _)
            rw [List.reverse_nil, List.nil_append, hpassed] at hparts
            rw [← hrest, ← List.append_assoc, ← List.length_reverse] at h
            rw [← hrest, ← List.append_assoc]
            exact .cut h hparts
          · rename_i hmissed
            have hnone := h.hold fun hfound => hmissed (dropPrefix?_isSome_iff.2 hfound)
            have hparts := @ih (c :: held) 0 hnone
            rwa [List.reverse_cons, List.append_assoc, List.singleton_append,
              List.drop_zero] at hparts

theorem leftmostParts_pieces (hsep : sep ≠ []) (cs : List Char) :
    LeftmostParts sep cs (pieces sep cs) := by
  rw [pieces, if_neg (by simpa using hsep)]
  exact @leftmostParts_piecesFrom sep [] cs 0 hsep (noneBefore_zero _)

/-- Characters as pieces, with an empty one behind them, make up the text. -/
theorem intercalate_chars (cs : List Char) :
    List.intercalate [] (cs.map (fun c => [c]) ++ [[]]) = cs := by
  induction cs with
  | nil => rfl
  | cons c cs ih =>
      rw [List.map_cons, List.cons_append, List.intercalate_cons_of_ne_nil (by simp), ih]
      rfl

/-- With the separator between them, the parts of a text are the text; it may be empty. -/
theorem intercalate_pieces (sep cs : List Char) : sep.intercalate (pieces sep cs) = cs := by
  by_cases hsep : sep = []
  · rw [hsep, pieces, if_pos (by rfl), List.cons_append,
      List.intercalate_cons_of_ne_nil (by simp), intercalate_chars]
    rfl
  · exact (leftmostParts_pieces hsep cs).intercalate_eq

/-- Each part occurs in the joined text. -/
theorem infix_intercalate {part : List Char} (h : part ∈ parts) :
    part <:+: sep.intercalate parts := by
  induction parts with
  | nil => cases h
  | cons p parts ih =>
      by_cases hnil : parts = []
      · rw [hnil, List.mem_singleton] at h
        rw [hnil, h, List.intercalate_singleton]
      · rw [List.intercalate_cons_of_ne_nil hnil]
        rcases List.mem_cons.1 h with rfl | hmem
        · rw [List.append_assoc]
          exact (List.prefix_append part _).isInfix
        · exact (ih hmem).trans (List.suffix_append _ _).isInfix

theorem infix_of_mem_pieces {part : List Char} (h : part ∈ pieces sep cs) : part <:+: cs := by
  have hinfix := @infix_intercalate sep _ part h
  rwa [intercalate_pieces] at hinfix

theorem not_infix_of_mem_pieces (hsep : sep ≠ []) {part : List Char} (h : part ∈ pieces sep cs) :
    ¬ sep <:+: part :=
  (leftmostParts_pieces hsep cs).not_occurs hsep part h

/-! ## Lines -/

theorem piecesFrom_ne_nil (held : List Char) (skip : Nat) (cs : List Char) :
    piecesFrom sep held skip cs ≠ [] := by
  fun_induction piecesFrom sep held skip cs with
  | case1 => exact List.cons_ne_nil _ _
  | case2 _ _ _ _ ih => exact ih
  | case3 => exact List.cons_ne_nil _ _
  | case4 _ _ _ _ ih => exact ih

/-- A part without the character that separates ends at the next one. -/
theorem piecesFrom_char {c : Char} {front : List Char} (h : c ∉ front) (held rest : List Char) :
    piecesFrom [c] held 0 (front ++ c :: rest) =
      (held.reverse ++ front) :: piecesFrom [c] [] 0 rest := by
  induction front generalizing held with
  | nil => simp [piecesFrom, dropPrefix?]
  | cons d front ih =>
      have hmissed : dropPrefix? [c] (d :: (front ++ c :: rest)) = none :=
        if_neg (List.ne_of_not_mem_cons h)
      rw [List.cons_append, piecesFrom, hmissed, if_neg (by decide),
        ih (List.not_mem_of_not_mem_cons h), List.reverse_cons, List.append_assoc,
        List.singleton_append]

/-- A line without a carriage return at its end is left as it is. -/
theorem withoutReturn_eq_self {line : List Char} (h : line.getLast? ≠ some '\r') :
    withoutReturn line = line := by
  unfold withoutReturn
  cases hdrop : dropSuffix? ['\r'] line with
  | none => rfl
  | some front =>
      rw [dropSuffix?_eq_some_iff.1 hdrop] at h
      exact absurd List.getLast?_concat h

/-- The first line of a text ends at the first line feed. -/
theorem linesOf_cons {line : List Char} (h : '\n' ∉ line) (rest : List Char) :
    linesOf (line ++ '\n' :: rest) = withoutReturn line :: linesOf rest := by
  have hparts : pieces ['\n'] (line ++ '\n' :: rest) = line :: pieces ['\n'] rest :=
    piecesFrom_char h [] rest
  have hne : pieces ['\n'] rest ≠ [] := piecesFrom_ne_nil [] 0 rest
  have hlast : (line :: pieces ['\n'] rest).getLast? = (pieces ['\n'] rest).getLast? :=
    List.getLast?_append_of_ne_nil [line] hne
  simp only [linesOf, hparts, List.dropLast_cons_of_ne_nil hne, hlast, List.map_cons]
  split <;> rfl

/-- Lines that are written with a line feed behind each are the lines of what is written. -/
theorem linesOf_closed {lines : List (List Char)}
    (h : ∀ line ∈ lines, '\n' ∉ line ∧ line.getLast? ≠ some '\r') :
    linesOf (lines.flatMap (· ++ ['\n'])) = lines := by
  induction lines with
  | nil => rfl
  | cons line lines ih =>
      obtain ⟨⟨hfeed, hreturn⟩, hlines⟩ := List.forall_mem_cons.1 h
      rw [List.flatMap_cons, List.append_assoc, List.singleton_append, linesOf_cons hfeed,
        withoutReturn_eq_self hreturn, ih hlines]

end Text
end Gleaner
