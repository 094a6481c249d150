import Gleaner.Text.Blank
/-!
# Texts without blanks at their ends

* `Bare` texts have no blank at either end, and `bare_trim` says that trimming gives such a text;
* `trim_eq_self_iff`: these are the texts that trimming keeps.
-/

namespace Gleaner
namespace Text

/-- A text without a blank at either end. -/
structure Bare (cs : List Char) : Prop where
  head : ∀ c ∈ cs.head?, isBlank c = false
  last : ∀ c ∈ cs.getLast?, isBlank c = false

/-- No blank is left at the front. -/
theorem not_blank_of_mem_head?_dropWhile {cs : List Char} :
    ∀ c ∈ (cs.dropWhile isBlank).head?, isBlank c = false := by
  intro c hc
  have h := List.head?_dropWhile_not isBlank cs
  rwa [Option.mem_def.1 hc] at h

theorem dropWhile_eq_self {cs : List Char} (h : ∀ c ∈ cs.head?, isBlank c = false) :
    cs.dropWhile isBlank = cs := by
  cases cs with
  | nil => rfl
  | cons c cs => exact List.dropWhile_cons_of_neg (by simp [h c rfl])

theorem trimEnd_prefix (cs : List Char) : trimEnd cs <+: cs := by
  have h := (List.dropWhile_suffix isBlank (l := cs.reverse)).reverse
  rwa [List.reverse_reverse] at h

/-- A trimmed text has no blank at either end. -/
theorem bare_trim (cs : List Char) : Bare (trim cs) where
  head c hc := by
    -- what is left after trimming the end begins as before
    rcases trimEnd_prefix (trimStart cs) with ⟨back, hback⟩
    suffices h : (trimStart cs).head? = some c from not_blank_of_mem_head?_dropWhile c h
    rw [← hback, List.head?_append, ← trim, Option.mem_def.1 hc]
    rfl
  last c hc := by
    rw [trim, trimEnd, List.getLast?_reverse] at hc
    exact not_blank_of_mem_head?_dropWhile c hc

/-- Trimming changes nothing exactly if no blank stands at either end. -/
theorem trim_eq_self_iff {cs : List Char} : trim cs = cs ↔ Bare cs := by
  constructor
  · intro h
    rw [← h]
    exact bare_trim cs
  · intro h
    have hlast : ∀ c ∈ cs.reverse.head?, isBlank c = false := by
      rw [List.head?_reverse]
      exact h.last
    rw [trim, trimStart, dropWhile_eq_self h.head, trimEnd, dropWhile_eq_self hlast,
      List.reverse_reverse]

end Text
end Gleaner
