import Gleaner.Text.Cut
/-!
# Text that occurs in text

The search for a part of a text compares it with every place of the text, from left to right.

* `dropPrefix?_eq_some_iff`: a beginning is removed exactly where the text has it;
* `occursIn_iff`: a text occurs in the texts that have it as an infix, and in no others.
-/

namespace Gleaner
namespace Text

variable {part cs : List Char}

/-- A prefix is dropped exactly if the text begins with it. -/
theorem dropPrefix?_eq_some_iff {rest : List Char} :
    dropPrefix? part cs = some rest ↔ cs = part ++ rest := by
  induction part generalizing cs with
  | nil => simp [dropPrefix?]
  | cons p part ih =>
      cases cs with
      | nil => simp [dropPrefix?]
      | cons c cs =>
          by_cases h : p = c
          · simp [dropPrefix?, h, ih]
          · simp [dropPrefix?, h, Ne.symm h]

theorem dropPrefix?_isSome_iff : (dropPrefix? part cs).isSome ↔ part <+: cs := by
  rw [Option.isSome_iff_exists]
  constructor
  · rintro ⟨rest, h⟩
    exact ⟨rest, (dropPrefix?_eq_some_iff.1 h).symm⟩
  · rintro ⟨rest, h⟩
    exact ⟨rest, dropPrefix?_eq_some_iff.2 h.symm⟩

/-- A text occurs in the texts that have it as an infix, and in no others. -/
theorem occursIn_iff : occursIn part cs = true ↔ part <:+: cs := by
  unfold occursIn
  induction cs with
  | nil => simp [cutAt?]
  | cons c cs ih =>
      -- the text begins with the part, or else the part is found later
      have hfront := @dropPrefix?_isSome_iff part (c :: cs)
      rw [List.infix_cons_iff, ← ih, ← hfront, cutAt?]
      cases dropPrefix? part (c :: cs) with
      | some rest => simp
      | none => simp

theorem contains_iff {s part : String} : contains s part = true ↔ part.toList <:+: s.toList :=
  occursIn_iff

end Text
end Gleaner
