import Gleaner.Proofs.Text.Infix
/-!
# The ends of texts

Searching from the end of a text is searching its reverse from the beginning.

* `dropSuffix?_eq_some_iff`: an end is removed exactly where the text has it;
* `cutAt?_eq_some_iff`, `cutAtLast?_eq_some_iff`: a text is cut at the first and at the last of the
  occurrences of a separator, and `cutAt?_char` cuts it at a character;
* `cutAtLast?_eq_none_iff`: a text that is not cut has no occurrence.
-/

namespace Gleaner
namespace Text

variable {sep cs before after : List Char}

/-- A suffix is dropped exactly if the text ends in it. -/
theorem dropSuffix?_eq_some_iff {back front : List Char} :
    dropSuffix? back cs = some front ↔ cs = front ++ back := by
  rw [dropSuffix?, Option.map_eq_some_iff]
  constructor
  · rintro ⟨rest, hrest, rfl⟩
    have h := congrArg List.reverse (dropPrefix?_eq_some_iff.1 hrest)
    rwa [List.reverse_append, List.reverse_reverse, List.reverse_reverse] at h
  · rintro rfl
    exact ⟨front.reverse, dropPrefix?_eq_some_iff.2 List.reverse_append, List.reverse_reverse _⟩

/-- A text has only one last character. -/
theorem dropSuffix?_of_last_ne {back : List Char} {c d : Char} (hcs : cs.getLast? = some c)
    (hback : back.getLast? = some d) (h : c ≠ d) : dropSuffix? back cs = none := by
  cases hdrop : dropSuffix? back cs with
  | none => rfl
  | some front =>
      rw [dropSuffix?_eq_some_iff.1 hdrop, List.getLast?_append, hback] at hcs
      cases hcs
      exact absurd rfl h

/-- A text is cut at the first occurrence. -/
theorem cutAt?_eq_some_iff :
    cutAt? sep cs = some (before, after) ↔
      cs = before ++ sep ++ after ∧ ∀ b a, cs = b ++ sep ++ a → before.length ≤ b.length := by
  induction cs generalizing before with
  | nil => cases sep <;> simp +contextual [cutAt?, eq_comm]
  | cons c cs ih =>
      rw [cutAt?]
      cases hfront : dropPrefix? sep (c :: cs) with
      | some rest =>
          have hrest := dropPrefix?_eq_some_iff.1 hfront
          constructor
          · rintro ⟨⟩
            exact ⟨hrest, fun _ _ _ => Nat.zero_le _⟩
          · rintro ⟨heq, hleast⟩
            have hempty := List.eq_nil_of_length_eq_zero (Nat.le_zero.1 (hleast [] rest hrest))
            subst hempty
            rw [List.nil_append, hrest, List.append_cancel_left_eq] at heq
            rw [heq]
      | none =>
          have hno : ∀ a, c :: cs ≠ sep ++ a := by
            intro a heq
            rw [dropPrefix?_eq_some_iff.2 heq] at hfront
            cases hfront
          constructor
          · intro h
            rcases Option.map_eq_some_iff.1 h with ⟨⟨b, a⟩, hcut, heq⟩
            cases heq
            rcases ih.1 hcut with ⟨rfl, hleast⟩
            refine ⟨rfl, fun b' a' heq => ?_⟩
            -- the first character belongs to no occurrence
            cases b' with
            | nil => exact absurd heq (hno a')
            | cons d b' => exact Nat.succ_le_succ (hleast b' a' (List.cons.inj heq).2)
          · rintro ⟨heq, hleast⟩
            cases before with
            | nil => exact absurd heq (hno after)
            | cons d before =>
                rcases List.cons.inj heq with ⟨rfl, hrest⟩
                have hcut : cutAt? sep cs = some (before, after) := by
                  refine ih.2 ⟨hrest, fun b a heq => ?_⟩
                  exact Nat.le_of_succ_le_succ (hleast (c :: b) a (congrArg (c :: ·) heq))
                rw [hcut]
                rfl

/-- A text is cut at the first one of a character. -/
theorem cutAt?_char {c : Char} {front : List Char} (h : c ∉ front) (back : List Char) :
    cutAt? [c] (front ++ c :: back) = some (front, back) := by
  induction front with
  | nil => simp [cutAt?, dropPrefix?]
  | cons d front ih =>
      have hd : c ≠ d := List.ne_of_not_mem_cons h
      rw [List.cons_append, cutAt?, ih (List.not_mem_of_not_mem_cons h)]
      simp [dropPrefix?, hd]

theorem reverse_eq_append_iff {b a : List Char} :
    cs.reverse = a ++ sep.reverse ++ b ↔ cs = b.reverse ++ sep ++ a.reverse := by
  rw [List.reverse_eq_iff]
  simp

/-- A text is cut at the last occurrence. -/
theorem cutAtLast?_eq_some_iff :
    cutAtLast? sep cs = some (before, after) ↔
      cs = before ++ sep ++ after ∧ ∀ b a, cs = b ++ sep ++ a → b.length ≤ before.length := by
  have hcut : cutAtLast? sep cs = some (before, after) ↔
      cutAt? sep.reverse cs.reverse = some (after.reverse, before.reverse) := by
    rw [cutAtLast?, Option.map_eq_some_iff]
    constructor
    · rintro ⟨⟨a, b⟩, hcut, heq⟩
      cases heq
      simpa using hcut
    · intro hcut
      exact ⟨_, hcut, by simp⟩
  rw [hcut, cutAt?_eq_some_iff, reverse_eq_append_iff, List.reverse_reverse, List.reverse_reverse]
  refine and_congr_right fun heq => ?_
  -- the less stands before an occurrence of the reverse, the more stands before it in the text
  have hlength : ∀ b a, cs = b ++ sep ++ a →
      b.length + a.length = before.length + after.length := by
    intro b a h
    have hsame := congrArg List.length (heq.symm.trans h)
    simp only [List.length_append] at hsame
    omega
  constructor
  · intro hleast b a h
    have hle := hleast a.reverse b.reverse (reverse_eq_append_iff.2 (by simpa using h))
    have hsum := hlength b a h
    simp only [List.length_reverse] at hle
    omega
  · intro hmost b a h
    have hcs := reverse_eq_append_iff.1 h
    have hle := hmost _ _ hcs
    have hsum := hlength _ _ hcs
    simp only [List.length_reverse] at hle hsum ⊢
    omega

/-- A text is not cut exactly if the separator does not occur in it. -/
theorem cutAtLast?_eq_none_iff : cutAtLast? sep cs = none ↔ ∀ b a, cs ≠ b ++ sep ++ a := by
  have hoccurs : cutAtLast? sep cs = none ↔ ¬occursIn sep.reverse cs.reverse = true := by
    rw [cutAtLast?, Option.map_eq_none_iff, occursIn, Bool.not_eq_true, Option.isSome_eq_false_iff,
      Option.isNone_iff_eq_none]
  rw [hoccurs, occursIn_iff, List.reverse_infix]
  constructor
  · rintro h b a rfl
    exact h ⟨b, a, rfl⟩
  · rintro h ⟨b, a, heq⟩
    exact h b a heq.symm

end Text
end Gleaner
