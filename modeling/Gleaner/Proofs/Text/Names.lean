import Gleaner.Text.Name
import Gleaner.Proofs.Text.Trimming
import Mathlib
/-!
# The characters of names

Names consist of printable ASCII characters, so they have no space in them and nothing of what
stands around names.

* `toNat_of_isNameStart`, `toNat_of_isDigit`, `toNat_of_isNameChar` bound the codes of characters;
* `exists_cons_of_isName`, `isNameChar_of_mem` take a name apart into its characters;
* `not_mem_name`: a character that is none of names does not stand in a name;
* `trim_name`: there is nothing to trim.
-/

namespace Gleaner
namespace Text

theorem toNat_of_isNameStart {c : Char} (h : isNameStart c = true) :
    65 ≤ c.toNat ∧ c.toNat ≤ 122 := by
  show 65 ≤ c.val.toNat ∧ c.val.toNat ≤ 122
  simp only [isNameStart, Char.isAlpha, Char.isUpper, Char.isLower, Bool.or_eq_true,
    Bool.and_eq_true, decide_eq_true_eq, beq_iff_eq, ge_iff_le, UInt32.le_iff_toNat_le] at h
  rcases h with (h | h) | rfl
  · exact ⟨h.1, Nat.le_trans h.2 (by decide)⟩
  · exact ⟨Nat.le_trans (by decide) h.1, h.2⟩
  · decide

theorem toNat_of_isDigit {c : Char} (h : c.isDigit = true) : 48 ≤ c.toNat ∧ c.toNat ≤ 57 := by
  simp only [Char.isDigit, decide_eq_true_eq, Bool.and_eq_true, UInt32.le_iff_toNat_le,
    ge_iff_le] at h
  exact h

theorem toNat_of_isNameChar {c : Char} (h : isNameChar c = true) :
    48 ≤ c.toNat ∧ c.toNat ≤ 122 := by
  have hsplit : isNameStart c = true ∨ c.isDigit = true := by
    simp only [isNameChar, Char.isAlphanum, Bool.or_eq_true] at h
    rw [isNameStart, Bool.or_eq_true]
    exact or_right_comm.1 h
  rcases hsplit with hstart | hdigit
  · have := toNat_of_isNameStart hstart
    omega
  · have := toNat_of_isDigit hdigit
    omega

/-- Visible ASCII characters are no blanks. -/
theorem isBlank_eq_false {c : Char} (hlow : 33 ≤ c.toNat) (hhigh : c.toNat ≤ 126) :
    isBlank c = false := by
  cases h : isBlank c with
  | false => rfl
  | true =>
      simp only [isBlank, Bool.or_eq_true, Bool.and_eq_true, decide_eq_true_eq,
        beq_iff_eq] at h
      omega

/-- A name begins with a letter or an underscore and goes on in characters of names. -/
theorem exists_cons_of_isName {name : String} (h : isName name = true) :
    ∃ c rest, name.toList = c :: rest ∧ isNameStart c = true ∧
      ∀ d ∈ rest, isNameChar d = true := by
  unfold isName at h
  cases hlist : name.toList with
  | nil =>
      rw [hlist] at h
      cases h
  | cons c rest =>
      rw [hlist, isNameChars, Bool.and_eq_true, List.all_eq_true] at h
      exact ⟨c, rest, rfl, h.1, h.2⟩

/-- A name has characters of names only. -/
theorem isNameChar_of_mem {name : String} (h : isName name = true) {c : Char}
    (hc : c ∈ name.toList) : isNameChar c = true := by
  rcases exists_cons_of_isName h with ⟨first, rest, hname, hfirst, hrest⟩
  rw [hname] at hc
  rcases List.mem_cons.1 hc with rfl | hc
  · exact isNameChar_of_isNameStart hfirst
  · exact hrest c hc

/-- A character that is none of names does not stand in a name. -/
theorem not_mem_name {name : String} (h : isName name = true) {c : Char}
    (hc : isNameChar c = false) : c ∉ name.toList := by
  intro hmem
  rw [isNameChar_of_mem h hmem] at hc
  cases hc

theorem isBlank_of_isNameChar {c : Char} (h : isNameChar c = true) : isBlank c = false := by
  have hcode := toNat_of_isNameChar h
  exact isBlank_eq_false (by omega) (by omega)

/-- A name has no blank to trim. -/
theorem trim_name {name : String} (h : isName name = true) : trim name.toList = name.toList := by
  have hblank : ∀ c ∈ name.toList, isBlank c = false := fun c hc =>
    isBlank_of_isNameChar (isNameChar_of_mem h hc)
  refine trim_eq_self_iff.2 ⟨?_, ?_⟩
  · intro c hc
    exact hblank c (List.mem_of_mem_head? hc)
  · intro c hc
    exact hblank c (List.mem_of_mem_getLast? hc)

end Text
end Gleaner
