import Gleaner.Json.Reader
import Gleaner.Proofs.Json.Merging
import Gleaner.Proofs.Json.NumberText
/-!
# What the reader makes of a text

* `read?_toString`: the usual text of an integer of 64 bits is read as that integer;
* `nodup_keys_of_read?`: an object that is read has no member twice.
-/

namespace Gleaner
namespace Json

/-! ## Integers -/

/-- The digits of a number other than zero do not begin with a zero. -/
theorem head?_toDigits_ne_zero {n : Nat} (hn : n ≠ 0) : (Nat.toDigits 10 n).head? ≠ some '0' := by
  induction n using Nat.strongRecOn with
  | ind n ih =>
      rw [Nat.toDigits_eq_if (by decide)]
      by_cases hsmall : n < 10
      · rw [if_pos hsmall]
        interval_cases n <;> simp_all [Nat.digitChar]
      · -- the first digit is that of a tenth
        have htenth : n / 10 ≠ 0 := by omega
        have hfirst := ih (n / 10) (by omega) htenth
        rw [if_neg hsmall, List.head?_append]
        cases hhead : (Nat.toDigits 10 (n / 10)).head? with
        | none => exact absurd (List.head?_eq_none_iff.1 hhead) Nat.toDigits_ne_nil
        | some c => rwa [hhead] at hfirst

/-- Only zero is written with a zero in front. -/
theorem length_toDigits_of_zero {n : Nat} (h : (Nat.toDigits 10 n).head? = some '0') :
    (Nat.toDigits 10 n).length = 1 := by
  have hn : n = 0 := by
    by_contra hn
    exact head?_toDigits_ne_zero hn h
  rw [hn]
  rfl

/-- Digits with nothing after them are read as an integer, with or without a minus sign. -/
theorem readNumber?_of_digits {digits : List Char} (hne : digits ≠ [])
    (hdigits : ∀ c ∈ digits, c.isDigit = true)
    (hleading : digits.head? = some '0' → digits.length = 1) :
    readNumber? digits = (readInteger? false digits).map (·, []) ∧
      readNumber? ('-' :: digits) = (readInteger? true digits).map (·, []) := by
  have hwhole : digits.takeWhile Char.isDigit = digits := List.takeWhile_eq_self_iff.2 hdigits
  have hrest : digits.dropWhile Char.isDigit = [] := List.dropWhile_eq_nil_iff.2 hdigits
  have hsome : digits.isEmpty = false := List.isEmpty_eq_false_iff.2 hne
  have hallowed : (digits.isEmpty || (digits.head? == some '0' && digits.length ≠ 1)) = false := by
    simpa [hsome] using hleading
  constructor
  · unfold readNumber?
    split
    rename_i negative cs hsign
    split at hsign
    · -- a digit is no sign
      exact absurd (hdigits '-' List.mem_cons_self) (by decide)
    · cases hsign
      simp only [hwhole, hrest, hallowed]
      rw [if_neg Bool.false_ne_true]
      cases readInteger? false digits <;> rfl
  · simp only [readNumber?, hwhole, hrest, hallowed]
    rw [if_neg Bool.false_ne_true]
    cases readInteger? true digits <;> rfl

theorem readNumber?_toDigits (n : Nat) :
    readNumber? (Nat.toDigits 10 n) = (readInteger? false (Nat.toDigits 10 n)).map (·, []) ∧
      readNumber? ('-' :: Nat.toDigits 10 n) =
        (readInteger? true (Nat.toDigits 10 n)).map (·, []) :=
  readNumber?_of_digits Nat.toDigits_ne_nil (fun _ hc => Binary64.isDigit_of_mem_toDigits hc)
    length_toDigits_of_zero

/-- A text that begins like a number is read as a number. -/
theorem readValue?_number (fuel depth : Nat) {c : Char} (hc : c.isDigit = true ∨ c = '-')
    (rest : List Char) :
    readValue? (fuel + 1) depth (c :: rest) =
      (readNumber? (c :: rest)).map fun (n, after) => (.number n, after) := by
  -- no other value begins with a digit or a minus sign, and neither does space
  have hother : ∀ d : Char, ¬ (d.isDigit = true ∨ d = '-') → c ≠ d := by
    rintro d hd rfl
    exact hd hc
  have hspace : isSpace c = false := by
    simp [isSpace, hother ' ' (by decide), hother '\t' (by decide), hother '\n' (by decide),
      hother '\r' (by decide)]
  have hskip : skipSpace (c :: rest) = c :: rest := by
    rw [skipSpace, List.dropWhile_cons_of_neg (by simp [hspace])]
  rw [readValue?, hskip]
  simp only [hother '"' (by decide), hother '[' (by decide), hother '\x7b' (by decide),
    hother 't' (by decide), hother 'f' (by decide), hother 'n' (by decide), if_false]

/-- The usual text of an integer of 64 bits is read as that integer. -/
theorem read?_toString {n : Int} (h : (Number.integer n).InRange) :
    read? (toString n) = some (.number (.integer n)) := by
  have hrange : Number.leastInteger ≤ n ∧ n < Number.integerBound := h
  have hnumbers := readNumber?_toDigits n.natAbs
  have hnumber : readNumber? (toString n).toList = some (.integer n, []) := by
    rw [Number.toList_toString_int]
    by_cases hsign : n < 0
    · have hnot : n.natAbs ≠ 0 := by omega
      have habs : -(n.natAbs : Int) = n := by omega
      rw [if_pos hsign, List.singleton_append, hnumbers.2, readInteger?,
        Binary64.digitsValue_toDigits, if_pos rfl, habs, if_pos ⟨hnot, hrange.1⟩]
      rfl
    · have habs : (n.natAbs : Int) = n := by omega
      rw [if_neg hsign, List.nil_append, hnumbers.1, readInteger?,
        Binary64.digitsValue_toDigits, if_neg Bool.false_ne_true, habs, if_pos hrange.2]
      rfl
  -- only a number begins with a digit or a minus sign
  have hfirst : ∃ c rest, (toString n).toList = c :: rest ∧ (c.isDigit = true ∨ c = '-') := by
    rw [Number.toList_toString_int]
    by_cases hsign : n < 0
    · exact ⟨'-', _, by rw [if_pos hsign]; rfl, .inr rfl⟩
    · rw [if_neg hsign, List.nil_append]
      cases hdigits : Nat.toDigits 10 n.natAbs with
      | nil => exact absurd hdigits Nat.toDigits_ne_nil
      | cons c rest =>
          have hc : c ∈ Nat.toDigits 10 n.natAbs := hdigits ▸ List.mem_cons_self
          exact ⟨c, rest, rfl, .inl (Binary64.isDigit_of_mem_toDigits hc)⟩
  rcases hfirst with ⟨c, rest, htext, hc⟩
  rw [htext] at hnumber
  rw [read?]
  simp only [htext, readValue?_number _ _ hc, hnumber]
  rfl

/-! ## Objects -/

/-- The members that are read have no name twice if those that are held have none. -/
theorem nodup_keys_readMembers? {fuel depth : Nat} {held ms : Members} {cs after : List Char}
    (hheld : (Members.keys held).Nodup)
    (h : readMembers? fuel depth held cs = some (ms, after)) : (Members.keys ms).Nodup := by
  induction fuel generalizing held cs with
  | zero => cases h
  | succ fuel ih =>
      -- a member is set among those that are held, and then it is the last one or more follow
      simp only [readMembers?] at h
      split at h
      · obtain ⟨⟨key, rest⟩, -, h⟩ := Option.bind_eq_some_iff.1 h
        simp only at h
        split at h
        · obtain ⟨⟨v, rest⟩, -, h⟩ := Option.bind_eq_some_iff.1 h
          have hset := Members.nodup_keys_insert hheld (String.ofList key) v
          simp only at h
          split at h
          · cases h
            exact hset
          · exact ih hset h
          · cases h
        · cases h
      · cases h

/--
The reader keeps the keys of an object distinct: a repeated key replaces the first one's value.
-/
theorem nodup_keys_readValue? {fuel depth : Nat} {ms : Members} {cs after : List Char}
    (h : readValue? fuel depth cs = some (.object ms, after)) : (Members.keys ms).Nodup := by
  have hnone : (Members.keys []).Nodup := List.nodup_nil
  cases fuel with
  | zero => cases h
  | succ fuel =>
      unfold readValue? at h
      split at h
      · cases h
      · rename_i c rest hc
        -- only a brace begins an object
        split_ifs at h with hquote hbracket hbrace ht hf hn
        · obtain ⟨⟨s, rest⟩, -, h⟩ := Option.bind_eq_some_iff.1 h
          cases h
        · split at h
          · cases h
          · cases h
          · split at h
            · cases h
            · obtain ⟨⟨items, rest⟩, -, h⟩ := Option.bind_eq_some_iff.1 h
              cases h
        · split at h
          · cases h
          · cases h
          · split at h
            · cases h
              exact hnone
            · obtain ⟨⟨members, rest⟩, hmembers, h⟩ := Option.bind_eq_some_iff.1 h
              cases h
              exact nodup_keys_readMembers? hnone hmembers
        -- a word or a number
        all_goals
          obtain ⟨rest, -, h⟩ := Option.map_eq_some_iff.1 h
          cases h

/-- An object that is read has no member twice. -/
theorem nodup_keys_of_read? {s : String} {ms : Members} (h : read? s = some (.object ms)) :
    (Members.keys ms).Nodup := by
  unfold read? at h
  simp only at h
  split at h
  · rename_i v rest hvalue
    split at h
    · cases h
      exact nodup_keys_readValue? hvalue
    · cases h
  · cases h

end Json
end Gleaner
