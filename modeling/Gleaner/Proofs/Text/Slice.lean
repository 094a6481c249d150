import Gleaner.Text.Cut
/-!
# Slices of texts

Offsets into a text count the bytes of its UTF-8 form. An offset inside of a character, or after the
end, cuts nothing.

* `cutAtByte?` cuts a text at an offset, `slice?` takes what stands between two offsets;
* `cutAtByte?_eq_some_iff`, `slice?_eq_some_iff`: they succeed exactly between characters.
-/

namespace Gleaner
namespace Text

theorem byteLength_nil : byteLength [] = 0 :=
  rfl

theorem byteLength_cons (c : Char) (cs : List Char) :
    byteLength (c :: cs) = c.utf8Size + byteLength cs := by
  simp [byteLength]

theorem byteLength_append (as bs : List Char) :
    byteLength (as ++ bs) = byteLength as + byteLength bs := by
  simp [byteLength]

/-- The text before and after a byte offset that does not lie inside of a character. -/
def cutAtByte? : Nat → List Char → Option (List Char × List Char)
  | 0, cs => some ([], cs)
  | _ + 1, [] => none
  | n + 1, c :: cs =>
    if c.utf8Size ≤ n + 1 then
      (cutAtByte? (n + 1 - c.utf8Size) cs).map fun (front, back) => (c :: front, back)
    else none

/-- The text between two byte offsets; there is none if the second one is before the first. -/
def slice? (cs : List Char) (start stop : Nat) : Option (List Char) :=
  if start ≤ stop then do
    let (_, rest) ← cutAtByte? start cs
    let (part, _) ← cutAtByte? (stop - start) rest
    some part
  else none

/-- An offset cuts a text exactly if it is the length of what it cuts off. -/
theorem cutAtByte?_eq_some_iff {n : Nat} {cs front back : List Char} :
    cutAtByte? n cs = some (front, back) ↔ cs = front ++ back ∧ byteLength front = n := by
  induction n, cs using cutAtByte?.induct generalizing front with
  | case1 cs =>
      rw [cutAtByte?]
      constructor
      · rintro ⟨⟩
        exact ⟨rfl, rfl⟩
      · rintro ⟨rfl, hzero⟩
        cases front with
        | nil => rfl
        | cons c front =>
            have hpos := c.utf8Size_pos
            rw [byteLength_cons] at hzero
            omega
  | case2 n =>
      rw [cutAtByte?]
      constructor
      · rintro ⟨⟩
      · rintro ⟨hnil, hlen⟩
        rcases List.append_eq_nil_iff.1 hnil.symm with ⟨rfl, rfl⟩
        cases hlen
  | case3 n c cs hfits ih =>
      -- the first character ends before the cut, so it belongs to the front
      rw [cutAtByte?, if_pos hfits]
      constructor
      · intro h
        rcases Option.map_eq_some_iff.1 h with ⟨⟨front', back'⟩, hcut, heq⟩
        cases heq
        rcases ih.1 hcut with ⟨rfl, hlen⟩
        refine ⟨rfl, ?_⟩
        rw [byteLength_cons, hlen]
        omega
      · rintro ⟨hcs, hlen⟩
        cases front with
        | nil => cases hlen
        | cons d front =>
            rcases List.cons.inj hcs with ⟨rfl, rfl⟩
            rw [byteLength_cons] at hlen
            have hcut := ih.2 ⟨rfl, show byteLength front = n + 1 - c.utf8Size by omega⟩
            rw [hcut]
            rfl
  | case4 n c cs hinside =>
      -- the cut is inside of the first character, where no front ends
      rw [cutAtByte?, if_neg hinside]
      constructor
      · rintro ⟨⟩
      · rintro ⟨hcs, hlen⟩
        cases front with
        | nil => cases hlen
        | cons d front =>
            rcases List.cons.inj hcs with ⟨rfl, rfl⟩
            rw [byteLength_cons] at hlen
            omega

/-- A slice is taken exactly where both offsets lie in the text, in order and between characters. -/
theorem slice?_eq_some_iff {cs part : List Char} {start stop : Nat} :
    slice? cs start stop = some part ↔
      ∃ front back, cs = front ++ part ++ back ∧ byteLength front = start ∧
        start + byteLength part = stop := by
  unfold slice?
  constructor
  · intro h
    split at h
    · rename_i horder
      rcases Option.bind_eq_some_iff.1 h with ⟨⟨front, rest⟩, hfront, hrest⟩
      rcases Option.bind_eq_some_iff.1 hrest with ⟨⟨part', back⟩, hpart, heq⟩
      cases heq
      rcases cutAtByte?_eq_some_iff.1 hfront with ⟨rfl, hstart⟩
      rcases cutAtByte?_eq_some_iff.1 hpart with ⟨rfl, hstop⟩
      exact ⟨front, back, (List.append_assoc ..).symm, hstart, by omega⟩
    · cases h
  · rintro ⟨front, back, rfl, rfl, rfl⟩
    have hfront : cutAtByte? (byteLength front) (front ++ part ++ back) =
        some (front, part ++ back) :=
      cutAtByte?_eq_some_iff.2 ⟨List.append_assoc .., rfl⟩
    have hpart : cutAtByte? (byteLength front + byteLength part - byteLength front)
        (part ++ back) = some (part, back) :=
      cutAtByte?_eq_some_iff.2 ⟨rfl, by omega⟩
    rw [if_pos (Nat.le_add_right _ _), hfront]
    simp only [Option.bind_eq_bind, Option.bind_some, hpart]

end Text
end Gleaner
