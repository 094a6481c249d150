import Gleaner.Json.Written
import Gleaner.Proofs.Json.PlainNumeral
import Mathlib
/-!
# The characters of values

Which characters the strings inside a value have, and which ones its texts.

* `Json.IsOver P v`: the strings inside the value, the names of members among them, have only
  characters with the property;
* `Json.IsPrintable` are the characters that texts of values have on their own account;
* `forall_mem_compact` and `forall_mem_text`: the characters of the text of a value are those of its
  strings, apart from printable ones; the control characters are lost in arrays and objects only.
-/

namespace Gleaner

/-! ## Joined texts -/

/-- Texts that are joined have the characters of each of them. -/
theorem Text.forall_mem_joinWith {P : Char → Prop} {sep : String} (hsep : ∀ c ∈ sep.toList, P c)
    (parts : List String) :
    (∀ c ∈ (Text.joinWith sep parts).toList, P c) ↔ ∀ part ∈ parts, ∀ c ∈ part.toList, P c := by
  induction parts with
  | nil => simp [Text.joinWith]
  | cons first rest ih =>
      cases rest with
      | nil => simp [Text.joinWith]
      | cons second rest =>
          have hcons : (Text.joinWith sep (first :: second :: rest)).toList =
              first.toList ++ (sep.toList ++ (Text.joinWith sep (second :: rest)).toList) := by
            simp [Text.joinWith, String.toList_intercalate]
          rw [hcons, List.forall_mem_append, List.forall_mem_append, ih,
            List.forall_mem_cons (a := first)]
          exact and_congr_right fun _ => and_iff_right hsep

/-- What stands around a text does not matter when its characters are in the alphabet anyway. -/
theorem Text.forall_mem_between {P : Char → Prop} {before after : String}
    (hbefore : ∀ c ∈ before.toList, P c) (hafter : ∀ c ∈ after.toList, P c) (s : String) :
    (∀ c ∈ (before ++ s ++ after).toList, P c) ↔ ∀ c ∈ s.toList, P c := by
  rw [String.toList_append, String.toList_append, List.forall_mem_append, List.forall_mem_append]
  exact (and_iff_left hafter).trans (and_iff_right hbefore)

namespace Json

variable {P Q : Char → Prop}

/-! ## Values over an alphabet -/

mutual

/-- The strings inside a value, names of members included, have only characters of an alphabet. -/
def IsOver (P : Char → Prop) : Json → Prop
  | .string s => ∀ c ∈ s.toList, P c
  | .array items => ItemsOver P items
  | .object members => MembersOver P members
  | _ => True

def ItemsOver (P : Char → Prop) : List Json → Prop
  | [] => True
  | v :: rest => IsOver P v ∧ ItemsOver P rest

/-- The members are values over an alphabet, and so are their names. -/
def MembersOver (P : Char → Prop) : List (String × Json) → Prop
  | [] => True
  | (key, v) :: rest => (∀ c ∈ key.toList, P c) ∧ IsOver P v ∧ MembersOver P rest

end

theorem itemsOver_iff {items : List Json} : ItemsOver P items ↔ ∀ v ∈ items, v.IsOver P := by
  induction items with
  | nil => simp [ItemsOver]
  | cons v items ih => simp [ItemsOver, ih]

theorem membersOver_iff {members : List (String × Json)} :
    MembersOver P members ↔ ∀ m ∈ members, (∀ c ∈ m.1.toList, P c) ∧ m.2.IsOver P := by
  induction members with
  | nil => simp [MembersOver]
  | cons m members ih => simp [MembersOver, ih, and_assoc]

theorem isOver_array {items : List Json} : (array items).IsOver P ↔ ∀ v ∈ items, v.IsOver P := by
  rw [IsOver, itemsOver_iff]

theorem isOver_object {members : List (String × Json)} :
    (object members).IsOver P ↔ ∀ m ∈ members, (∀ c ∈ m.1.toList, P c) ∧ m.2.IsOver P := by
  rw [IsOver, membersOver_iff]

theorem isOver_string {s : String} : (string s).IsOver P ↔ ∀ c ∈ s.toList, P c := by
  rw [IsOver]

-- the recursion is that of the definition
mutual

/-- A value over some characters is over any more of them. -/
theorem IsOver.mono (h : ∀ c, P c → Q c) : (v : Json) → v.IsOver P → v.IsOver Q
  | .string _ => fun hs c hc => h c (hs c hc)
  | .array items => ItemsOver.mono h items
  | .object members => MembersOver.mono h members
  | .null | .bool _ | .number _ => fun _ => trivial

theorem ItemsOver.mono (h : ∀ c, P c → Q c) :
    (items : List Json) → ItemsOver P items → ItemsOver Q items
  | [] => fun _ => trivial
  | v :: rest => fun hs => ⟨IsOver.mono h v hs.1, ItemsOver.mono h rest hs.2⟩

theorem MembersOver.mono (h : ∀ c, P c → Q c) :
    (members : List (String × Json)) → MembersOver P members → MembersOver Q members
  | [] => fun _ => trivial
  | (_, v) :: rest => fun hs =>
      ⟨fun c hc => h c (hs.1 c hc), IsOver.mono h v hs.2.1, MembersOver.mono h rest hs.2.2⟩

end

/-! ## Printable characters -/

def IsPrintable (c : Char) : Prop :=
  32 ≤ c.toNat ∧ c.toNat < 127

instance : DecidablePred IsPrintable :=
  fun c => inferInstanceAs (Decidable (32 ≤ c.toNat ∧ c.toNat < 127))

theorem isPrintable_of_isDigit {c : Char} (h : c.isDigit = true) : IsPrintable c := by
  simp only [Char.isDigit, Bool.and_eq_true, decide_eq_true_eq, ge_iff_le,
    UInt32.le_iff_toNat_le] at h
  have hcode : 48 ≤ c.toNat ∧ c.toNat ≤ 57 := h
  unfold IsPrintable
  omega

theorem isPrintable_of_mem_toDigits {n : Nat} : ∀ c ∈ Nat.toDigits 10 n, IsPrintable c := by
  intro c hc
  exact isPrintable_of_isDigit (Nat.isDigit_of_mem_toDigits (by decide) (by decide) hc)

theorem isPrintable_hexDigit (n : Nat) : IsPrintable (Text.hexDigit n) := by
  have hall : ∀ d < 16, 32 ≤ (Nat.digitChar d).toNat ∧ (Nat.digitChar d).toNat < 127 := by decide
  exact hall (n % 16) (Nat.mod_lt n (by decide))

/-! ## Numbers -/

/-- A plain numeral is made of printable characters. -/
theorem isPrintable_of_plainMagnitude {cs : List Char} (h : PlainMagnitude cs) :
    ∀ c ∈ cs, IsPrintable c := by
  cases h with
  | integer hdigits => exact fun c hc => isPrintable_of_isDigit (hdigits.2 c hc)
  | point hwhole hfraction =>
      intro c hc
      rcases List.mem_append.1 hc with hc | hc
      · exact isPrintable_of_isDigit (hwhole.2 c hc)
      · rcases List.mem_cons.1 hc with rfl | hc
        · exact ⟨by decide, by decide⟩
        · exact isPrintable_of_isDigit (hfraction.2 c hc)

theorem isPrintable_of_plainNumeral {cs : List Char} (h : PlainNumeral cs) :
    ∀ c ∈ cs, IsPrintable c := by
  cases h with
  | unsigned h => exact isPrintable_of_plainMagnitude h
  | negative h =>
      exact List.forall_mem_cons.2 ⟨⟨by decide, by decide⟩, isPrintable_of_plainMagnitude h⟩

theorem positionalText_eq (keepsPoint : Bool) (d : Binary64.Decimal) :
    d.positionalText keepsPoint =
      d.positionalText false ++ if keepsPoint = true ∧ 0 ≤ d.exponent then ".0" else "" := by
  by_cases hexponent : 0 ≤ d.exponent <;> cases keepsPoint <;>
    simp [Binary64.Decimal.positionalText, hexponent]

theorem isPrintable_of_mem_positionalText (keepsPoint : Bool) (d : Binary64.Decimal) :
    ∀ c ∈ (d.positionalText keepsPoint).toList, IsPrintable c := by
  rw [positionalText_eq, String.toList_append]
  refine List.forall_mem_append.2
    ⟨isPrintable_of_plainMagnitude (plainMagnitude_positionalText d), ?_⟩
  split <;> simp [IsPrintable]

/-- The scientific text of a decimal is made of printable characters. -/
theorem isPrintable_of_mem_scientificText (plusSign : Bool) (d : Binary64.Decimal) :
    ∀ c ∈ (d.scientificText plusSign).toList, IsPrintable c := by
  have hdigits := @isPrintable_of_mem_toDigits d.digits
  unfold Binary64.Decimal.scientificText
  simp only [String.toList_append, String.toList_ofList, List.forall_mem_append]
  refine ⟨⟨⟨?_, ?_⟩, ?_⟩, isPrintable_of_mem_toDigits⟩
  · -- the point is the only character of the mantissa that is not a digit
    cases hcs : Nat.toDigits 10 d.digits with
    | nil => exact nofun
    | cons one more =>
        rw [hcs, List.forall_mem_cons] at hdigits
        cases more with
        | nil => exact List.forall_mem_cons.2 ⟨hdigits.1, nofun⟩
        | cons two more =>
            have hpoint : IsPrintable '.' := ⟨by decide, by decide⟩
            exact List.forall_mem_cons.2 ⟨hdigits.1, List.forall_mem_cons.2 ⟨hpoint, hdigits.2⟩⟩
  · simp [IsPrintable]
  · split
    · simp [IsPrintable]
    · split <;> simp [IsPrintable]

/-- The text of a finite number is made of printable characters, in both styles. -/
theorem isPrintable_of_mem_finite (style : Binary64.Style) (x : Binary64.Finite) :
    ∀ c ∈ (x.written style).toList, IsPrintable c := by
  -- a sign, and then one of two layouts of the digits
  have hsign : ∀ c ∈ (if x.negative then "-" else "").toList, IsPrintable c := by
    cases x.negative <;> simp [IsPrintable]
  have hlayout : ∀ isPositional : Bool, ∀ c ∈ (if isPositional then
      x.shortest.positionalText style.keepsPoint else
      x.shortest.scientificText style.plusSign).toList, IsPrintable c := by
    intro isPositional
    cases isPositional with
    | true => exact isPrintable_of_mem_positionalText _ _
    | false => exact isPrintable_of_mem_scientificText _ _
  rw [Binary64.Finite.written, String.toList_append]
  exact List.forall_mem_append.2 ⟨hsign, hlayout _⟩

theorem isPrintable_of_mem_written (n : Number) : ∀ c ∈ n.written.toList, IsPrintable c := by
  cases n with
  | integer n => exact isPrintable_of_plainNumeral (plainNumeral_toString n)
  | real x => exact isPrintable_of_mem_finite _ x

theorem isPrintable_of_mem_text (n : Number) : ∀ c ∈ n.text.toList, IsPrintable c :=
  isPrintable_of_plainNumeral (plainNumeral_text n)

/-! ## The texts of values -/

section Texts

variable (hP : ∀ c, IsPrintable c → P c)

/-- The characters of a value that its text keeps; the control characters are escaped. -/
def Kept (P : Char → Prop) (c : Char) : Prop :=
  32 ≤ c.toNat → P c

include hP

theorem forall_mem_of_printable {s : String} (hs : ∀ c ∈ s.toList, IsPrintable c) :
    ∀ c ∈ s.toList, P c :=
  fun c hc => hP c (hs c hc)

/-- What the text of one character is made of, in terms of the character itself. -/
theorem forall_mem_escapedChar (c : Char) : (∀ d ∈ escapedChar c, P d) ↔ Kept P c := by
  have hprintable : ∀ {cs : List Char} {Q : Prop}, Q → (∀ d ∈ cs, IsPrintable d) →
      ((∀ d ∈ cs, P d) ↔ Q) :=
    fun hQ hcs => ⟨fun _ => hQ, fun _ d hd => hP d (hcs d hd)⟩
  have hcontrol : c.toNat < 32 → Kept P c := fun hlt hle => absurd hlt (by omega)
  have hkept : IsPrintable c → Kept P c := fun hc _ => hP c hc
  unfold escapedChar
  -- the quote and the backslash are printable, and the other characters with an escape are not kept
  split
  · exact hprintable (hkept (by simp [IsPrintable])) (by simp [IsPrintable])
  · exact hprintable (hkept (by simp [IsPrintable])) (by simp [IsPrintable])
  · exact hprintable (hcontrol (by decide)) (by simp [IsPrintable])
  · exact hprintable (hcontrol (by decide)) (by simp [IsPrintable])
  · exact hprintable (hcontrol (by decide)) (by simp [IsPrintable])
  · split
    · exact hprintable (hcontrol (by omega)) (by simp [IsPrintable])
    · split
      · exact hprintable (hcontrol (by omega)) (by simp [IsPrintable])
      · split
        · rename_i hlt
          refine hprintable (hcontrol hlt) ?_
          have hhigh := isPrintable_hexDigit (c.toNat / 16)
          have hlow := isPrintable_hexDigit c.toNat
          simp [IsPrintable] at hhigh hlow ⊢
          exact ⟨hhigh, hlow⟩
        · rename_i hle
          simp [Kept, Nat.le_of_not_lt hle]

/-- A written string is over `P` exactly if each of its characters is kept in `P`. -/
theorem forall_mem_writtenString (s : String) :
    (∀ c ∈ (writtenString s).toList, P c) ↔ ∀ c ∈ s.toList, Kept P c := by
  have hquote : P '"' := hP _ ⟨by decide, by decide⟩
  have hescaped : (∀ c ∈ escaped s.toList, P c) ↔ ∀ c ∈ s.toList, Kept P c := by
    simp only [escaped, List.forall_mem_flatMap]
    exact forall_congr' fun c => imp_congr_right fun _ => forall_mem_escapedChar hP c
  rw [← hescaped, writtenString]
  simp [hquote, or_imp, forall_and]

end Texts

-- the recursion is that of the definition
mutual

/-- The text of a value has the characters of its strings, apart from printable ones. -/
theorem forall_mem_compact (hP : ∀ c, IsPrintable c → P c) :
    (v : Json) → ((∀ c ∈ v.compact.toList, P c) ↔ v.IsOver (Kept P))
  | .null => iff_of_true (forall_mem_of_printable hP (by simp [compact, IsPrintable])) trivial
  | .bool true => iff_of_true (forall_mem_of_printable hP (by simp [compact, IsPrintable])) trivial
  | .bool false => iff_of_true (forall_mem_of_printable hP (by simp [compact, IsPrintable])) trivial
  | .number n => iff_of_true (forall_mem_of_printable hP (isPrintable_of_mem_written n)) trivial
  | .string s => forall_mem_writtenString hP s
  | .array items => by
      rw [compact, Text.forall_mem_between, Text.forall_mem_joinWith, IsOver]
      · exact forall_mem_compactItems hP items
      all_goals exact forall_mem_of_printable hP (by simp [IsPrintable])
  | .object members => by
      rw [compact, Text.forall_mem_between, Text.forall_mem_joinWith, IsOver]
      · exact forall_mem_compactMembers hP members
      all_goals exact forall_mem_of_printable hP (by simp [IsPrintable])

/-- The items of an array are written in the characters they are made of. -/
theorem forall_mem_compactItems (hP : ∀ c, IsPrintable c → P c) : (items : List Json) →
    ((∀ part ∈ compactItems items, ∀ c ∈ part.toList, P c) ↔ ItemsOver (Kept P) items)
  | [] => by simp [compactItems, ItemsOver]
  | v :: rest => by
      rw [compactItems, List.forall_mem_cons, forall_mem_compact hP v,
        forall_mem_compactItems hP rest, ItemsOver]

/-- The same for the members of an object, keys and values. -/
theorem forall_mem_compactMembers (hP : ∀ c, IsPrintable c → P c) :
    (members : List (String × Json)) →
      ((∀ part ∈ compactMembers members, ∀ c ∈ part.toList, P c) ↔ MembersOver (Kept P) members)
  | [] => by simp [compactMembers, MembersOver]
  | (key, v) :: rest => by
      have hcolon : P ':' := hP _ (by decide)
      rw [compactMembers, List.forall_mem_cons, forall_mem_compactMembers hP rest, MembersOver,
        String.toList_append, String.toList_append, List.forall_mem_append, List.forall_mem_append,
        forall_mem_writtenString hP, forall_mem_compact hP v]
      simp [hcolon, and_assoc]

end

/-! ## Cells -/

/-- The characters of the plain text of a value: a string is taken as it is. -/
def TextOver (P : Char → Prop) : Json → Prop
  | .string s => ∀ c ∈ s.toList, P c
  | v => v.IsOver (Kept P)

/-- The text of a value is over `P` exactly if the value's strings and keys are. -/
theorem forall_mem_text (hP : ∀ c, IsPrintable c → P c) (v : Json) :
    (∀ c ∈ v.text.toList, P c) ↔ v.TextOver P := by
  cases v with
  | null => simp [text, TextOver, IsOver]
  | bool b => exact forall_mem_compact hP (.bool b)
  | number n => exact iff_of_true (forall_mem_of_printable hP (isPrintable_of_mem_text n)) trivial
  | string s => rfl
  | array items => exact forall_mem_compact hP (.array items)
  | object members => exact forall_mem_compact hP (.object members)

/-- The text of a value over an alphabet is over it. -/
theorem IsOver.textOver {v : Json} (h : v.IsOver P) : v.TextOver P := by
  have himp : ∀ c, P c → Kept P c := fun _ hc _ => hc
  have hkept : v.IsOver (Kept P) := IsOver.mono himp v h
  cases v with
  | string s => exact h
  | _ => exact hkept

end Json
end Gleaner
