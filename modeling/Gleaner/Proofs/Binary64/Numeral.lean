import Gleaner.Proofs.Binary64.Shortest
import Gleaner.Proofs.Json.PlainNumeral
/-!
# Numerals

The text of a number in a document is made of digits, a point with more digits, and an exponent,
where the latter two may be missing.

* `Numeral` is such a text in parts, `Numeral.decimal` the decimal that it writes;
* `ofText?_text`: a numeral is read as the number nearest to its decimal;
* `exists_positional`, `exists_scientific`: both layouts of a decimal are numerals of its value;
* `Finite.exists_numeral`: a number is written, but for its sign, as a numeral that is read as the
  number.
-/

namespace Gleaner
namespace Binary64

open Json (AreDigits)

/-! ## Parts of a numeral -/

/-- A number without a sign, in parts. -/
structure Numeral where
  whole : List Char
  -- The digits after the point; without any, there is no point.
  fraction : List Char
  power : Option Int
  whole_digits : AreDigits whole
  fraction_digits : ∀ c ∈ fraction, c.isDigit = true

namespace Numeral

def pointText : List Char → List Char
  | [] => []
  | fraction => '.' :: fraction

theorem pointText_of_ne_nil {fraction : List Char} (h : fraction ≠ []) :
    pointText fraction = '.' :: fraction := by
  cases fraction with
  | nil => exact absurd rfl h
  | cons c more => rfl

def powerText : Option Int → List Char
  | none => []
  | some k => 'e' :: (if k < 0 then '-' else '+') :: Nat.toDigits 10 k.natAbs

def text (n : Numeral) : List Char :=
  n.whole ++ (pointText n.fraction ++ powerText n.power)

/-- A numeral begins with a digit. -/
theorem exists_text_cons (n : Numeral) : ∃ c tail, n.text = c :: tail ∧ c.isDigit = true := by
  rcases n with ⟨whole, fraction, power, hwhole, hfraction⟩
  cases whole with
  | nil => exact absurd rfl hwhole.1
  | cons c digits => exact ⟨c, _, rfl, hwhole.2 c List.mem_cons_self⟩

/-- The characters of a numeral are digits and those of its marks. -/
theorem forall_mem_text {P : Char → Prop} (hdigit : ∀ c : Char, c.isDigit = true → P c)
    (hmark : ∀ c ∈ ['-', '.', 'e', '+'], P c) (n : Numeral) : ∀ c ∈ n.text, P c := by
  rcases n with ⟨whole, fraction, power, hwhole, hfraction⟩
  have hpoint : ∀ c ∈ pointText fraction, P c := by
    cases fraction with
    | nil => nofun
    | cons d more =>
        exact List.forall_mem_cons.2 ⟨hmark _ (by simp), fun c hc => hdigit c (hfraction c hc)⟩
  have hpower : ∀ c ∈ powerText power, P c := by
    cases power with
    | none => nofun
    | some k =>
        have hdigits := (Json.areDigits_toDigits k.natAbs).2
        refine List.forall_mem_cons.2 ⟨hmark _ (by simp), List.forall_mem_cons.2 ⟨?_, ?_⟩⟩
        · split <;> exact hmark _ (by simp)
        · exact fun c hc => hdigit c (hdigits c hc)
  rw [text]
  simp only [List.forall_mem_append]
  exact ⟨fun c hc => hdigit c (hwhole.2 c hc), hpoint, hpower⟩

def decimal (n : Numeral) : Decimal where
  digits := digitsValue (n.whole ++ n.fraction)
  exponent := n.power.getD 0 - n.fraction.length

/-! ## Reading -/

/-- The power part of a numeral reads back, an absent one as zero. -/
theorem readExponent?_powerText (power : Option Int) :
    readExponent? (powerText power) = some (power.getD 0) := by
  cases power with
  | none => rfl
  | some k =>
      have hdigits := Json.areDigits_toDigits k.natAbs
      have hempty : (Nat.toDigits 10 k.natAbs).isEmpty = false :=
        List.isEmpty_eq_false_iff.2 hdigits.1
      have hall : (Nat.toDigits 10 k.natAbs).all Char.isDigit = true :=
        List.all_eq_true.2 hdigits.2
      have hvalue := digitsValue_toDigits k.natAbs
      by_cases hk : k < 0
      · have habs : -(k.natAbs : Int) = k := by omega
        simp only [powerText, if_pos hk, readExponent?, readSign, hempty, hall, hvalue, habs]
        rfl
      · have habs : (k.natAbs : Int) = k := by omega
        simp only [powerText, if_neg hk, readExponent?, readSign, hempty, hall, hvalue, habs]
        rfl

/-- Digits before a text that does not begin with one. -/
theorem span_digits {digits rest : List Char} (hdigits : ∀ c ∈ digits, c.isDigit = true)
    (hrest : ∀ c ∈ rest.head?, c.isDigit = false) :
    (digits ++ rest).takeWhile Char.isDigit = digits ∧
      (digits ++ rest).dropWhile Char.isDigit = rest := by
  rw [List.takeWhile_append_of_pos hdigits, List.dropWhile_append_of_pos hdigits]
  cases rest with
  | nil => simp
  | cons c rest => simp [hrest c rfl]

/-- A power begins with no digit. -/
theorem head_powerText (power : Option Int) :
    ∀ c ∈ (powerText power).head?, c.isDigit = false := by
  cases power with
  | none => nofun
  | some k =>
      rintro c ⟨⟩
      rfl

/-- What follows the whole digits begins with no digit. -/
theorem head_pointText (fraction : List Char) (power : Option Int) :
    ∀ c ∈ (pointText fraction ++ powerText power).head?, c.isDigit = false := by
  cases fraction with
  | nil => exact head_powerText power
  | cons d more =>
      rintro c ⟨⟩
      rfl

/-- A numeral is read as the number nearest to the decimal it spells. -/
theorem readUnsigned?_text (n : Numeral) (negative : Bool) :
    readUnsigned? negative n.text =
      some (ofDecimal negative n.decimal.digits n.decimal.exponent) := by
  rcases n with ⟨whole, fraction, power, hwhole, hfraction⟩
  have hempty : whole.isEmpty = false := List.isEmpty_eq_false_iff.2 hwhole.1
  have hspan := span_digits hwhole.2 (head_pointText fraction power)
  have hread := readExponent?_powerText power
  simp only [text, decimal, readUnsigned?, hspan.1, hspan.2, hempty, Bool.false_and,
    Bool.false_eq_true, if_false]
  cases fraction with
  | nil =>
      -- without a point, what follows is empty or the exponent
      cases power with
      | none => simp [pointText, powerText, readExponent?]
      | some k =>
          simp only [powerText] at hread
          simp [pointText, powerText, hread]
  | cons d more =>
      have hpoint := span_digits hfraction (head_powerText power)
      simp only [pointText, List.cons_append] at hpoint ⊢
      simp only [hpoint.1, hpoint.2, hread, Option.map_some]

/-- A numeral is read as the number nearest to its decimal. -/
theorem ofText?_text (n : Numeral) :
    ofText? n.text = some (ofDecimal false n.decimal.digits n.decimal.exponent) := by
  have hread := n.readUnsigned?_text false
  rcases n.exists_text_cons with ⟨c, tail, htext, hc⟩
  rw [htext] at hread ⊢
  have hinf := lower_ne_of_digit hc tail "inf" rfl (by decide)
  have hinfinity := lower_ne_of_digit hc tail "infinity" rfl (by decide)
  have hnan := lower_ne_of_digit hc tail "nan" rfl (by decide)
  simp only [ofText?, readSign_digit hc, hinf, hinfinity, hnan, or_self, if_false]
  exact hread

end Numeral

/-! ## Layouts -/

/-- Digits further to the left count as many tens more as digits follow them. -/
theorem digitsValue_append (a b : List Char) :
    digitsValue (a ++ b) = digitsValue a * 10 ^ b.length + digitsValue b := by
  -- the value of the digits that were read before is carried along
  have hfold : ∀ (cs : List Char) (n : Nat),
      cs.foldl (fun n c => 10 * n + (c.toNat - '0'.toNat)) n =
        n * 10 ^ cs.length + digitsValue cs := by
    intro cs
    induction cs with
    | nil => simp [digitsValue]
    | cons c cs ih =>
        intro n
        have hone : digitsValue (c :: cs) =
            cs.foldl (fun n c => 10 * n + (c.toNat - '0'.toNat)) (10 * 0 + (c.toNat - '0'.toNat)) :=
          rfl
        rw [List.foldl_cons, ih, hone, ih, List.length_cons, Nat.pow_succ]
        ring
  rw [digitsValue, List.foldl_append, hfold]
  rfl

theorem digitsValue_zeros (n : Nat) : digitsValue (List.replicate n '0') = 0 := by
  induction n with
  | zero => rfl
  | succ n ih =>
      rw [List.replicate_succ, ← List.singleton_append, digitsValue_append, ih]
      simp [digitsValue]

/-- Zeros in front of digits do not count. -/
theorem digitsValue_padded (zeros n : Nat) :
    digitsValue (List.replicate zeros '0' ++ Nat.toDigits 10 n) = n := by
  rw [digitsValue_append, digitsValue_zeros, digitsValue_toDigits, Nat.zero_mul, Nat.zero_add]

theorem isDigit_of_mem_zero : ∀ c ∈ ['0'], c.isDigit = true := by
  simp

/-- The positional text of a decimal without fraction digits is a numeral of the same value. -/
theorem exists_positional_whole {d : Decimal} (hexponent : 0 ≤ d.exponent) :
    ∃ n : Numeral, n.text = (d.positionalText true).toList ∧ n.decimal.value = d.value := by
  have hdigits := Json.areDigits_toDigits d.digits
  by_cases hzero : d.digits = 0
  · refine ⟨⟨Nat.toDigits 10 d.digits, ['0'], none, hdigits, isDigit_of_mem_zero⟩, ?_, ?_⟩
    · simp [Numeral.text, Numeral.pointText, Numeral.powerText, Decimal.positionalText, hexponent,
        hzero]
    · simp [Numeral.decimal, Decimal.value, hzero, digitsValue]
  · have hall := hdigits.append fun c hc =>
      Json.isDigit_of_mem_zeros (n := d.exponent.toNat) (c := c) hc
    refine ⟨⟨_, ['0'], none, hall, isDigit_of_mem_zero⟩, ?_, ?_⟩
    · simp [Numeral.text, Numeral.pointText, Numeral.powerText, Decimal.positionalText, hexponent,
        hzero]
    · -- the zero after the point counts ten times less than it is read
      have hlast : digitsValue ['0'] = 0 := rfl
      have hpower : (10 : ℚ) ^ d.exponent = 10 ^ d.exponent.toNat := by
        rw [← zpow_natCast, Int.toNat_of_nonneg hexponent]
      simp only [Numeral.decimal, Decimal.value, digitsValue_append, digitsValue_toDigits,
        digitsValue_zeros, hlast, hpower, List.length_replicate, List.length_singleton]
      push_cast
      norm_num
      ring

/-- Digits that a point cuts, with at least one digit on either side of it. -/
theorem exists_cut {padded : List Char} {places : Nat} (hall : ∀ c ∈ padded, c.isDigit = true)
    (hplaces : 0 < places) (hlength : places < padded.length) :
    ∃ n : Numeral, n.text = padded.take (padded.length - places) ++
        '.' :: padded.drop (padded.length - places) ∧
      n.decimal = ⟨digitsValue padded, -(places : Int)⟩ := by
  have hfraction : (padded.drop (padded.length - places)).length = places := by
    rw [List.length_drop]
    omega
  have hwhole : padded.take (padded.length - places) ≠ [] := by
    refine List.ne_nil_of_length_pos ?_
    rw [List.length_take]
    omega
  have hpoint : padded.drop (padded.length - places) ≠ [] := by
    refine List.ne_nil_of_length_pos ?_
    rwa [hfraction]
  refine ⟨⟨padded.take (padded.length - places), padded.drop (padded.length - places), none,
    ⟨hwhole, fun c hc => hall c (List.mem_of_mem_take hc)⟩,
    fun c hc => hall c (List.mem_of_mem_drop hc)⟩, ?_, ?_⟩
  · simp [Numeral.text, Numeral.pointText_of_ne_nil hpoint, Numeral.powerText]
  · simp only [Numeral.decimal, List.take_append_drop, hfraction, Option.getD_none, zero_sub]

/-- The positional text of a decimal with fraction digits is a numeral of the same value. -/
theorem exists_positional_parts {d : Decimal} (hexponent : d.exponent < 0) :
    ∃ n : Numeral, n.text = (d.positionalText true).toList ∧ n.decimal.value = d.value := by
  have hdigits := Json.areDigits_toDigits d.digits
  have hvalue := digitsValue_padded ((-d.exponent).toNat + 1 - (Nat.toDigits 10 d.digits).length)
    d.digits
  have hplaces : 0 < (-d.exponent).toNat := by omega
  have hexponent' : -((-d.exponent).toNat : Int) = d.exponent := by omega
  unfold Decimal.positionalText
  simp only [not_le.2 hexponent, if_false]
  generalize (-d.exponent).toNat = places at *
  -- there are as many zeros in front as it takes for a digit before the point
  have hlength : places < (List.replicate (places + 1 - (Nat.toDigits 10 d.digits).length) '0' ++
      Nat.toDigits 10 d.digits).length := by
    rw [List.length_append, List.length_replicate]
    omega
  have hall : ∀ c ∈ List.replicate (places + 1 - (Nat.toDigits 10 d.digits).length) '0' ++
      Nat.toDigits 10 d.digits, c.isDigit = true := by
    intro c hc
    rcases List.mem_append.1 hc with hmem | hmem
    · exact Json.isDigit_of_mem_zeros hmem
    · exact hdigits.2 c hmem
  generalize List.replicate (places + 1 - (Nat.toDigits 10 d.digits).length) '0' ++
    Nat.toDigits 10 d.digits = padded at *
  rcases exists_cut hall hplaces hlength with ⟨n, htext, hdecimal⟩
  refine ⟨n, ?_, ?_⟩
  · rw [htext]
    simp
  · rw [hdecimal, Decimal.value, Decimal.value, hvalue, hexponent']

/-- The layout without an exponent is a numeral of the decimal's value. -/
theorem exists_positional (d : Decimal) :
    ∃ n : Numeral, n.text = (d.positionalText true).toList ∧ n.decimal.value = d.value := by
  rcases le_or_gt 0 d.exponent with hexponent | hexponent
  · exact exists_positional_whole hexponent
  · exact exists_positional_parts hexponent

/-- The layout with an exponent is a numeral of the decimal's value. -/
theorem exists_scientific (d : Decimal) :
    ∃ n : Numeral, n.text = (d.scientificText true).toList ∧ n.decimal.value = d.value := by
  have hdigits := Json.areDigits_toDigits d.digits
  have hvalue := digitsValue_toDigits d.digits
  unfold Decimal.scientificText
  generalize Nat.toDigits 10 d.digits = digits at *
  cases digits with
  | nil => exact absurd rfl hdigits.1
  | cons c more =>
      have hmore : ∀ e ∈ more, e.isDigit = true :=
        fun e he => hdigits.2 e (List.mem_cons_of_mem c he)
      refine ⟨⟨[c], more, some (d.exponent + ((c :: more).length : Int) - 1),
        ⟨by simp, by simpa using hdigits.2 c List.mem_cons_self⟩, hmore⟩, ?_, ?_⟩
      · dsimp only
        -- the layout does not depend on where the exponent comes from
        generalize d.exponent + ((c :: more).length : Int) - 1 = power
        cases more with
        | nil =>
            by_cases hpower : power < 0 <;>
              simp [Numeral.text, Numeral.pointText, Numeral.powerText, hpower]
        | cons e more =>
            by_cases hpower : power < 0 <;>
              simp [Numeral.text, Numeral.pointText, Numeral.powerText, hpower]
      · simp only [Numeral.decimal, Decimal.value, List.singleton_append, hvalue]
        congr 2
        simp
        ring

/-! ## The text of a number -/

/-- A zero has the exponent zero. -/
theorem Finite.withSign_of_zero {x : Finite} (hx : x.significand = 0) (negative : Bool) :
    x.withSign negative = zero negative := by
  rcases x with ⟨_, m, e, hcanonical⟩
  obtain rfl : m = 0 := hx
  obtain rfl : e = 0 := by
    rcases hcanonical.2.2 with hzero | hlarge
    · exact hzero
    · cases hlarge
  rfl

/-- A numeral of the value that is written for a number is read as the number without its sign. -/
theorem ofText?_of_value {x : Finite} {n : Numeral} (h : n.decimal.value = x.shortest.value) :
    ofText? n.text = some (.finite (x.withSign false)) := by
  rw [n.ofText?_text]
  refine congrArg some ?_
  -- the interval of zero is no matter: a zero is read from its digits, whatever the exponent
  by_cases hx : x.significand = 0
  · have hzero : x.shortest = ⟨0, 0⟩ := by
      have hisZero : x.isZero = true := beq_iff_eq.2 hx
      rw [Finite.shortest, if_pos hisZero]
    have hdigits : n.decimal.digits = 0 := by
      rw [hzero] at h
      simpa [Decimal.value, zpow_ne_zero] using h
    rw [Finite.withSign_of_zero hx, hdigits]
    rfl
  · refine ofDecimal_of_rounds hx ?_ false
    rw [h]
    exact Finite.rounds_shortest hx

/-- But for its sign, a number is written as a numeral that is read as the number. -/
theorem Finite.exists_numeral (x : Finite) (range : Option (Int × Int)) :
    ∃ n : Numeral,
      (x.written ⟨range, true, true⟩).toList = (if x.negative then ['-'] else []) ++ n.text ∧
        ofText? n.text = some (.finite (x.withSign false)) := by
  have hsign : (if x.negative then "-" else "").toList = if x.negative then ['-'] else [] := by
    cases x.negative <;> rfl
  -- both layouts are read back, so the range that chooses between them does not matter
  have hlayout : ∀ positional : Bool, ∃ n : Numeral,
      (if positional then x.shortest.positionalText true
        else x.shortest.scientificText true).toList = n.text ∧
        ofText? n.text = some (.finite (x.withSign false)) := by
    intro positional
    cases positional with
    | true =>
        rcases exists_positional x.shortest with ⟨n, htext, hvalue⟩
        exact ⟨n, htext.symm, ofText?_of_value hvalue⟩
    | false =>
        rcases exists_scientific x.shortest with ⟨n, htext, hvalue⟩
        exact ⟨n, htext.symm, ofText?_of_value hvalue⟩
  unfold written
  dsimp only
  rw [String.toList_append, hsign]
  rcases hlayout _ with ⟨n, htext, hread⟩
  exact ⟨n, congrArg _ htext, hread⟩

end Binary64
end Gleaner
