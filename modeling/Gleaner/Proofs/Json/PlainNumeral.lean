import Gleaner.Json.Basic
/-!
# The plain text of numbers

The text of a number for a cell or for another language is positional: digits with an optional minus
sign before them and an optional point among them, never with an exponent.

* `Json.PlainNumeral` describes such a text;
* `plainNumeral_text`: the plain text of every number is one.
-/

namespace Gleaner
namespace Json

/-- Digits, at least one. -/
def AreDigits (cs : List Char) : Prop :=
  cs ≠ [] ∧ ∀ c ∈ cs, c.isDigit = true

/-- A number without a sign and without an exponent. -/
inductive PlainMagnitude : List Char → Prop where
  | integer {whole : List Char} : AreDigits whole → PlainMagnitude whole
  | point {whole fraction : List Char} :
      AreDigits whole → AreDigits fraction → PlainMagnitude (whole ++ '.' :: fraction)

/-- A number without an exponent. -/
inductive PlainNumeral : List Char → Prop where
  | unsigned {cs : List Char} : PlainMagnitude cs → PlainNumeral cs
  | negative {cs : List Char} : PlainMagnitude cs → PlainNumeral ('-' :: cs)

theorem areDigits_toDigits (n : Nat) : AreDigits (Nat.toDigits 10 n) :=
  ⟨Nat.toDigits_ne_nil, fun _ hc => Nat.isDigit_of_mem_toDigits (by decide) (by decide) hc⟩

theorem AreDigits.append {a b : List Char} (ha : AreDigits a)
    (hb : ∀ c ∈ b, c.isDigit = true) : AreDigits (a ++ b) := by
  refine ⟨List.append_ne_nil_of_left_ne_nil ha.1 b, ?_⟩
  intro c hc
  rcases List.mem_append.1 hc with hleft | hright
  · exact ha.2 c hleft
  · exact hb c hright

theorem isDigit_of_mem_zeros {n : Nat} {c : Char} (h : c ∈ List.replicate n '0') :
    c.isDigit = true := by
  rw [(List.mem_replicate.1 h).2]
  decide

/-- Digits padded to more than `places` can be cut so that `places` of them follow the point. -/
theorem plainMagnitude_cut {digits : List Char} {places : Nat} (hplaces : 0 < places)
    (hlen : places < digits.length) (hdigits : ∀ c ∈ digits, c.isDigit = true) :
    PlainMagnitude (digits.take (digits.length - places) ++
      '.' :: digits.drop (digits.length - places)) := by
  refine .point ⟨?_, ?_⟩ ⟨?_, ?_⟩
  · intro hnil
    have hzero := congrArg List.length hnil
    simp only [List.length_take, List.length_nil] at hzero
    omega
  · exact fun c hc => hdigits c (List.mem_of_mem_take hc)
  · intro hnil
    have hzero := congrArg List.length hnil
    simp only [List.length_drop, List.length_nil] at hzero
    omega
  · exact fun c hc => hdigits c (List.mem_of_mem_drop hc)

/-- The positional text of a decimal is a plain magnitude. -/
theorem plainMagnitude_positionalText (d : Binary64.Decimal) :
    PlainMagnitude (d.positionalText false).toList := by
  have hdigits := areDigits_toDigits d.digits
  unfold Binary64.Decimal.positionalText
  by_cases hexp : 0 ≤ d.exponent
  · have hzeros : ∀ c ∈ (if d.digits = 0 then [] else List.replicate d.exponent.toNat '0'),
        c.isDigit = true := by
      intro c hc
      split at hc
      · cases hc
      · exact isDigit_of_mem_zeros hc
    simpa [hexp] using PlainMagnitude.integer (hdigits.append hzeros)
  · have hplaces : 0 < (-d.exponent).toNat := by omega
    generalize (-d.exponent).toNat = places at hplaces
    -- the zeros in front leave at least one digit before the point
    have hpadded : ∀ c ∈ List.replicate (places + 1 - (Nat.toDigits 10 d.digits).length) '0' ++
        Nat.toDigits 10 d.digits, c.isDigit = true := by
      intro c hc
      rcases List.mem_append.1 hc with hzero | hdigit
      · exact isDigit_of_mem_zeros hzero
      · exact hdigits.2 c hdigit
    have hlen : places < (List.replicate (places + 1 - (Nat.toDigits 10 d.digits).length) '0' ++
        Nat.toDigits 10 d.digits).length := by
      rw [List.length_append, List.length_replicate]
      omega
    have hcut := plainMagnitude_cut hplaces hlen hpadded
    simp only [hexp, if_false, String.toList_ofList, List.length_take]
    rwa [Nat.min_eq_left (Nat.sub_le _ _)]

theorem plainNumeral_written (x : Binary64.Finite) :
    PlainNumeral (x.written Binary64.plainStyle).toList := by
  have h := plainMagnitude_positionalText x.shortest
  simp only [Binary64.Finite.written, Binary64.plainStyle, if_true, String.toList_append]
  cases x.negative with
  | true => exact .negative h
  | false => exact .unsigned h

/-- The text of an integer is a plain numeral. -/
theorem plainNumeral_toString (n : Int) : PlainNumeral (toString n).toList := by
  rw [Int.toString_eq_repr, Int.repr_eq_if]
  by_cases hsign : 0 ≤ n
  · rw [if_pos hsign, Nat.toList_repr]
    exact .unsigned (.integer (areDigits_toDigits _))
  · rw [if_neg hsign, String.toList_append, Nat.toList_repr]
    exact .negative (.integer (areDigits_toDigits _))

/-- The plain text of a number has no exponent. -/
theorem plainNumeral_text (n : Number) : PlainNumeral n.text.toList := by
  cases n with
  | integer n => exact plainNumeral_toString n
  | real x => exact plainNumeral_written x

end Json
end Gleaner
