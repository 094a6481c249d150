import Gleaner.Proofs.Json.NumberText
import Gleaner.Proofs.Json.Occurrences
import Gleaner.Proofs.Query.WrittenText
/-!
# Lexing of written values

The compact text of a value is a query text, too. What is lexed of it are the tokens of the value's
scalars, with brackets and commas around them; only the braces of an object are no tokens.

* `Json.NumbersInRange` and `Json.HoldsObject` speak of the values inside of a value;
* `valueTokens` are the tokens of a value without objects;
* `numeralLength_tail`: the lexer finds the end of a numeral before a comma or a bracket;
* `tokens?_compact` is the result for a value without objects, `tokens?_compact_of_holdsObject` for
  any other one;
* `normalize_compact`: the text of a value is in its native form.
-/

namespace Gleaner

/-! ## The values inside of a value -/

namespace Json

/-- Every number inside of the value is one that is kept exact or a binary number. -/
def NumbersInRange (v : Json) : Prop :=
  ∀ n, number n ∈ v.everyValue → n.InRange

/-- Some object stands inside of the value, or is the value. -/
def HoldsObject (v : Json) : Prop :=
  ∃ members, object members ∈ v.everyValue

theorem mem_everyItem {w : Json} {items : List Json} :
    w ∈ everyItem items ↔ ∃ v ∈ items, w ∈ v.everyValue := by
  rw [everyItem_eq_flatMap, List.mem_flatMap]

theorem numbersInRange_number {n : Number} : (number n).NumbersInRange ↔ n.InRange := by
  simp [NumbersInRange, everyValue]

/-- The numbers inside an array are those inside its items. -/
theorem numbersInRange_array {items : List Json} :
    (array items).NumbersInRange ↔ ∀ v ∈ items, v.NumbersInRange := by
  simp only [NumbersInRange, everyValue, List.mem_cons, reduceCtorEq, false_or, mem_everyItem]
  constructor
  · intro h v hv n hn
    exact h n ⟨v, hv, hn⟩
  · rintro h n ⟨v, hv, hn⟩
    exact h v hv n hn

theorem mem_everyMember {w : Json} {members : Members} :
    w ∈ everyMember members ↔ ∃ v ∈ members.values, w ∈ v.everyValue := by
  rw [everyMember_eq_flatMap, List.mem_flatMap]

/-- The numbers inside an object are those inside its members. -/
theorem numbersInRange_object {members : Members} :
    (object members).NumbersInRange ↔ ∀ v ∈ members.values, v.NumbersInRange := by
  simp only [NumbersInRange, everyValue, List.mem_cons, reduceCtorEq, false_or, mem_everyMember]
  constructor
  · intro h v hv n hn
    exact h n ⟨v, hv, hn⟩
  · rintro h n ⟨v, hv, hn⟩
    exact h v hv n hn

/-- An array is no object itself, but its items may hold one. -/
theorem holdsObject_array {items : List Json} :
    (array items).HoldsObject ↔ ∃ v ∈ items, v.HoldsObject := by
  simp only [HoldsObject, everyValue, List.mem_cons, reduceCtorEq, false_or, mem_everyItem]
  constructor
  · rintro ⟨ms, v, hv, hms⟩
    exact ⟨v, hv, ms, hms⟩
  · rintro ⟨v, hv, ms, hms⟩
    exact ⟨ms, v, hv, hms⟩

theorem holdsObject_object (members : Members) : (object members).HoldsObject :=
  ⟨members, by simp [everyValue]⟩

/-! ## The texts of values -/

/-- Joined with commas, each part after the first has a comma before it. -/
theorem toList_joinWith_cons (first : String) (rest : List String) :
    (Text.joinWith "," (first :: rest)).toList =
      first.toList ++ rest.flatMap fun part => ',' :: part.toList := by
  induction rest generalizing first with
  | nil => simp [Text.joinWith]
  | cons second rest ih =>
      have hcons : (Text.joinWith "," (first :: second :: rest)).toList =
          first.toList ++ ',' :: (Text.joinWith "," (second :: rest)).toList := by
        simp [Text.joinWith, String.toList_intercalate]
      rw [hcons, ih, List.flatMap_cons, List.cons_append]

theorem compactItems_eq_map (items : List Json) : compactItems items = items.map compact := by
  induction items with
  | nil => rfl
  | cons v items ih => rw [compactItems, ih, List.map_cons]

def moreText (items : List Json) : List Char :=
  items.flatMap fun v => ',' :: v.compact.toList

theorem moreText_cons_append (v : Json) (items : List Json) (cs : List Char) :
    moreText (v :: items) ++ cs = ',' :: (v.compact.toList ++ (moreText items ++ cs)) := by
  simp [moreText]

theorem compact_array_nil : (array []).compact.toList = ['[', ']'] := by
  decide

/-- The text of an array: brackets around its items, with commas between them. -/
theorem compact_array_cons (v : Json) (rest : List Json) :
    (array (v :: rest)).compact.toList =
      '[' :: (v.compact.toList ++ (moreText rest ++ [']'])) := by
  have hopen : "[".toList = ['['] := rfl
  have hclose : "]".toList = [']'] := rfl
  simp only [compact, compactItems, String.toList_append, toList_joinWith_cons, hopen, hclose,
    compactItems_eq_map, List.flatMap_map, moreText, List.append_assoc, List.cons_append,
    List.nil_append]

theorem compact_object (members : Members) :
    (object members).compact.toList =
      '\x7b' :: ((Text.joinWith "," (compactMembers members)).toList ++ ['\x7d']) := by
  simp [compact]

end Json

namespace Query

open Json (NumbersInRange HoldsObject moreText)
open Binary64 (Numeral)

/-! ## Tokens -/

/-- The tokens of a number: a sign is a token of its own. -/
def numberTokens (n : Number) : List Token :=
  (if n.toFinite.negative then [.operator .sub] else []) ++
    [.num (.finite (n.toFinite.withSign false))]

mutual

/-- The tokens of the text of a value; there are none for an object. -/
def valueTokens : Json → List Token
  | .null => [.ident "null"]
  | .bool b => [.ident (if b then "true" else "false")]
  | .number n => numberTokens n
  | .string s => [.str s]
  | .array [] => [.leftBracket, .rightBracket]
  | .array (v :: rest) =>
    .leftBracket :: (valueTokens v ++ (moreTokens rest ++ [.rightBracket]))
  | .object _ => []

/-- The tokens of the items after the first one, each after a comma. -/
def moreTokens : List Json → List Token
  | [] => []
  | v :: rest => .comma :: (valueTokens v ++ moreTokens rest)

end

/-- What may follow a value: a comma, a closing bracket, or nothing. -/
def EndsValue (cs : List Char) : Prop :=
  ∀ c ∈ cs.head?, c = ',' ∨ c = ']'

theorem endsValue_cons {c : Char} (hc : c = ',' ∨ c = ']') (cs : List Char) :
    EndsValue (c :: cs) := by
  rintro d ⟨⟩
  exact hc

/-- What follows an item may follow a value. -/
theorem endsValue_moreText (items : List Json) (cs : List Char) :
    EndsValue (moreText items ++ ']' :: cs) := by
  cases items with
  | nil => exact endsValue_cons (.inr rfl) cs
  | cons v items => exact endsValue_cons (.inl rfl) _

/-! ## Numbers -/

theorem EndsValue.head {cs : List Char} (h : EndsValue cs) :
    ∀ c ∈ cs.head?, c.isDigit = false ∧ c ≠ '.' ∧ c ≠ 'e' ∧ c ≠ 'E' := by
  intro c hc
  rcases h c hc with rfl | rfl <;> decide

theorem digitsLength_append {digits rest : List Char} (hdigits : ∀ c ∈ digits, c.isDigit = true)
    (hrest : ∀ c ∈ rest.head?, c.isDigit = false) :
    digitsLength (digits ++ rest) = digits.length := by
  rw [digitsLength, (Binary64.Numeral.span_digits hdigits hrest).1]

/-- The exponent of a numeral is measured as far as it is written. -/
theorem exponentLength_powerText (power : Option Int) {cs : List Char} (hcs : EndsValue cs) :
    exponentLength (Numeral.powerText power ++ cs) = (Numeral.powerText power).length := by
  cases power with
  | none =>
      cases cs with
      | nil => rfl
      | cons c rest =>
          have hc := hcs.head c rfl
          simp [Numeral.powerText, exponentLength, hc.2.2]
  | some k =>
      have hdigits := Json.areDigits_toDigits k.natAbs
      have hlength := digitsLength_append hdigits.2 fun c hc => (hcs.head c hc).1
      have hpositive := List.length_pos_of_ne_nil hdigits.1
      -- the sign is one character, whichever it is
      by_cases hk : k < 0
      · simp [Numeral.powerText, exponentLength, hk, hlength]
        omega
      · simp [Numeral.powerText, exponentLength, hk, hlength]
        omega

theorem head_powerText_append (power : Option Int) {cs : List Char} (hcs : EndsValue cs) :
    ∀ c ∈ (Numeral.powerText power ++ cs).head?, c.isDigit = false ∧ c ≠ '.' := by
  cases power with
  | none => exact fun c hc => ⟨(hcs.head c hc).1, (hcs.head c hc).2.1⟩
  | some k =>
      rintro c ⟨⟩
      decide

/-- The fraction of a numeral is measured as far as it is written. -/
theorem fractionLength_pointText {fraction rest : List Char}
    (hfraction : ∀ c ∈ fraction, c.isDigit = true)
    (hrest : ∀ c ∈ rest.head?, c.isDigit = false ∧ c ≠ '.') :
    fractionLength (Numeral.pointText fraction ++ rest) = (Numeral.pointText fraction).length := by
  cases fraction with
  | nil => exact fractionLength_eq_zero fun c hc => (hrest c hc).2
  | cons d more =>
      have hlength := digitsLength_append hfraction fun c hc => (hrest c hc).1
      rw [List.cons_append] at hlength
      simp [Numeral.pointText, fractionLength, hlength]

/-- The lexer finds the end of a numeral, after its first digit. -/
theorem numeralLength_tail {m : Numeral} {c : Char} {tail cs : List Char}
    (htext : m.text = c :: tail) (hcs : EndsValue cs) :
    numeralLength (tail ++ cs) = tail.length := by
  rcases m with ⟨whole, fraction, power, hwhole, hfraction⟩
  cases whole with
  | nil => exact absurd rfl hwhole.1
  | cons d digits =>
      obtain ⟨rfl, rfl⟩ : d = c ∧
          digits ++ (Numeral.pointText fraction ++ Numeral.powerText power) = tail := by
        simpa [Numeral.text] using htext
      -- each part ends where the next one begins, or else where the numeral ends
      have hpower := head_powerText_append power hcs
      have hpoint : ∀ e ∈ (Numeral.pointText fraction ++ (Numeral.powerText power ++ cs)).head?,
          e.isDigit = false := by
        cases fraction with
        | nil => exact fun e he => (hpower e he).1
        | cons e more =>
            rintro _ ⟨⟩
            rfl
      have hdigits := digitsLength_append
        (fun e he => hwhole.2 e (List.mem_cons_of_mem d he)) hpoint
      have hfractionLength := fractionLength_pointText hfraction hpower
      have hexponentLength := exponentLength_powerText power hcs
      simp only [numeralLength, List.append_assoc, hdigits, List.drop_left, hfractionLength,
        ← List.drop_drop, hexponentLength, List.length_append, Nat.add_assoc]

/-- A numeral is lexed as one number before whatever may follow a value. -/
theorem tokens?_numeral {m : Numeral} {x : Binary64} (hx : Binary64.ofText? m.text = some x)
    {cs : List Char} (hcs : EndsValue cs) :
    tokens? (m.text ++ cs) = (tokens? cs).map (.num x :: ·) := by
  rcases m.exists_text_cons with ⟨c, tail, htext, hc⟩
  have hlength := numeralLength_tail htext hcs
  have hcode := Text.toNat_of_isDigit hc
  rw [htext] at hx ⊢
  refine tokens?_of_scan tail (Text.isBlank_eq_false (by omega) (by omega)) ?_
  rw [scan_digit hc, hlength, List.take_left, hx, Option.getD_some]

/-- A written number is lexed as its tokens before whatever may follow a value. -/
theorem tokens?_number {n : Number} (h : n.InRange) {cs : List Char} (hcs : EndsValue cs) :
    tokens? (n.written.toList ++ cs) = (tokens? cs).map (numberTokens n ++ ·) := by
  rcases n.exists_numeral h with ⟨m, htext, hread⟩
  have hnumeral := tokens?_numeral hread hcs
  rw [htext, numberTokens]
  -- the language has no negative literals, so a sign is lexed before the numeral
  cases n.toFinite.negative with
  | false => simpa using hnumeral
  | true =>
      have hsign : tokens? ('-' :: (m.text ++ cs)) =
          (tokens? (m.text ++ cs)).map (.operator .sub :: ·) :=
        tokens?_text (t := .operator .sub) trivial trivial
      simpa [hnumeral, Function.comp_def] using hsign

/-! ## Values without objects -/

theorem tokens?_leftBracket (cs : List Char) :
    tokens? ('[' :: cs) = (tokens? cs).map (.leftBracket :: ·) :=
  tokens?_symbol [] (by decide) rfl

theorem tokens?_rightBracket (cs : List Char) :
    tokens? (']' :: cs) = (tokens? cs).map (.rightBracket :: ·) :=
  tokens?_text (t := .rightBracket) trivial trivial

theorem tokens?_comma (cs : List Char) :
    tokens? (',' :: cs) = (tokens? cs).map (.comma :: ·) :=
  tokens?_text (t := .comma) trivial trivial

theorem tokens?_name (name : String) (hname : Text.isName name = true) {cs : List Char}
    (hcs : EndsValue cs) : tokens? (name.toList ++ cs) = (tokens? cs).map (.ident name :: ·) := by
  refine tokens?_text (t := .ident name) hname (nameLength_eq_zero fun c hc => ?_)
  rcases hcs c hc with rfl | rfl <;> decide

theorem compact_string_eq_text (s : String) :
    (Json.string s).compact.toList = (Token.str s).text := by
  simp [Json.compact, Json.writtenString, Token.text]

/-- The text of a value is lexed into the value's tokens, before whatever may follow it. -/
def LexesAs (v : Json) (ts : List Token) : Prop :=
  ∀ ⦃cs⦄, EndsValue cs → tokens? (v.compact.toList ++ cs) = (tokens? cs).map (ts ++ ·)

/-- Further items are lexed one after the other, up to the closing bracket. -/
theorem tokens?_moreText {items : List Json} (h : ∀ v ∈ items, LexesAs v (valueTokens v))
    (cs : List Char) :
    tokens? (moreText items ++ ']' :: cs) =
      (tokens? cs).map (moreTokens items ++ .rightBracket :: ·) := by
  induction items with
  | nil => exact tokens?_rightBracket cs
  | cons v items ih =>
      have hmore := ih fun w hw => h w (List.mem_cons_of_mem v hw)
      have hv := h v List.mem_cons_self (endsValue_moreText items cs)
      rw [Json.moreText_cons_append, tokens?_comma, hv, hmore]
      simp [moreTokens, Function.comp_def]

/-- The text of a value without objects is lexed into its tokens. -/
theorem tokens?_compact {v : Json} (hrange : v.NumbersInRange) (hplain : ¬ v.HoldsObject) :
    LexesAs v (valueTokens v) := by
  -- the induction is on the parts of the value, and covers every text that may follow
  induction v using Json.parts_induction with
  | step v ih =>
      intro cs hcs
      cases v with
      | null => exact tokens?_name "null" (by decide) hcs
      | bool b =>
          cases b with
          | true => exact tokens?_name "true" (by decide) hcs
          | false => exact tokens?_name "false" (by decide) hcs
      | number n => exact tokens?_number (Json.numbersInRange_number.1 hrange) hcs
      | string s =>
          rw [compact_string_eq_text, valueTokens]
          exact tokens?_text (t := .str s) trivial trivial
      | object members => exact absurd (Json.holdsObject_object members) hplain
      | array items =>
          rw [Json.numbersInRange_array] at hrange
          rw [Json.holdsObject_array] at hplain
          have hitems : ∀ v ∈ items, LexesAs v (valueTokens v) := fun v hv =>
            ih v hv (hrange v hv) fun hobject => hplain ⟨v, hv, hobject⟩
          cases items with
          | nil =>
              rw [Json.compact_array_nil, List.cons_append, tokens?_leftBracket]
              simp [tokens?_rightBracket, valueTokens, Function.comp_def]
          | cons v rest =>
              have hv := hitems v List.mem_cons_self (endsValue_moreText rest cs)
              have hmore := tokens?_moreText (fun w hw => hitems w (List.mem_cons_of_mem v hw)) cs
              have hsplit : (Json.array (v :: rest)).compact.toList ++ cs =
                  '[' :: (v.compact.toList ++ (moreText rest ++ ']' :: cs)) := by
                simp [Json.compact_array_cons]
              rw [hsplit, tokens?_leftBracket, hv, hmore]
              simp [valueTokens, Function.comp_def]

/-! ## Values with objects -/

/-- No token begins with a brace. -/
theorem tokens?_leftBrace (cs : List Char) : tokens? ('\x7b' :: cs) = none := by
  -- a brace begins no symbol, not even together with the next character
  have hsymbol : symbol? '\x7b' cs.head? = none := by
    cases cs.head? <;> rfl
  have hscan : scan 0 '\x7b' cs = .error (.unexpectedChar '\x7b' 0) := by
    have hname : Text.isNameStart '\x7b' = false := by decide
    simp [scan.eq_def, hname, hsymbol]
  rw [tokens?_token (by decide), hscan]
  rfl

/-- Further items are not lexed if one of them holds an object. -/
theorem tokens?_moreText_eq_none {items : List Json} (hrange : ∀ v ∈ items, v.NumbersInRange)
    (h : ∀ v ∈ items, v.HoldsObject → ∀ cs, tokens? (v.compact.toList ++ cs) = none)
    (hsome : ∃ v ∈ items, v.HoldsObject) (cs : List Char) :
    tokens? (moreText items ++ ']' :: cs) = none := by
  induction items with
  | nil => simp at hsome
  | cons v items ih =>
      rw [Json.moreText_cons_append, tokens?_comma]
      by_cases hv : v.HoldsObject
      · rw [h v List.mem_cons_self hv]
        rfl
      · -- the item is lexed, and the object is in a later one
        have hlater : ∃ w ∈ items, w.HoldsObject := by simpa [hv] using hsome
        have hmore := ih (fun w hw => hrange w (List.mem_cons_of_mem v hw))
          (fun w hw => h w (List.mem_cons_of_mem v hw)) hlater
        have hlexes := tokens?_compact (hrange v List.mem_cons_self) hv
        rw [hlexes (endsValue_moreText items cs), hmore]
        rfl

/-- The text of a value in which an object stands cannot be lexed. -/
theorem tokens?_compact_of_holdsObject {v : Json} (hrange : v.NumbersInRange)
    (hobject : v.HoldsObject) (cs : List Char) : tokens? (v.compact.toList ++ cs) = none := by
  induction v using Json.parts_induction generalizing cs with
  | step v ih =>
      cases v with
      | object members =>
          rw [Json.compact_object, List.cons_append, tokens?_leftBrace]
      | array items =>
          rw [Json.numbersInRange_array] at hrange
          rw [Json.holdsObject_array] at hobject
          have hitems : ∀ v ∈ items, v.HoldsObject → ∀ cs,
              tokens? (v.compact.toList ++ cs) = none :=
            fun v hv hobject cs => ih v hv (hrange v hv) hobject cs
          cases items with
          | nil => simp at hobject
          | cons v rest =>
              -- the items are lexed as if a comma stood in front of the first one, too
              have hmore := tokens?_moreText_eq_none hrange hitems hobject cs
              rw [Json.moreText_cons_append, tokens?_comma, Option.map_eq_none_iff] at hmore
              simp [Json.compact_array_cons, tokens?_leftBracket, hmore]
      | _ =>
          rcases hobject with ⟨members, hmem⟩
          simp [Json.everyValue] at hmem

/-! ## The native form -/

/-- No wildcard begins in the text, whatever follows it. -/
def WildcardFree (front : List Char) : Prop :=
  ∀ cs, replaceWildcards .code (front ++ cs) = front ++ replaceWildcards .code cs

theorem WildcardFree.append {a b : List Char} (ha : WildcardFree a) (hb : WildcardFree b) :
    WildcardFree (a ++ b) := by
  intro cs
  rw [List.append_assoc, ha, hb, List.append_assoc]

theorem WildcardFree.of_plain {front : List Char} (h : ∀ c ∈ front, c ≠ '[' ∧ c ≠ '"') :
    WildcardFree front :=
  replaceWildcards_append h

/-- Commas between texts without wildcards begin none. -/
theorem WildcardFree.joined {parts : List String}
    (h : ∀ part ∈ parts, WildcardFree part.toList) :
    WildcardFree (Text.joinWith "," parts).toList := by
  cases parts with
  | nil => exact fun cs => rfl
  | cons first rest =>
      have hmore : WildcardFree (rest.flatMap fun part => ',' :: part.toList) := by
        have hrest : ∀ part ∈ rest, WildcardFree part.toList :=
          fun part hpart => h part (List.mem_cons_of_mem first hpart)
        induction rest with
        | nil => exact fun cs => rfl
        | cons part rest ih =>
            have hcomma : WildcardFree [','] := .of_plain (by simp)
            have hpart := hrest part List.mem_cons_self
            exact (hcomma.append hpart).append
              (ih (by simp_all) fun p hp => hrest p (List.mem_cons_of_mem part hp))
      rw [Json.toList_joinWith_cons]
      exact (h first List.mem_cons_self).append hmore

/-- The characters of a number are those of a numeral. -/
theorem forall_mem_written {P : Char → Prop} (hdigit : ∀ c : Char, c.isDigit = true → P c)
    (hmark : ∀ c ∈ ['-', '.', 'e', '+'], P c) {n : Number} (h : n.InRange) :
    ∀ c ∈ n.written.toList, P c := by
  rcases n.exists_numeral h with ⟨m, htext, _⟩
  have hsign : ∀ c ∈ (if n.toFinite.negative then ['-'] else []), P c := by
    split
    · simpa using hmark '-' (by simp)
    · nofun
  rw [htext, List.forall_mem_append]
  exact ⟨hsign, m.forall_mem_text hdigit hmark⟩

/-- A text begins with neither a blank, nor an anchor, nor a star, and ends without a blank. -/
structure FirmlyBounded (cs : List Char) : Prop where
  front : ∃ c rest, cs = c :: rest ∧ Text.isBlank c = false ∧ c ≠ '$' ∧ c ≠ '*'
  back : Firm cs

theorem FirmlyBounded.of_forall {cs : List Char} (hne : cs ≠ [])
    (h : ∀ c ∈ cs, Text.isBlank c = false ∧ c ≠ '$' ∧ c ≠ '*') : FirmlyBounded cs where
  front := by
    cases cs with
    | nil => exact absurd rfl hne
    | cons c rest => exact ⟨c, rest, rfl, h c List.mem_cons_self⟩
  back := firm_of_all hne fun c hc => (h c hc).1

theorem FirmlyBounded.between {c d : Char} (hc : Text.isBlank c = false ∧ c ≠ '$' ∧ c ≠ '*')
    (hd : Text.isBlank d = false) (inside : List Char) :
    FirmlyBounded (c :: (inside ++ [d])) where
  front := ⟨c, _, rfl, hc⟩
  back := ⟨c :: inside, d, rfl, hd⟩

/-- A written number begins and ends without blanks. -/
theorem firmlyBounded_number {n : Number} (h : n.InRange) : FirmlyBounded n.written.toList := by
  refine .of_forall ?_ (forall_mem_written (fun c hc => ?_) (forall_mem_of_all (by decide)) h)
  · rcases n.exists_numeral h with ⟨m, htext, _⟩
    rcases m.exists_text_cons with ⟨c, tail, hcons, _⟩
    rw [htext, hcons]
    simp
  · have hcode := Text.toNat_of_isDigit hc
    exact ⟨Text.isBlank_eq_false (by omega) (by omega), ne_of_test hc rfl, ne_of_test hc rfl⟩

/-- The text of a value begins and ends without blanks. -/
theorem firmlyBounded_compact {v : Json} (hrange : v.NumbersInRange) :
    FirmlyBounded v.compact.toList := by
  cases v with
  | null => exact .of_forall (by decide) (forall_mem_of_all (by decide))
  | bool b => cases b <;> exact .of_forall (by decide) (forall_mem_of_all (by decide))
  | number n => exact firmlyBounded_number (Json.numbersInRange_number.1 hrange)
  | string s =>
      rw [compact_string_eq_text]
      exact .between (by decide) (by decide) _
  | array items =>
      cases items with
      | nil => exact .of_forall (by decide) (forall_mem_of_all (by decide))
      | cons v rest =>
          rw [Json.compact_array_cons, ← List.append_assoc]
          exact .between (by decide) (by decide) _
  | object members =>
      rw [Json.compact_object]
      exact .between (by decide) (by decide) _

theorem WildcardFree.bracket {inside : List Char} (h : WildcardFree inside)
    (hfront : ∀ cs, (inside ++ cs).head? ≠ some '*') : WildcardFree ('[' :: inside) := by
  intro cs
  rw [List.cons_append, replaceWildcards_bracket (hfront cs), h cs, List.cons_append]

/-- No wildcard begins in a written string. -/
theorem wildcardFree_string (s : String) : WildcardFree (Json.writtenString s).toList := by
  have htext : (Json.writtenString s).toList = (Token.str s).text := by
    simp [Json.writtenString, Token.text]
  rw [htext]
  exact fun cs => replaceWildcards_text (t := .str s) trivial trivial

/-- What holds of every written member holds of all the parts that are joined. -/
theorem forall_mem_compactMembers {P : String → Prop} {members : Members}
    (h : ∀ key, ∀ v ∈ members.values, P (Json.writtenString key ++ ":" ++ v.compact)) :
    ∀ part ∈ Json.compactMembers members, P part := by
  induction members with
  | nil => nofun
  | cons m members ih =>
      rcases m with ⟨key, v⟩
      have hmore := ih fun key w hw => h key w (List.mem_cons_of_mem v hw)
      exact List.forall_mem_cons.2 ⟨h key v List.mem_cons_self, hmore⟩

/-- No wildcard begins in a written number. -/
theorem wildcardFree_number {n : Number} (h : n.InRange) : WildcardFree n.written.toList := by
  have hdigit : ∀ c : Char, c.isDigit = true → c ≠ '[' ∧ c ≠ '"' :=
    fun c hc => ⟨ne_of_test hc rfl, ne_of_test hc rfl⟩
  exact .of_plain (forall_mem_written hdigit (forall_mem_of_all (by decide)) h)

/-- No wildcard begins in the text of a value. -/
theorem wildcardFree_compact {v : Json} (hrange : v.NumbersInRange) :
    WildcardFree v.compact.toList := by
  induction v using Json.parts_induction with
  | step v ih =>
      have hclose : WildcardFree [']'] := .of_plain (forall_mem_of_all (by decide))
      cases v with
      | null => exact .of_plain (forall_mem_of_all (by decide))
      | bool b => cases b <;> exact .of_plain (forall_mem_of_all (by decide))
      | number n => exact wildcardFree_number (Json.numbersInRange_number.1 hrange)
      | string s => exact wildcardFree_string s
      | array items =>
          rw [Json.numbersInRange_array] at hrange
          have hitems : ∀ v ∈ items, WildcardFree v.compact.toList :=
            fun v hv => ih v hv (hrange v hv)
          have hparts : ∀ part ∈ Json.compactItems items, WildcardFree part.toList := by
            rw [Json.compactItems_eq_map]
            exact List.forall_mem_map.2 hitems
          have htext : (Json.array items).compact.toList =
              '[' :: ((Text.joinWith "," (Json.compactItems items)).toList ++ [']']) := by
            simp [Json.compact]
          rw [htext]
          refine ((WildcardFree.joined hparts).append hclose).bracket fun cs => ?_
          -- the first item does not begin with the star of a wildcard
          cases items with
          | nil => simp [Json.compactItems, Text.joinWith]
          | cons v rest =>
              rcases (firmlyBounded_compact (hrange v List.mem_cons_self)).front with
                ⟨c, tail, hcons, _, _, hstar⟩
              rw [Json.compactItems, Json.toList_joinWith_cons, hcons]
              simpa using hstar
      | object members =>
          -- the text of an object is no query, but it has no wildcard to replace either
          rw [Json.numbersInRange_object] at hrange
          have hparts : ∀ part ∈ Json.compactMembers members, WildcardFree part.toList := by
            refine forall_mem_compactMembers fun key v hv => ?_
            have hcolon : WildcardFree ":".toList := .of_plain (forall_mem_of_all (by decide))
            rw [String.toList_append, String.toList_append]
            exact ((wildcardFree_string key).append hcolon).append (ih v hv (hrange v hv))
          have hopen : WildcardFree ['\x7b'] := .of_plain (forall_mem_of_all (by decide))
          have hbrace : WildcardFree ['\x7d'] := .of_plain (forall_mem_of_all (by decide))
          rw [Json.compact_object]
          exact hopen.append ((WildcardFree.joined hparts).append hbrace)

/-- A text without a blank at an end, an anchor or a wildcard is in its native form. -/
theorem normalize_of_wildcardFree {cs : List Char} (hbounds : FirmlyBounded cs)
    (hwildcards : WildcardFree cs) : normalize cs = cs := by
  rcases hbounds with ⟨⟨c, rest, hcons, hblank, hanchor, _⟩, hfirm⟩
  have hkept := hwildcards []
  rw [List.append_nil] at hkept
  -- nothing is trimmed, no anchor is dropped, and no wildcard is replaced
  rw [normalize]
  rw [hcons] at hfirm hkept ⊢
  rw [trim_of_firm hblank hfirm, anchored_of_ne hanchor, hkept]
  simp [replaceWildcards]

/-- The text of a value is in its native form. -/
theorem normalize_compact {v : Json} (hrange : v.NumbersInRange) :
    normalize v.compact.toList = v.compact.toList :=
  normalize_of_wildcardFree (firmlyBounded_compact hrange) (wildcardFree_compact hrange)

end Query
end Gleaner
