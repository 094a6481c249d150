import Gleaner.Proofs.Query.ReadingBack
import Gleaner.Proofs.Query.ValueText
import Gleaner.Query.Evaluation
/-!
# Written values as queries

The text of a value without objects is a query that has the value as its only result, whatever the
input is, but for the numbers: the query language computes with binary numbers.

* `ReadAs.of_unary` and `ReadAs.of_primary`: what a level reads, the weaker ones read;
* `valueQuery` is the query that the text of a value writes, and `read_compact` says so;
* `Json.inBinary` is the value with the nearest binary number for each number, and
  `eval_valueQuery` says that it is the query's only result;
* `Json.compare_inBinary` and `Json.inBinary_integer_iff` compare the result with the value.
-/

namespace Gleaner

namespace Query

/-! ## Tokens read by a level -/

variable {t : Token} {ts : List Token} {q : Query} {level : Level}

theorem ReadAs.of_unary (hts : ts ≠ []) (h : ReadAs .unary ts q) (level : Level) :
    ReadAs level ts q :=
  h.of_stronger hts level.rank_le

/-- A primary expression that does not begin as a negation is read by the strongest level. -/
theorem ReadAs.of_primary (ht : t.startsTarget = true) (h : ReadsPrimary (t :: ts) q) :
    ReadAs .unary (t :: ts) q := by
  intro stop fuel ls rest hls hrest hfuel
  have hrank : Level.unary.rank = 8 := rfl
  have hpos : 0 < ls.length := hls.length ▸ Nat.succ_pos _
  -- the lemma on negations speaks of marks, which may be blanks, too; here all are tokens
  have hstart : StartsTarget ((t :: ts).map .token) := ⟨t, ts.map .token, rfl, .inl ht⟩
  have hmarks : tokensOf ((t :: ts).map .token) = t :: ts := by
    rw [tokensOf, List.flatMap_map]
    exact List.flatMap_singleton' _
  obtain ⟨fuel, rfl⟩ : ∃ f, fuel = f + 2 := ⟨fuel - 2, by omega⟩
  have hread := @h stop fuel ls rest hls hrest.detached (by omega)
  rw [parseLevel_unary hstart (hmarks.symm ▸ hls), parsePostfix_succ, hread]
  exact parseSuffixes_stops (by omega) hrest

/-! ## The query of a value -/

/-- The query of a number: a sign negates what is read without it. -/
def numberQuery (n : Number) : Query :=
  let magnitude := .literal (.number (.ofFinite (n.toFinite.withSign false)))
  if n.toFinite.negative then .neg magnitude else magnitude

mutual

/-- The query that the text of a value without objects writes. -/
def valueQuery : Json → Query
  | .number n => numberQuery n
  | .array [] => .array none
  | .array (v :: rest) => .array (some (moreQuery (valueQuery v) rest))
  | v => .literal v

def moreQuery : Query → List Json → Query
  | first, [] => first
  | first, v :: rest => moreQuery (.comma first (valueQuery v)) rest

end

/-- The tokens of a value begin as a query does. -/
theorem exists_valueTokens_cons {v : Json} (h : ¬ v.HoldsObject) :
    ∃ t ts, valueTokens v = t :: ts ∧ t.opens = true := by
  cases v with
  | null => exact ⟨_, _, rfl, rfl⟩
  | bool b => exact ⟨_, _, rfl, rfl⟩
  | number n =>
      rw [valueTokens, numberTokens]
      split <;> exact ⟨_, _, rfl, rfl⟩
  | string s => exact ⟨_, _, rfl, rfl⟩
  | array items =>
      cases items with
      | nil => exact ⟨_, _, rfl, rfl⟩
      | cons v rest => exact ⟨.leftBracket, _, by rw [valueTokens], rfl⟩
  | object members => exact absurd (Json.holdsObject_object members) h

/-- Only objects have no tokens. -/
theorem valueTokens_ne_nil {v : Json} (h : ¬ v.HoldsObject) : valueTokens v ≠ [] := by
  rcases exists_valueTokens_cons h with ⟨t, ts, htokens, _⟩
  rw [htokens]
  exact List.cons_ne_nil t ts

/-- The tokens of a number are read as its query. -/
theorem readAs_number (n : Number) : ReadAs .unary (numberTokens n) (numberQuery n) := by
  have hmagnitude : ReadAs .unary [.num (.finite (n.toFinite.withSign false))]
      (.literal (.number (.ofFinite (n.toFinite.withSign false)))) :=
    .of_primary rfl (.single fun stop fuel offset rest _ => parsePrimary_num _ _ _ _ _)
  rw [numberTokens, numberQuery]
  split
  · exact hmagnitude.neg
  · exact hmagnitude

/-- A value is read as its query, whatever level it stands on. -/
def ReadsBack (v : Json) : Prop :=
  ∀ level, ReadAs level (valueTokens v) (valueQuery v)

/-- An item ends before the comma of the next one, or where all of them end. -/
theorem stops_moreTokens {items : List Json} {ls rest : List Lexeme}
    (hls : Spells ls (moreTokens items)) (hrest : Stops Level.comma.rank rest) :
    Stops Level.alternative.rank (ls ++ rest) := by
  cases items with
  | nil =>
      cases hls.nil
      exact hrest.mono (by decide)
  | cons v items =>
      rw [moreTokens] at hls
      rcases hls.cons with ⟨offset, tail, rfl, _⟩
      rintro l ⟨⟩
      exact .inr ⟨.comma, rfl, by decide⟩

/-- The items after the first one are read one after the other. -/
theorem parseRest_moreTokens {items : List Json} (h : ∀ v ∈ items, ReadsBack v) {stop fuel : Nat}
    {q : Query} {ls rest : List Lexeme} (hls : Spells ls (moreTokens items))
    (hrest : Stops Level.comma.rank rest) (hpos : 0 < fuel) (hfuel : 16 * ls.length ≤ fuel) :
    parseRest stop fuel .comma q (ls ++ rest) = .ok (moreQuery q items, rest) := by
  induction items generalizing fuel q ls with
  | nil =>
      cases hls.nil
      exact parseRest_stops hpos hrest
  | cons v items ih =>
      rw [moreTokens] at hls
      rcases hls.cons with ⟨offset, tail, rfl, htail⟩
      rcases htail.append with ⟨la, lb, rfl, hla, hlb⟩
      simp only [List.length_cons, List.length_append] at hfuel
      cases fuel with
      | zero => omega
      | succ fuel =>
          have hitem := @h v List.mem_cons_self .alternative stop fuel la _ hla
            (stops_moreTokens hlb hrest) (by omega)
          have hmore : parseRest stop fuel .comma (.comma q (valueQuery v)) (lb ++ rest) =
              .ok (moreQuery (.comma q (valueQuery v)) items, rest) :=
            ih (fun w hw => h w (List.mem_cons_of_mem v hw)) hlb (by omega) (by omega)
          -- the comma takes one item, and the items after it are read from there on
          have hstep := parseRest_operator .comma stop fuel offset q (la ++ (lb ++ rest))
          have hright : Binary.comma.level.rightOperand = .alternative := rfl
          rw [hright, hitem] at hstep
          rw [List.cons_append, List.append_assoc]
          exact hstep.trans hmore

/-- The tokens of items with commas between them are read as their comma expression. -/
theorem readAs_items {v : Json} {items : List Json} (hne : valueTokens v ≠ []) (hv : ReadsBack v)
    (hitems : ∀ w ∈ items, ReadsBack w) :
    ReadAs .comma (valueTokens v ++ moreTokens items) (moreQuery (valueQuery v) items) := by
  intro stop fuel ls rest hls hrest hfuel
  rcases hls.append with ⟨la, lb, rfl, hla, hlb⟩
  have hpos : 0 < la.length := hla.length ▸ List.length_pos_of_ne_nil hne
  have hcomma : Level.comma.rank = 1 := rfl
  have halternative : Level.alternative.rank = 2 := rfl
  simp only [List.length_append] at hfuel
  cases fuel with
  | zero => omega
  | succ fuel =>
      have hfirst := @hv .alternative stop fuel la _ hla (stops_moreTokens hlb hrest) (by omega)
      have hnext : Level.comma.next = .alternative := rfl
      rw [List.append_assoc, parseLevel_next (by decide), hnext, hfirst]
      exact parseRest_moreTokens hitems hlb hrest (by omega) (by omega)

/-- Tokens in brackets are read as an array of what they are read as. -/
theorem ReadsPrimary.array (hts : ∃ t more, ts = t :: more ∧ t.opens = true)
    (h : ReadAs .pipe ts q) :
    ReadsPrimary (.leftBracket :: (ts ++ [.rightBracket])) (.array (some q)) := by
  intro stop fuel ls rest hls hrest hfuel
  rcases hls.between with ⟨offset, body, offset', rfl, hbody⟩
  simp only [List.length_cons, List.length_append, List.length_nil] at hfuel
  obtain ⟨fuel, rfl⟩ : ∃ f, fuel = f + 1 := ⟨fuel - 1, by omega⟩
  have hbegins : Begins body := by
    rcases hts with ⟨t, more, rfl, ht⟩
    rcases hbody.cons with ⟨offset'', tail, rfl, _⟩
    exact ⟨_, tail, rfl, ht⟩
  have hclose : Token.rightBracket.closes = true := rfl
  have hread := @h stop fuel body _ hbody (stops_closing hclose _ offset' rest)
    (show 16 * body.length ≤ fuel + 0 by omega)
  rw [List.cons_append, List.append_assoc]
  exact parsePrimary_array (hbegins.append _) hread

/-- The name of a constant is read as the constant. -/
theorem readAs_constant {name : String} (hname : isConstantName name = true)
    (hstart : (Token.ident name).startsTarget = true) (level : Level) :
    ReadAs level [.ident name] (buildName name) := by
  have hprimary : ReadsPrimary [.ident name] (buildName name) :=
    .single fun stop fuel offset rest _ => parseName_constant hname stop fuel offset rest
  exact .of_unary (List.cons_ne_nil _ _) (.of_primary hstart hprimary) level

/-- An empty pair of brackets is the empty array. -/
theorem readsPrimary_emptyArray : ReadsPrimary [.leftBracket, .rightBracket] (.array none) := by
  intro stop fuel ls rest hls hrest hfuel
  rcases hls.cons with ⟨_, _, rfl, hclose⟩
  rcases hclose.cons with ⟨_, _, rfl, hnil⟩
  cases hnil.nil
  simp only [List.length_cons, List.length_nil] at hfuel
  cases fuel with
  | zero => omega
  | succ fuel => rfl

/-- A value without objects is read as its query. -/
theorem readsBack {v : Json} (h : ¬ v.HoldsObject) : ReadsBack v := by
  induction v using Json.parts_induction with
  | step v ih =>
      have hne := valueTokens_ne_nil h
      cases v with
      | null => exact @readAs_constant "null" rfl (by decide)
      | bool b =>
          cases b with
          | true => exact @readAs_constant "true" rfl (by decide)
          | false => exact @readAs_constant "false" rfl (by decide)
      | number n => exact .of_unary hne (readAs_number n)
      | string s => exact .of_unary hne (.of_primary rfl (.single fun _ _ _ _ _ => rfl))
      | object members => exact absurd (Json.holdsObject_object members) h
      | array items =>
          rw [Json.holdsObject_array] at h
          have hplain : ∀ v ∈ items, ¬ v.HoldsObject := fun v hv hobject => h ⟨v, hv, hobject⟩
          have hitems : ∀ v ∈ items, ReadsBack v := fun v hv => ih v hv (hplain v hv)
          cases items with
          | nil => exact .of_unary hne (.of_primary rfl readsPrimary_emptyArray)
          | cons v rest =>
              -- inside of the brackets the items are operands of commas
              have hv := hplain v List.mem_cons_self
              have hinside : ReadAs .pipe (valueTokens v ++ moreTokens rest)
                  (moreQuery (valueQuery v) rest) := by
                refine .of_next (by decide) (by simp [valueTokens_ne_nil hv]) ?_
                exact readAs_items (valueTokens_ne_nil hv) (hitems v List.mem_cons_self)
                  fun w hw => hitems w (List.mem_cons_of_mem v hw)
              have hopens : ∃ t more, valueTokens v ++ moreTokens rest = t :: more ∧
                  t.opens = true := by
                rcases exists_valueTokens_cons hv with ⟨t, ts, htokens, ht⟩
                exact ⟨t, ts ++ moreTokens rest, by rw [htokens, List.cons_append], ht⟩
              have harray := ReadsPrimary.array hopens hinside
              rw [List.append_assoc] at harray
              intro level
              rw [valueTokens, valueQuery]
              exact .of_unary (List.cons_ne_nil _ _) (.of_primary rfl harray) level

/-- The text of a value without objects is read as the value's query. -/
theorem read_compact {v : Json} (hrange : v.NumbersInRange) (hplain : ¬ v.HoldsObject) :
    read v.compact = .ok (valueQuery v) := by
  have hends : EndsValue [] := nofun
  have htokens := tokens?_compact hrange hplain hends
  rw [List.append_nil, tokens?_nil] at htokens
  exact read_of_readAs (normalize_compact hrange) (by simpa using htokens)
    (valueTokens_ne_nil hplain) (readsBack hplain .pipe)

/-- The text of a value in which an object stands is no query. -/
theorem read_compact_of_holdsObject {v : Json} (hrange : v.NumbersInRange)
    (hobject : v.HoldsObject) : ∃ e, read v.compact = .error e := by
  have htokens := tokens?_compact_of_holdsObject hrange hobject []
  rw [List.append_nil, tokens?_eq_none_iff] at htokens
  rcases htokens with ⟨e, hlex⟩
  refine ⟨e, ?_⟩
  rw [read, normalize_compact hrange, hlex]
  rfl

end Query

/-! ## The result -/

namespace Json

mutual

/-- The value with the nearest binary number for each number, which is an integer where it can. -/
def inBinary : Json → Json
  | .number n => .number (.ofFinite n.toFinite)
  | .array items => .array (itemsInBinary items)
  | v => v

def itemsInBinary : List Json → List Json
  | [] => []
  | v :: rest => inBinary v :: itemsInBinary rest

end

theorem itemsInBinary_eq_map (items : List Json) : itemsInBinary items = items.map inBinary := by
  induction items with
  | nil => rfl
  | cons v items ih => rw [itemsInBinary, ih, List.map_cons]

end Json

namespace Query

/-- The query of a number gives the nearest binary number, whatever the input. -/
theorem eval_numberQuery (n : Number) (input : Json) :
    (numberQuery n).eval input = .ok [.number (.ofFinite n.toFinite)] := by
  rw [numberQuery]
  cases hsign : n.toFinite.negative with
  | false =>
      have hsame : n.toFinite.withSign false = n.toFinite := by
        rw [← hsign]
        rfl
      simp [eval, hsame]
  | true =>
      -- the literal has no sign, so negation finds it unchanged
      have hback := Number.toFinite_ofFinite (x := n.toFinite.withSign false) rfl
      have hneg : (n.toFinite.withSign false).neg = n.toFinite := by
        rw [Binary64.Finite.neg, Binary64.Finite.withSign]
        simp [← hsign]
      simp only [if_true, eval, bind, Except.bind, List.mapM_cons, List.mapM_nil, negate, hback,
        hneg]
      rfl

/-- The queries of further items give their values behind the results so far. -/
theorem eval_moreQuery {items : List Json} {input : Json}
    (h : ∀ v ∈ items, (valueQuery v).eval input = .ok [v.inBinary]) {q : Query} {ws : List Json}
    (hq : q.eval input = .ok ws) :
    (moreQuery q items).eval input = .ok (ws ++ items.map Json.inBinary) := by
  -- commas associate to the left, so the results so far are carried along
  induction items generalizing q ws with
  | nil => simpa [moreQuery] using hq
  | cons v items ih =>
      have hcomma : (Query.comma q (valueQuery v)).eval input = .ok (ws ++ [v.inBinary]) := by
        simp [eval, hq, h v List.mem_cons_self, bind, Except.bind, Except.map]
      have hmore := ih (fun w hw => h w (List.mem_cons_of_mem v hw)) hcomma
      simpa [moreQuery] using hmore

/-- The only result of a value's query is the value with binary numbers, whatever the input. -/
theorem eval_valueQuery {v : Json} (h : ¬ v.HoldsObject) (input : Json) :
    (valueQuery v).eval input = .ok [v.inBinary] := by
  induction v using Json.parts_induction with
  | step v ih =>
      cases v with
      | number n => exact eval_numberQuery n input
      | array items =>
          rw [Json.holdsObject_array] at h
          have hitems : ∀ v ∈ items, (valueQuery v).eval input = .ok [v.inBinary] :=
            fun v hv => ih v hv fun hobject => h ⟨v, hv, hobject⟩
          rw [Json.inBinary, Json.itemsInBinary_eq_map]
          cases items with
          | nil => rfl
          | cons v rest =>
              have hmore := eval_moreQuery (fun w hw => hitems w (List.mem_cons_of_mem v hw))
                (hitems v List.mem_cons_self)
              simp [valueQuery, eval, evalItems, hmore, Except.map]
      | object members => exact absurd (Json.holdsObject_object members) h
      | _ => rfl

end Query

namespace Json

/-- Items that compare equal to their binary forms do so as sorted lists. -/
theorem compareItems_inBinary {items : List Json} (h : ∀ v ∈ items, v.inBinary.compare v = .eq) :
    compareItems (sortedItems (items.map inBinary)) (sortedItems items) = .eq := by
  induction items with
  | nil => rfl
  | cons v items ih =>
      have hv : compareSorted v.inBinary.sorted v.sorted = .eq := h v List.mem_cons_self
      have hmore := ih fun w hw => h w (List.mem_cons_of_mem v hw)
      simp only [List.map_cons, sortedItems, compareItems, hv, hmore, Ordering.then]

/-- A value and the value with binary numbers are equal in the order of values. -/
theorem compare_inBinary (v : Json) : v.inBinary.compare v = .eq := by
  induction v using Json.parts_induction with
  | step v ih =>
      cases v with
      | number n =>
          have hscaled := Number.scaled_toFinite_ofFinite n.toFinite
          simp [inBinary, compare, sorted, compareSorted, Number.compare, Binary64.Finite.compare,
            hscaled]
      | array items =>
          rw [inBinary, itemsInBinary_eq_map, compare, sorted, sorted, compareSorted]
          exact compareItems_inBinary ih
      | _ => exact Std.ReflCmp.compare_self

/-- An integer is kept as an integer exactly where binary numbers have no gaps. -/
theorem inBinary_integer_iff (n : Int) :
    (number (.integer n)).inBinary = number (.integer n) ↔ n.natAbs < 2 ^ 53 := by
  rw [inBinary, number.injEq]
  constructor
  · intro h
    -- only an integer within the bound is kept as one
    rw [Number.ofFinite] at h
    split at h
    · rename_i hrange
      rw [Number.integer.inj h] at hrange
      have hbounds := hrange.2
      unfold Number.exactBound at hbounds
      omega
    · cases h
  · exact Number.ofFinite_ofInt

end Json
end Gleaner
