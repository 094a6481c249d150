import Gleaner.Proofs.Query.Parsing
import Gleaner.Proofs.Query.WrittenText
/-!
# Written queries on the levels of the grammar

A written query is read back on one level of the grammar if it is read back on the next, or, for the
application of an operator, if its operands are.

* `Binary.level` is the level of an operator, `Level.leftPlace` the strength of a left operand;
* `Stops` says which lexemes end an expression on a level;
* `ReadAs` says that a level reads tokens as a query; `ReadBy` and `LeadsOn` say that it reads a
  query back, alone and as a left operand, and `Targets` that it is read as the target of
  selections;
* `ReadBack` is all of it at once: `ReadBack.build`, `ReadBack.neg` and `ReadBack.of_target` prove
  it of operators, of negations and of what may be a target.
-/

namespace Gleaner
namespace Query

/-! ## Levels and strengths -/

namespace Level

theorem rank_injective : Function.Injective rank := by
  intro level level' h
  cases level <;> cases level' <;> first | rfl | cases h

theorem rank_lt {level : Level} (h : level ≠ .unary) : level.rank < 8 := by
  cases level with
  | unary => exact absurd rfl h
  | _ => decide

/-- The strength that a left operand needs on a level. -/
def leftPlace (level : Level) : Nat :=
  if level.repeats then level.rank else level.next.rank

end Level

def Binary.level : Binary → Level
  | .pipe => .pipe
  | .comma => .comma
  | .alternative => .alternative
  | .or => .or
  | .and => .and
  | .comparison _ => .comparison
  | .operator .add | .operator .sub => .additive
  | .operator _ => .multiplicative

theorem Binary.level_ne_unary (op : Binary) : op.level ≠ .unary := by
  cases op with
  | operator op => cases op <;> decide
  | _ => nofun

theorem Binary.grouping_eq (op : Binary) :
    op.grouping = ⟨op.level.rank, op.level.leftPlace, op.level.rightOperand.rank⟩ := by
  cases op with
  | operator op => cases op <;> rfl
  | _ => rfl

/-- A level knows the tokens of its own operators. -/
theorem operator?_token (op : Binary) (level : Level) :
    level.operator? op.token = if op.level = level then some op else none := by
  cases op with
  | operator op => cases op <;> cases level <;> rfl
  | or => cases level <;> rfl
  | and => cases level <;> rfl
  | _ => cases level <;> rfl

/-! ## What ends an expression -/

/-- The tokens that end every expression. -/
def Token.closes : Token → Bool
  | .rightParen | .rightBracket | .colon | .semicolon => true
  | _ => false

theorem operator?_closing {t : Token} (h : t.closes = true) (level : Level) :
    level.operator? t = none := by
  cases t <;> cases level <;> first | rfl | cases h

/-- An expression in a place ends before these lexemes. -/
def Stops (place : Nat) (rest : List Lexeme) : Prop :=
  ∀ l ∈ rest.head?,
    l.token.closes = true ∨ ∃ op : Binary, l.token = op.token ∧ op.level.rank < place

/-- What ends an expression ends one that binds more tightly. -/
theorem Stops.mono {place place' : Nat} {rest : List Lexeme} (h : Stops place rest)
    (hle : place ≤ place') : Stops place' rest := by
  intro l hl
  rcases h l hl with hcloses | ⟨op, hop, hlt⟩
  · exact .inl hcloses
  · exact .inr ⟨op, hop, Nat.lt_of_lt_of_le hlt hle⟩

/-- A closing token ends an expression everywhere. -/
theorem stops_closing {t : Token} (ht : t.closes = true) (place offset : Nat) (rest : List Lexeme) :
    Stops place (⟨t, offset⟩ :: rest) := by
  intro l hl
  cases hl
  exact .inl ht

/-- No operator follows where an expression of the level ends. -/
theorem parseRest_stops {stop fuel : Nat} {level : Level} {q : Query} {rest : List Lexeme}
    (hfuel : 0 < fuel) (h : Stops level.rank rest) :
    parseRest stop fuel level q rest = .ok (q, rest) := by
  cases fuel with
  | zero => cases hfuel
  | succ fuel =>
      cases rest with
      | nil => rfl
      | cons l rest =>
          have hnone : level.operator? l.token = none := by
            rcases h l rfl with hcloses | ⟨op, hop, hlt⟩
            · exact operator?_closing hcloses level
            · have hne : op.level ≠ level := by
                rintro rfl
                exact Nat.lt_irrefl _ hlt
              rw [hop, operator?_token, if_neg hne]
          rw [parseRest, hnone]

/-- No suffix follows where an expression ends. -/
theorem parseSuffixes_stops {stop fuel place : Nat} {q : Query} {rest : List Lexeme}
    (hfuel : 0 < fuel) (h : Stops place rest) :
    parseSuffixes stop fuel q rest = .ok (q, rest) := by
  cases fuel with
  | zero => cases hfuel
  | succ fuel =>
      cases rest with
      | nil => rfl
      | cons l rest =>
          rcases l with ⟨t, offset⟩
          rcases h _ rfl with hcloses | ⟨op, rfl, _⟩
          · cases t <;> first | rfl | cases hcloses
          · cases op <;> rfl

/-! ## Lexemes of given tokens -/

/-- Lexemes carry the given tokens, at any offsets. -/
def Spells (ls : List Lexeme) (ts : List Token) : Prop :=
  ls.map Lexeme.token = ts

theorem Spells.cons {ls : List Lexeme} {t : Token} {ts : List Token} (h : Spells ls (t :: ts)) :
    ∃ offset rest, ls = ⟨t, offset⟩ :: rest ∧ Spells rest ts := by
  rcases List.map_eq_cons_iff.1 h with ⟨⟨_, offset⟩, rest, rfl, rfl, hrest⟩
  exact ⟨offset, rest, rfl, hrest⟩

theorem Spells.append {ls : List Lexeme} {ts us : List Token} (h : Spells ls (ts ++ us)) :
    ∃ a b, ls = a ++ b ∧ Spells a ts ∧ Spells b us := by
  rcases List.map_eq_append_iff.1 h with ⟨a, b, rfl, ha, hb⟩
  exact ⟨a, b, rfl, ha, hb⟩

/-- What is spelled between two tokens stands between their lexemes. -/
theorem Spells.between {ls : List Lexeme} {opening closing : Token} {ts : List Token}
    (h : Spells ls (opening :: (ts ++ [closing]))) :
    ∃ offset body offset', ls = ⟨opening, offset⟩ :: (body ++ [⟨closing, offset'⟩]) ∧
      Spells body ts := by
  rcases h.cons with ⟨offset, inside, rfl, hinside⟩
  rcases hinside.append with ⟨body, close, rfl, hbody, hclose⟩
  rcases hclose.cons with ⟨offset', none, rfl, hnone⟩
  cases List.map_eq_nil_iff.1 hnone
  exact ⟨offset, body, offset', rfl, hbody⟩

theorem Spells.nil {ls : List Lexeme} (h : Spells ls []) : ls = [] :=
  List.map_eq_nil_iff.1 h

theorem Spells.length {ls : List Lexeme} {ts : List Token} (h : Spells ls ts) :
    ls.length = ts.length := by
  rw [← h, List.length_map]

/-! ## Reading back -/

/-- Tokens are read by a level as a query, up to lexemes that end it. -/
def ReadAs (level : Level) (ts : List Token) (q : Query) : Prop :=
  ∀ ⦃stop fuel : Nat⦄ ⦃ls rest : List Lexeme⦄, Spells ls ts → Stops level.rank rest →
    16 * ls.length ≤ fuel + level.rank → parseLevel stop fuel level (ls ++ rest) = .ok (q, rest)

/-- A query is read back by a level, up to lexemes that end it. -/
def ReadBy (level : Level) (q : Query) : Prop :=
  ∀ ⦃stop fuel : Nat⦄ ⦃ls rest : List Lexeme⦄,
    Spells ls (tokensOf (q.marksAt level.rank)) → Stops level.rank rest →
    16 * ls.length ≤ fuel + level.rank →
    parseLevel stop fuel level (ls ++ rest) = .ok (q, rest)

/-- A query is read as the left operand of a level's operators, whichever of them follow. -/
def LeadsOn (level : Level) (q : Query) : Prop :=
  ∀ ⦃stop fuel : Nat⦄ ⦃ls rest : List Lexeme⦄,
    Spells ls (tokensOf (q.marksAt level.leftPlace)) → Stops level.next.rank rest →
    16 * ls.length ≤ fuel + level.rank →
    ∃ left, fuel ≤ left + ls.length ∧
      parseLevel stop fuel level (ls ++ rest) = parseRest stop left level q rest

/-- A query is read as the target of the selections that follow it. -/
def Targets (q : Query) : Prop :=
  ∀ ⦃stop fuel : Nat⦄ ⦃ls rest : List Lexeme⦄,
    Spells ls (tokensOf (q.marksAt tight)) → Detached rest → 16 * ls.length ≤ fuel + tight →
    ∃ left, fuel ≤ left + ls.length ∧
      parsePostfix stop fuel (ls ++ rest) = parseSuffixes stop left q rest

/-- What ends an expression belongs neither to a selection nor to a call. -/
theorem Stops.detached {place : Nat} {rest : List Lexeme} (h : Stops place rest) :
    Detached rest := by
  intro l hl
  rcases h l hl with hcloses | ⟨op, hop, _⟩
  · constructor
    · intro text heq
      rw [heq] at hcloses
      cases hcloses
    · intro heq
      rw [heq] at hcloses
      cases hcloses
  · rw [hop]
    cases op <;> exact ⟨nofun, nofun⟩

theorem marksAt_of_le {q : Query} {place : Nat} (h : place ≤ q.strength) :
    q.marksAt place = q.marks := by
  rw [marksAt, enclosed, if_neg (Nat.not_lt.2 h)]

theorem marksAt_tight {q : Query} (h : q.strength = tight) : q.marksAt tight = q.marks :=
  marksAt_of_le (Nat.le_of_eq h.symm)

theorem marksAt_of_lt {q : Query} {place : Nat} (h : q.strength < place) :
    q.marksAt place = parenthesized q.marks := by
  rw [marksAt, enclosed, if_pos h]

theorem marksAt_congr {q : Query} {place place' : Nat}
    (h : q.strength < place ↔ q.strength < place') : q.marksAt place = q.marksAt place' := by
  simp only [marksAt, enclosed, h]

theorem marksAt_succ {q : Query} {place : Nat} (h : q.strength ≠ place) :
    q.marksAt (place + 1) = q.marksAt place :=
  marksAt_congr (by omega)

/-! ## From level to level -/

/-- A query is never written without tokens. -/
theorem tokensOf_marksAt_ne_nil {q : Query} (h : q.Throughout WritableLiteral) (place : Nat) :
    tokensOf (q.marksAt place) ≠ [] := by
  rcases (opens_marks h).enclosed (q.strength < place) with ⟨t, more, hmarks, _⟩
  rw [marksAt, hmarks, tokensOf_token]
  exact List.cons_ne_nil _ _

theorem length_pos_of_spells_marksAt {q : Query} (h : q.Throughout WritableLiteral) {place : Nat}
    {ls : List Lexeme} (hls : Spells ls (tokensOf (q.marksAt place))) : 0 < ls.length :=
  hls.length ▸ List.length_pos_of_ne_nil (tokensOf_marksAt_ne_nil h place)

/-- What the next level reads back is a left operand of this level's operators. -/
theorem LeadsOn.of_next {level : Level} (hlevel : level ≠ .unary) {q : Query}
    (hq : q.Throughout WritableLiteral) (h : ReadBy level.next q)
    (hplace : q.marksAt level.leftPlace = q.marksAt level.next.rank) : LeadsOn level q := by
  intro stop fuel ls rest hls hrest hfuel
  have hpos := length_pos_of_spells_marksAt hq hls
  have hrank := Level.rank_next hlevel
  have hlow := Level.rank_lt hlevel
  rw [hplace] at hls
  cases fuel with
  | zero => omega
  | succ fuel =>
      refine ⟨fuel, by omega, ?_⟩
      rw [parseLevel_next hlevel, h hls hrest (by omega)]
      rfl

section Tokens

variable {ts : List Token} {q : Query} {level : Level}

/-- What the next level reads before lexemes that end this level's expressions, this level reads. -/
theorem ReadAs.of_next (hlevel : level ≠ .unary) (hts : ts ≠ []) (h : ReadAs level.next ts q) :
    ReadAs level ts q := by
  intro stop fuel ls rest hls hrest hfuel
  have hpos : 0 < ls.length := hls.length ▸ List.length_pos_of_ne_nil hts
  have hrank := Level.rank_next hlevel
  have hlow := Level.rank_lt hlevel
  cases fuel with
  | zero => omega
  | succ fuel =>
      have hread := @h stop fuel ls rest hls (hrest.mono (by omega)) (by omega)
      rw [parseLevel_next hlevel, hread]
      exact parseRest_stops (by omega) hrest

/-- What a level reads, the weaker levels read. -/
theorem ReadAs.of_stronger (hts : ts ≠ []) (h : ReadAs level ts q) {weaker : Level}
    (hle : weaker.rank ≤ level.rank) : ReadAs weaker ts q := by
  -- the induction is on the distance between the two levels
  generalize hdistance : level.rank - weaker.rank = distance
  induction distance generalizing weaker with
  | zero =>
      obtain rfl : weaker = level := Level.rank_injective (by omega)
      exact h
  | succ distance ih =>
      have hlevel : weaker ≠ .unary := by
        rintro rfl
        have hrank : Level.unary.rank = 8 := rfl
        have htop := level.rank_le
        omega
      have hrank := Level.rank_next hlevel
      exact .of_next hlevel hts (@ih weaker.next (by omega) (by omega))

end Tokens

/-- What one level reads back, all levels from it down to the query's strength read back. -/
theorem ReadBy.below {q : Query} (hq : q.Throughout WritableLiteral) {top : Level}
    (htop : ReadBy top q) {level : Level} (hle : level.rank ≤ top.rank)
    (hfree : ∀ k, level.rank ≤ k → k < top.rank → q.strength ≠ k) : ReadBy level q := by
  have hsame : q.marksAt top.rank = q.marksAt level.rank := by
    refine marksAt_congr ⟨fun hlt => ?_, fun hlt => Nat.lt_of_lt_of_le hlt hle⟩
    by_contra hge
    exact hfree q.strength (by omega) hlt rfl
  have hread : ReadAs level (tokensOf (q.marksAt top.rank)) q :=
    .of_stronger (tokensOf_marksAt_ne_nil hq _) htop hle
  rwa [hsame] at hread

/-! ## Operators -/

theorem parseRest_operator (op : Binary) (stop fuel offset : Nat) (q : Query)
    (rest : List Lexeme) :
    parseRest stop (fuel + 1) op.level q (⟨op.token, offset⟩ :: rest) =
      parseLevel stop fuel op.level.rightOperand rest >>= fun found =>
        if op.level.repeats then parseRest stop fuel op.level (op.build q found.1) found.2
        else .ok (op.build q found.1, found.2) := by
  rw [parseRest, operator?_token, if_pos rfl]

theorem tokensOf_build (op : Binary) (left right : Query) :
    tokensOf (op.build left right).marks =
      tokensOf (left.marksAt op.level.leftPlace) ++
        op.token :: tokensOf (right.marksAt op.level.rightOperand.rank) := by
  rw [marks_build, op.grouping_eq]
  simp [binaryMarks]

/-- An operator's application is read by the operator's level, after both operands. -/
theorem parseLevel_build {op : Binary} {left right : Query} (hl : LeadsOn op.level left)
    (hr : ReadBy op.level.rightOperand right) {stop fuel : Nat} {ls rest : List Lexeme}
    (hls : Spells ls (tokensOf (op.build left right).marks))
    (hrest : Stops op.level.rightOperand.rank rest)
    (hfuel : 16 * ls.length ≤ fuel + op.level.rank) :
    ∃ remaining, fuel ≤ remaining + ls.length ∧
      parseLevel stop fuel op.level (ls ++ rest) =
        if op.level.repeats then parseRest stop remaining op.level (op.build left right) rest
        else .ok (op.build left right, rest) := by
  rw [tokensOf_build] at hls
  rcases hls.append with ⟨la, lb, rfl, hla, hlb⟩
  rcases hlb.cons with ⟨offset, lr, rfl, hlr⟩
  have hlow := Level.rank_lt op.level_ne_unary
  simp only [List.length_append, List.length_cons] at hfuel ⊢
  have hstop : Stops op.level.next.rank (⟨op.token, offset⟩ :: lr ++ rest) := by
    intro l hl
    cases hl
    refine .inr ⟨op, rfl, ?_⟩
    rw [Level.rank_next op.level_ne_unary]
    exact Nat.lt_succ_self _
  -- the left operand is read up to the operator, the right one from there on
  have hleft := @hl stop fuel la _ hla hstop (by omega)
  rcases hleft with ⟨remaining, hremaining, heq⟩
  cases remaining with
  | zero => omega
  | succ remaining =>
      have hright := @hr stop remaining lr rest hlr hrest (by omega)
      refine ⟨remaining, by omega, ?_⟩
      rw [List.append_assoc, heq, List.cons_append, parseRest_operator, hright]
      rfl

/-- Applied to one more operand, an operator that repeats is again a left operand of its level. -/
theorem LeadsOn.build {op : Binary} (hrepeats : op.level.repeats = true) {left right : Query}
    (hl : LeadsOn op.level left) (hr : ReadBy op.level.rightOperand right) :
    LeadsOn op.level (op.build left right) := by
  intro stop fuel ls rest hls hrest hfuel
  have hplace : op.level.leftPlace = op.level.rank := if_pos hrepeats
  have hright : op.level.rightOperand = op.level.next := by
    cases h : op.level <;> first | rfl | (rw [h] at hrepeats; cases hrepeats)
  have hown : (op.build left right).strength = op.level.rank := by
    rw [strength_build, op.grouping_eq]
  rw [hplace, marksAt_of_le (Nat.le_of_eq hown.symm)] at hls
  rw [← hright] at hrest
  rcases parseLevel_build hl hr hls hrest hfuel with ⟨remaining, hremaining, heq⟩
  rw [if_pos hrepeats] at heq
  exact ⟨remaining, hremaining, heq⟩

/-- The application of an operator is read back by its level, if its operands are. -/
theorem ReadBy.build {op : Binary} {left right : Query}
    (hq : (op.build left right).Throughout WritableLiteral) (hl : LeadsOn op.level left)
    (hr : ReadBy op.level.rightOperand right) : ReadBy op.level (op.build left right) := by
  intro stop fuel ls rest hls hrest hfuel
  have hown : (op.build left right).strength = op.level.rank := by
    rw [strength_build, op.grouping_eq]
  have hmono : op.level.rank ≤ op.level.rightOperand.rank := by
    cases op.level <;> decide
  have hpos := length_pos_of_spells_marksAt hq hls
  rw [marksAt_of_le (Nat.le_of_eq hown.symm)] at hls
  rcases parseLevel_build hl hr hls (hrest.mono hmono) hfuel with ⟨remaining, hremaining, heq⟩
  have hlow := Level.rank_lt op.level_ne_unary
  rw [heq]
  split
  · exact parseRest_stops (by omega) hrest
  · rfl

/-! ## Parentheses and selections -/

theorem tokensOf_parenthesized (ms : List Mark) :
    tokensOf (parenthesized ms) = .leftParen :: (tokensOf ms ++ [.rightParen]) := by
  simp [parenthesized]

theorem tokensOf_bracketed (ms : List Mark) :
    tokensOf (bracketed ms) = .leftBracket :: (tokensOf ms ++ [.rightBracket]) := by
  simp [bracketed]

/-- What stands between brackets is read back by the weakest level. -/
theorem ReadBy.inside {q : Query} (h : ReadBy .pipe q) {ls : List Lexeme}
    (hls : Spells ls (tokensOf q.marks)) {t : Token} (ht : t.closes = true) {fuel : Nat}
    (hfuel : 16 * ls.length ≤ fuel) (stop offset : Nat) (rest : List Lexeme) :
    parseLevel stop fuel .pipe (ls ++ ⟨t, offset⟩ :: rest) = .ok (q, ⟨t, offset⟩ :: rest) := by
  have hplace : q.marksAt Level.pipe.rank = q.marks := marksAt_of_le (Nat.zero_le _)
  exact h (by rwa [hplace]) (stops_closing ht _ offset rest) hfuel

/-- Tokens are read as a primary expression. -/
def ReadsPrimary (ts : List Token) (q : Query) : Prop :=
  ∀ ⦃stop fuel : Nat⦄ ⦃ls rest : List Lexeme⦄, Spells ls ts → Detached rest →
    16 * ls.length ≤ fuel + 10 → parsePrimary stop fuel (ls ++ rest) = .ok (q, rest)

/-- A primary expression is the target of the selections after it. -/
theorem Targets.of_primary {q : Query} (hq : q.Throughout WritableLiteral)
    (h : ReadsPrimary (tokensOf (q.marksAt tight)) q) : Targets q := by
  intro stop fuel ls rest hls hrest hfuel
  have hpos := length_pos_of_spells_marksAt hq hls
  have htight : tight = 9 := rfl
  cases fuel with
  | zero => omega
  | succ fuel =>
      refine ⟨fuel, by omega, ?_⟩
      rw [parsePostfix_succ, h hls hrest (by omega)]
      rfl

/-- A query in parentheses is a primary expression. -/
theorem ReadsPrimary.parenthesized {q : Query} (h : ReadBy .pipe q) :
    ReadsPrimary (tokensOf (parenthesized q.marks)) q := by
  intro stop fuel ls rest hls hrest hfuel
  rw [tokensOf_parenthesized] at hls
  rcases hls.between with ⟨offset, body, offset', rfl, hbody⟩
  simp only [List.length_append, List.length_cons, List.length_nil] at hfuel
  cases fuel with
  | zero => omega
  | succ fuel =>
      have hread : parseLevel stop fuel .pipe (body ++ ⟨.rightParen, offset'⟩ :: rest) = _ :=
        h.inside hbody rfl (by omega) stop offset' rest
      simp only [List.cons_append, List.append_assoc, List.nil_append, parsePrimary_leftParen,
        hread]
      rfl

/-! ## Unary operators -/

/-- Whether a token, wherever it stands, is no unary operator. -/
def Token.startsTarget : Token → Bool
  | .operator _ => false
  | .ident name => name != "not"
  | _ => true

/-- Marks do not begin as the application of a unary operator; the negation word is called. -/
def StartsTarget (ms : List Mark) : Prop :=
  ∃ t more, ms = .token t :: more ∧
    (t.startsTarget = true ∨ t = .ident "not" ∧ ∃ after, more = .token .leftParen :: after)

theorem StartsTarget.append {ms : List Mark} (h : StartsTarget ms) (ns : List Mark) :
    StartsTarget (ms ++ ns) := by
  rcases h with ⟨t, more, rfl, hplain | ⟨hnot, after, rfl⟩⟩
  · exact ⟨t, more ++ ns, rfl, .inl hplain⟩
  · exact ⟨t, _, rfl, .inr ⟨hnot, after ++ ns, rfl⟩⟩

/-- A query in the place of a target does not begin with a unary operator. -/
theorem startsTarget_marksAt {q : Query} (h : q.Throughout WritableLiteral) :
    StartsTarget (q.marksAt tight) := by
  have hparen : ∀ p : Query, p.strength < tight → StartsTarget (p.marksAt tight) := by
    intro p hp
    rw [marksAt_of_lt hp]
    exact ⟨.leftParen, _, rfl, .inl rfl⟩
  induction q using binary_induction with
  | binary op left right _ _ =>
      refine hparen _ ?_
      rw [strength_build]
      exact Nat.lt_trans op.own_lt (by decide)
  | other q hother ih =>
      rcases throughout_iff.1 h with ⟨hfits, hparts⟩
      have htarget : ∀ p ∈ q.parts, StartsTarget (p.marksAt tight) :=
        fun p hp => ih p hp (hparts p hp)
      cases q with
      | neg inner => exact hparen _ (by decide : 8 < tight)
      | identity => exact ⟨.dot, _, rfl, .inl rfl⟩
      | recurse => exact ⟨.dotDot, _, rfl, .inl rfl⟩
      | literal value =>
          cases value with
          | null => exact ⟨.ident "null", _, rfl, .inl (by decide)⟩
          | bool b => exact ⟨.ident _, _, rfl, .inl (by cases b <;> decide)⟩
          | number n => exact ⟨.num _, _, rfl, .inl rfl⟩
          | string s => exact ⟨.str s, _, rfl, .inl rfl⟩
          | array items => cases hfits
          | object members => cases hfits
      | field target name =>
          have hplace : (field target name).marksAt tight = (field target name).marks :=
            marksAt_of_le (Nat.le_refl _)
          rw [hplace, marks]
          split
          · exact ⟨.dot, _, rfl, .inl rfl⟩
          · exact (htarget target (by simp [parts])).append _
      | index target position => exact (htarget target (by simp [parts])).append _
      | slice target low high => exact (htarget target (by simp [parts])).append _
      | iterate target => exact (htarget target (by simp [parts])).append _
      | optional inner => exact (htarget inner (by simp [parts])).append _
      | array inner => exact ⟨.leftBracket, _, rfl, .inl rfl⟩
      | not inner => exact ⟨.ident "not", _, rfl, .inr ⟨rfl, _, rfl⟩⟩
      | call f arguments =>
          have hname : (Token.ident f.name).startsTarget = true := by cases f <;> decide
          cases arguments with
          | nil => exact ⟨.ident f.name, _, rfl, .inl hname⟩
          | cons argument more => exact ⟨.ident f.name, _, rfl, .inl hname⟩
      | _ => cases hother

/-- Lexemes that do not begin with a unary operator are read as a target with selections. -/
theorem parseLevel_unary {ms : List Mark} (h : StartsTarget ms) {ls : List Lexeme}
    (hls : Spells ls (tokensOf ms)) (rest : List Lexeme) (stop fuel : Nat) :
    parseLevel stop (fuel + 1) .unary (ls ++ rest) = parsePostfix stop fuel (ls ++ rest) := by
  rcases h with ⟨t, more, rfl, hstart⟩
  rcases hls.cons with ⟨offset, tail, rfl, htail⟩
  have hsub : t ≠ .operator .sub := by
    rintro rfl
    rcases hstart with hplain | ⟨heq, _⟩
    · cases hplain
    · cases heq
  have hword : ¬ (t = .ident "not" ∧
      (tail ++ rest).head?.map (·.token) ≠ some .leftParen) := by
    rintro ⟨rfl, hnext⟩
    rcases hstart with hplain | ⟨_, after, rfl⟩
    · exact absurd hplain (by decide)
    · rcases htail.cons with ⟨offset', tail', rfl, _⟩
      exact hnext rfl
  rw [List.cons_append, parseLevel, if_neg hsub, if_neg hword]

/-- A target that stands alone is read back by the strongest level. -/
theorem ReadBy.of_targets {q : Query} (hq : q.Throughout WritableLiteral) (h : Targets q)
    (hstrength : q.strength ≠ 8) : ReadBy .unary q := by
  intro stop fuel ls rest hls hrest hfuel
  have hpos := length_pos_of_spells_marksAt hq hls
  have hrank : Level.unary.rank = 8 := rfl
  have htight : tight = 9 := rfl
  have hsame : q.marksAt Level.unary.rank = q.marksAt tight := (marksAt_succ hstrength).symm
  rw [hsame] at hls
  cases fuel with
  | zero => omega
  | succ fuel =>
      rcases @h stop fuel ls rest hls hrest.detached (by omega) with ⟨remaining, hremaining, heq⟩
      rw [parseLevel_unary (startsTarget_marksAt hq) hls, heq]
      exact parseSuffixes_stops (by omega) hrest

/-- After a minus sign the strongest level reads a negation. -/
theorem ReadAs.neg {ts : List Token} {q : Query} (h : ReadAs .unary ts q) :
    ReadAs .unary (.operator .sub :: ts) q.neg := by
  intro stop fuel ls rest hls hrest hfuel
  rcases hls.cons with ⟨offset, inner, rfl, hinner⟩
  have hrank : Level.unary.rank = 8 := rfl
  rw [List.length_cons] at hfuel
  cases fuel with
  | zero => omega
  | succ fuel =>
      rw [List.cons_append, parseLevel_neg, h hinner hrest (by omega)]
      rfl

/-- A negation is read back by the strongest level. -/
theorem ReadBy.neg {q : Query} (h : ReadBy .unary q) : ReadBy .unary q.neg :=
  @ReadAs.neg (tokensOf (q.marksAt 8)) q h

/-! ## All levels at once -/

/-- A query is read back wherever it may stand. -/
structure ReadBack (q : Query) : Prop where
  level : ∀ level, ReadBy level q
  left : ∀ level, level ≠ .unary → LeadsOn level q
  target : Targets q

/-- Only an operator's application needs its own level to read it as a left operand. -/
theorem ReadBack.of_levels {q : Query} (hq : q.Throughout WritableLiteral)
    (hlevel : ∀ level, ReadBy level q) (htarget : Targets q)
    (hown : ∀ level : Level, level.repeats = true → q.strength = level.rank → LeadsOn level q) :
    ReadBack q where
  level := hlevel
  target := htarget
  left := by
    intro level hne
    by_cases hrepeats : level.repeats = true
    · by_cases hstrength : q.strength = level.rank
      · exact hown level hrepeats hstrength
      · refine .of_next hne hq (hlevel level.next) ?_
        rw [Level.leftPlace, if_pos hrepeats, Level.rank_next hne, marksAt_succ hstrength]
    · refine .of_next hne hq (hlevel level.next) ?_
      rw [Level.leftPlace, if_neg hrepeats]

/-- What binds as tightly as a target and is read as one is read back everywhere. -/
theorem ReadBack.of_target {q : Query} (hq : q.Throughout WritableLiteral)
    (hstrength : q.strength = tight) (h : Targets q) : ReadBack q := by
  have htight : tight = 9 := rfl
  have hunary : ReadBy .unary q := .of_targets hq h (by omega)
  have hlevel : ∀ level, ReadBy level q := by
    intro level
    refine hunary.below hq level.rank_le fun k _ hk => ?_
    have : k < 8 := hk
    omega
  refine .of_levels hq hlevel h fun level _ heq => ?_
  have := level.rank_le
  omega

/-- What is not a target is one in parentheses. -/
theorem Targets.of_weak {q : Query} (hq : q.Throughout WritableLiteral)
    (hstrength : q.strength < tight) (h : ReadBy .pipe q) : Targets q := by
  refine .of_primary hq ?_
  rw [marksAt_of_lt hstrength]
  exact .parenthesized h

/-- A minus before a query that is read back is read back. -/
theorem ReadBack.neg {q : Query} (hq : q.neg.Throughout WritableLiteral) (h : ReadBack q) :
    ReadBack q.neg := by
  have hstrength : q.neg.strength = 8 := rfl
  have hlevel : ∀ level, ReadBy level q.neg := by
    intro level
    refine (h.level .unary).neg.below hq level.rank_le fun k _ hk => ?_
    have : k < 8 := hk
    omega
  refine .of_levels hq hlevel (.of_weak hq (by decide : 8 < tight) (hlevel .pipe)) ?_
  intro level hrepeats heq
  have hne : level ≠ .unary := by
    rintro rfl
    cases hrepeats
  have := Level.rank_lt hne
  omega

/-- An operator's application is read back if its operands are. -/
theorem ReadBack.build {op : Binary} {left right : Query}
    (hq : (op.build left right).Throughout WritableLiteral) (hl : ReadBack left)
    (hr : ReadBack right) : ReadBack (op.build left right) := by
  have hstrength : (op.build left right).strength = op.level.rank := by
    rw [strength_build, op.grouping_eq]
  have hlow := Level.rank_lt op.level_ne_unary
  have htight : tight = 9 := rfl
  have hleft := hl.left op.level op.level_ne_unary
  have hright := hr.level op.level.rightOperand
  -- the operator's own level reads it, and so do the weaker ones, down to the pipe
  have hown : ReadBy op.level (op.build left right) := .build hq hleft hright
  have hweaker : ∀ level : Level, level.rank ≤ op.level.rank →
      ReadBy level (op.build left right) := by
    intro level hle
    exact hown.below hq hle fun k _ hk => by omega
  -- in parentheses it is a target, which all stronger levels read
  have htarget : Targets (op.build left right) :=
    .of_weak hq (by omega) (hweaker .pipe (Nat.zero_le _))
  have hunary : ReadBy .unary (op.build left right) := .of_targets hq htarget (by omega)
  have hlevel : ∀ level, ReadBy level (op.build left right) := by
    intro level
    by_cases hle : level.rank ≤ op.level.rank
    · exact hweaker level hle
    · exact hunary.below hq level.rank_le fun k hk _ => by omega
  refine .of_levels hq hlevel htarget fun level hrepeats heq => ?_
  obtain rfl : level = op.level := Level.rank_injective (by omega)
  exact .build hrepeats hleft hright

end Query
end Gleaner
