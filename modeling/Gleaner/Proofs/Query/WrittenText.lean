import Gleaner.Proofs.Query.Parsing
import Gleaner.Proofs.Query.TokenText
import Gleaner.Proofs.Text.Trimming
/-!
# Lexing of written queries

The text of a written query is lexed into the tokens it was made of, and normalizing changes nothing
in it.

* `Apart` says of marks that they are lexed apart from the text after them, and `apart_marks` proves
  it of a query before a text that `Follows` it;
* `Firm` texts end without a blank, so that trimming keeps them;
* `tokens?_written` and `normalize_written` are the results.
-/

namespace Gleaner
namespace Query

/-! ## Marks before a text -/

/-- Marks are lexed apart from the text after them, and hold no wildcard that reaches into it. -/
structure Apart (ms : List Mark) (cs : List Char) : Prop where
  tokens : tokens? (textOf ms ++ cs) = (tokens? cs).map (tokensOf ms ++ ·)
  wildcards : replaceWildcards .code (textOf ms ++ cs) = textOf ms ++ replaceWildcards .code cs

namespace Apart

theorem nil (cs : List Char) : Apart [] cs where
  tokens := by simp
  wildcards := rfl

/-- Marks in a row are lexed apart if both are, the first ones before the text of the others. -/
theorem append {ms ns : List Mark} {cs : List Char} (hm : Apart ms (textOf ns ++ cs))
    (hn : Apart ns cs) : Apart (ms ++ ns) cs where
  tokens := by
    have htokens := hm.tokens
    rw [hn.tokens] at htokens
    simpa [Function.comp_def] using htokens
  wildcards := by
    have hwildcards := hm.wildcards
    rw [hn.wildcards] at hwildcards
    simpa using hwildcards

/-- A token is lexed apart from the marks after it, where it ends before them. -/
theorem token {t : Token} {ms : List Mark} {cs : List Char} (ht : t.Writable)
    (hends : t.EndsBefore (textOf ms ++ cs)) (h : Apart ms cs) : Apart (.token t :: ms) cs where
  tokens := by
    rw [textOf_token, List.append_assoc, tokens?_text ht hends, h.tokens]
    simp [Function.comp_def]
  wildcards := by
    rw [textOf_token, List.append_assoc, replaceWildcards_text ht hends, h.wildcards,
      List.append_assoc]

theorem blank {ms : List Mark} {cs : List Char} (h : Apart ms cs) :
    Apart (.blank :: ms) cs where
  tokens := by
    rw [textOf_blank, List.cons_append, tokens?_blank (by decide), h.tokens]
    rfl
  wildcards := by
    rw [textOf_blank, List.cons_append, replaceWildcards_cons (by decide) (by decide), h.wildcards]
    rfl

end Apart

/-! ## The front of a written query -/

/-- The literals that a text writes: the scalars, of the numbers the integers below `2 ^ 53`. -/
def WritableLiteral : Json → Prop
  | .null | .bool _ | .string _ => True
  | .number (.integer n) => 0 ≤ n ∧ n < 2 ^ 53
  | _ => False

/-- Whether a written query may begin with a token. -/
def Token.opens : Token → Bool
  | .dot | .dotDot | .ident _ | .str _ | .num _ | .leftBracket | .leftParen => true
  | .operator op => op == .sub
  | _ => false

/-- Marks begin as a written query does. -/
def Opens (ms : List Mark) : Prop :=
  ∃ t more, ms = .token t :: more ∧ t.opens = true ∧ t.Writable

theorem Opens.append {ms : List Mark} (h : Opens ms) (ns : List Mark) : Opens (ms ++ ns) := by
  rcases h with ⟨t, more, rfl, ht⟩
  exact ⟨t, more ++ ns, rfl, ht⟩

/-- Parentheses around a written query begin as a query does. -/
theorem Opens.enclosed {ms : List Mark} (h : Opens ms) (weak : Prop) [Decidable weak] :
    Opens (enclosed weak ms) := by
  by_cases hweak : weak
  · rw [Query.enclosed, if_pos hweak]
    exact ⟨.leftParen, _, rfl, rfl, trivial⟩
  · rwa [Query.enclosed, if_neg hweak]

theorem isName_builtin (f : Builtin) : Text.isName f.name = true := by
  cases f <;> decide

theorem finite_toFinite {n : Nat} (hn : n < 2 ^ 53) :
    Binary64.finite (Number.integer n).toFinite = Binary64.ofInt n := by
  rcases Binary64.ofInt_whole hn with ⟨x, hx, _⟩
  rw [Number.toFinite, Binary64.Finite.ofInt, hx]
  rfl

theorem writable_number {n : Int} (h : 0 ≤ n ∧ n < 2 ^ 53) :
    (Token.num (.finite (Number.integer n).toFinite)).Writable := by
  rcases Int.eq_ofNat_of_zero_le h.1 with ⟨k, rfl⟩
  have hk : k < 2 ^ 53 := by omega
  exact ⟨k, hk, finite_toFinite hk⟩

/-- A literal that can be written is written by one token. -/
theorem exists_token_literalMarks {value : Json} (h : WritableLiteral value) :
    ∃ t, literalMarks value = [.token t] ∧ t.opens = true ∧ t.Writable ∧ t ≠ .dot := by
  cases value with
  | null => exact ⟨.ident "null", rfl, rfl, (by decide : Text.isName "null" = true), nofun⟩
  | bool b =>
      have hname : Text.isName (if b then "true" else "false") = true := by cases b <;> decide
      exact ⟨_, rfl, rfl, hname, nofun⟩
  | string s => exact ⟨_, rfl, rfl, trivial, nofun⟩
  | number n =>
      cases n with
      | integer n => exact ⟨_, rfl, rfl, writable_number h, nofun⟩
      | real x => cases h
  | array items => cases h
  | object members => cases h

/-- A query without unwritable literals begins as a written query does. -/
theorem opens_marks {q : Query} (h : q.Throughout WritableLiteral) : Opens q.marks := by
  induction q using binary_induction with
  | binary op left right ihl ihr =>
      rcases throughout_iff.1 h with ⟨_, hparts⟩
      rw [marks_build]
      have hleft := ihl (hparts left (by simp [parts_build]))
      -- the left operand comes first, in parentheses or not
      exact (hleft.enclosed _).append _
  | other q hother ih =>
      rcases throughout_iff.1 h with ⟨hfits, hparts⟩
      have ih : ∀ p ∈ q.parts, Opens p.marks := fun p hp => ih p hp (hparts p hp)
      cases q with
      | literal value =>
          rcases exists_token_literalMarks hfits with ⟨t, hmarks, hopens, ht, _⟩
          rw [marks, hmarks]
          exact ⟨t, _, rfl, hopens, ht⟩
      | field target name =>
          cases htarget : target.isIdentity with
          | true =>
              rw [marks, htarget]
              exact ⟨.dot, _, rfl, rfl, trivial⟩
          | false =>
              rw [marks, htarget]
              exact ((ih target List.mem_cons_self).enclosed _).append _
      | index target position => exact ((ih target List.mem_cons_self).enclosed _).append _
      | slice target low high => exact ((ih target List.mem_cons_self).enclosed _).append _
      | iterate target => exact ((ih target List.mem_cons_self).enclosed _).append _
      | optional inner => exact ((ih inner List.mem_cons_self).enclosed _).append _
      | identity => exact ⟨.dot, _, rfl, rfl, trivial⟩
      | recurse => exact ⟨.dotDot, _, rfl, rfl, trivial⟩
      | array inner => exact ⟨.leftBracket, _, rfl, rfl, trivial⟩
      | not inner => exact ⟨.ident "not", _, rfl, rfl, (by decide : Text.isName "not" = true)⟩
      | neg inner => exact ⟨.operator .sub, _, rfl, rfl, trivial⟩
      | call f arguments =>
          have hname := isName_builtin f
          cases arguments with
          | nil => exact ⟨.ident f.name, _, rfl, rfl, hname⟩
          | cons argument more => exact ⟨.ident f.name, _, rfl, rfl, hname⟩
      | _ => cases hother

/-- A written query begins with neither a blank nor an anchor nor a star. -/
theorem Opens.text {ms : List Mark} (h : Opens ms) :
    ∃ c rest, textOf ms = c :: rest ∧ Text.isBlank c = false ∧ c ≠ '$' ∧ c ≠ '*' := by
  rcases h with ⟨t, more, rfl, hopens, ht⟩
  rw [textOf_token]
  cases t with
  | ident name =>
      rcases Text.exists_cons_of_isName ht with ⟨c, rest, hname, hc, _⟩
      have hcode := Text.toNat_of_isNameStart hc
      exact ⟨c, _, by rw [Token.text, hname]; rfl, Text.isBlank_eq_false (by omega) (by omega),
        ne_of_test hc rfl, ne_of_test hc rfl⟩
  | num value =>
      rcases ht with ⟨n, hn, rfl⟩
      rw [text_num hn]
      cases hdigits : Nat.toDigits 10 n with
      | nil => exact absurd hdigits Nat.toDigits_ne_nil
      | cons c rest =>
          have hmem : c ∈ Nat.toDigits 10 n := hdigits ▸ List.mem_cons_self
          have hc := Binary64.isDigit_of_mem_toDigits hmem
          have hcode := Text.toNat_of_isDigit hc
          exact ⟨c, _, rfl, Text.isBlank_eq_false (by omega) (by omega), ne_of_test hc rfl,
            ne_of_test hc rfl⟩
  | operator op =>
      cases op with
      | sub => exact ⟨'-', _, rfl, by decide, by decide, by decide⟩
      | _ => cases hopens
  | dot => exact ⟨'.', _, rfl, by decide, by decide, by decide⟩
  | dotDot => exact ⟨'.', _, rfl, by decide, by decide, by decide⟩
  | str text => exact ⟨'"', _, rfl, by decide, by decide, by decide⟩
  | leftBracket => exact ⟨'[', _, rfl, by decide, by decide, by decide⟩
  | leftParen => exact ⟨'(', _, rfl, by decide, by decide, by decide⟩
  | _ => cases hopens

theorem Opens.head?_ne_star {ms : List Mark} (h : Opens ms) (cs : List Char) :
    (textOf ms ++ cs).head? ≠ some '*' := by
  rcases h.text with ⟨c, rest, htext, _, _, hstar⟩
  rw [htext]
  simpa using hstar

/-! ## What may follow a written query -/

/-- The characters before which every token ends. -/
def quietChars : List Char :=
  [' ', ')', ']', ':', ';', '?', '[']

/-- A text before which every token ends. -/
def Quiet (cs : List Char) : Prop :=
  ∀ c ∈ cs.head?, c ∈ quietChars

/--
What may follow a written query: a text before which every token ends, or the selection of a member
where the query is a target other than the input.
-/
def Follows (q : Query) (cs : List Char) : Prop :=
  Quiet cs ∨ q.strength = tight ∧ q.isIdentity = false ∧ ∃ rest, cs = '.' :: '"' :: rest

theorem nameLength_eq_zero {cs : List Char} (h : ∀ c ∈ cs.head?, Text.isNameChar c = false) :
    nameLength cs = 0 := by
  cases cs with
  | nil => rfl
  | cons c rest => simp [nameLength, h c rfl]

/-- Nothing goes on in a numeral where no digit, point or exponent begins. -/
theorem numeralLength_eq_zero {cs : List Char}
    (h : ∀ c ∈ cs.head?, c.isDigit = false ∧ c ≠ 'e' ∧ c ≠ 'E')
    (hpoint : fractionLength cs = 0) : numeralLength cs = 0 := by
  cases cs with
  | nil => rfl
  | cons c rest =>
      have hc := h c rfl
      have hwhole : digitsLength (c :: rest) = 0 := by simp [digitsLength, hc.1]
      simp [numeralLength, hwhole, hpoint, exponentLength, hc.2]

/-- A fraction begins with a point. -/
theorem fractionLength_eq_zero {cs : List Char} (h : ∀ c ∈ cs.head?, c ≠ '.') :
    fractionLength cs = 0 := by
  cases cs with
  | nil => rfl
  | cons c rest =>
      unfold fractionLength
      split
      · rename_i heq
        cases heq
        exact absurd rfl (h '.' rfl)
      · rfl

/-- Every token ends before a quiet text. -/
theorem Quiet.endsBefore {cs : List Char} (h : Quiet cs) (t : Token) : t.EndsBefore cs := by
  have hfree : ∀ c ∈ quietChars, c ≠ '.' ∧ Text.isNameStart c = false ∧
      Text.isNameChar c = false ∧ c.isDigit = false ∧ c ≠ 'e' ∧ c ≠ 'E' :=
    forall_mem_of_all (by decide)
  have hhead : ∀ c, c ∉ quietChars → cs.head? ≠ some c := fun c hc heq => hc (h c heq)
  cases t with
  | dot => exact fun c hc => ⟨(hfree c (h c hc)).1, (hfree c (h c hc)).2.1⟩
  | field name => trivial
  | ident name => exact nameLength_eq_zero fun c hc => (hfree c (h c hc)).2.2.1
  | num value =>
      -- neither a digit, nor a fraction, nor an exponent follows
      refine numeralLength_eq_zero (fun c hc => (hfree c (h c hc)).2.2.2) ?_
      exact fractionLength_eq_zero fun c hc => (hfree c (h c hc)).1
  | leftBracket => exact hhead '*' (by decide)
  | comparison op => cases op <;> first | exact hhead '=' (by decide) | trivial
  | operator op => cases op <;> first | exact hhead '/' (by decide) | trivial
  | _ => trivial

/-- Every token but a point ends before the selection of a member. -/
theorem Token.endsBefore_selection {t : Token} (ht : t ≠ .dot) (rest : List Char) :
    t.EndsBefore ('.' :: '"' :: rest) := by
  cases t with
  | dot => exact absurd rfl ht
  | field name => trivial
  | ident name => exact nameLength_eq_zero (by simp; decide)
  | num value => exact numeralLength_eq_zero (by simp) (by simp [fractionLength, digitsLength])
  | leftBracket => simp [EndsBefore]
  | comparison op => cases op <;> simp [EndsBefore]
  | operator op => cases op <;> simp [EndsBefore]
  | _ => trivial

/-- Every token but a dot ends before what may follow the query. -/
theorem Follows.endsBefore {q : Query} {cs : List Char} (h : Follows q cs) {t : Token}
    (ht : t ≠ .dot) : t.EndsBefore cs := by
  rcases h with hquiet | ⟨_, _, rest, rfl⟩
  · exact hquiet.endsBefore t
  · exact Token.endsBefore_selection ht rest

/-- Only a quiet text follows what is weaker than a target. -/
theorem Follows.quiet {q : Query} {cs : List Char} (h : Follows q cs)
    (hq : q.strength < tight ∨ q.isIdentity = true) : Quiet cs := by
  rcases h with hquiet | ⟨hstrength, hidentity, _⟩
  · exact hquiet
  · rcases hq with hweak | hid
    · exact absurd hstrength (Nat.ne_of_lt hweak)
    · rw [hidentity] at hid
      cases hid

theorem quiet_cons {c : Char} (hc : c ∈ quietChars) (rest : List Char) : Quiet (c :: rest) := by
  intro d hd
  cases hd
  exact hc

/-! ## Written queries before a text -/

/-- Marks in parentheses are kept from what follows. -/
theorem Apart.parenthesized {ms : List Mark} {cs : List Char} (h : Apart ms (')' :: cs)) :
    Apart (parenthesized ms) cs :=
  .token trivial trivial (.append h (.token trivial trivial (.nil cs)))

/-- Marks in brackets are kept from what follows; they may not begin a wildcard. -/
theorem Apart.bracketed {ms : List Mark} {cs : List Char} (h : Apart ms (']' :: cs))
    (hhead : (textOf ms ++ ']' :: cs).head? ≠ some '*') : Apart (bracketed ms) cs := by
  refine .token trivial ?_ (.append h (.token trivial trivial (.nil cs)))
  simpa [Token.EndsBefore, Token.text] using hhead

/-- In parentheses or not, a query is lexed apart from what may follow it. -/
theorem Apart.marksAt {q : Query} (hq : ∀ cs, Follows q cs → Apart q.marks cs) {place : Nat}
    {cs : List Char} (hcs : Quiet cs ∨
      place = tight ∧ q.isIdentity = false ∧ ∃ rest, cs = '.' :: '"' :: rest) :
    Apart (q.marksAt place) cs := by
  unfold Query.marksAt enclosed
  split
  · -- the closing parenthesis keeps the query from what follows
    exact .parenthesized (hq _ (.inl (quiet_cons (by decide) _)))
  · rename_i hstrong
    refine hq cs (hcs.imp_right ?_)
    rintro ⟨rfl, hidentity, hrest⟩
    have hle := q.strength_le_tight
    exact ⟨by omega, hidentity, hrest⟩

/-- An operator between blanks is lexed apart from what follows. -/
theorem Apart.binaryMarks {op : Binary} {left right : List Mark} {cs : List Char}
    (hl : ∀ cs, Quiet cs → Apart left cs) (hr : Apart right cs) :
    Apart (binaryMarks op left right) cs := by
  have hblank : ∀ rest, Quiet (' ' :: rest) := quiet_cons (by decide)
  have htoken : op.token.Writable := by
    cases op with
    | or => exact (by decide : Text.isName "or" = true)
    | and => exact (by decide : Text.isName "and" = true)
    | _ => trivial
  refine .append (hl _ (hblank _)) (.blank (.token htoken ?_ (.blank hr)))
  exact (hblank _).endsBefore _

/-- The end of a range, or its absence, is lexed apart from a quiet text and begins no wildcard. -/
theorem sideMarks_before {side : Option Query}
    (h : ∀ p ∈ side, (∀ cs, Follows p cs → Apart p.marks cs) ∧ Opens p.marks) {c : Char}
    (hc : c ∈ quietChars) (rest : List Char) :
    Apart (sideMarks side) (c :: rest) ∧
      (textOf (sideMarks side) ++ c :: rest).head? ≠ some '*' := by
  cases side with
  | none =>
      have hstar : '*' ∉ quietChars := by decide
      refine ⟨.nil _, fun heq => ?_⟩
      cases heq
      exact hstar hc
  | some p =>
      rcases h p rfl with ⟨hp, hopens⟩
      exact ⟨hp _ (.inl (quiet_cons hc rest)), hopens.head?_ne_star _⟩

/-- A written query is lexed apart from what may follow it. -/
theorem apart_marks {q : Query} (h : q.Throughout WritableLiteral) :
    ∀ cs, Follows q cs → Apart q.marks cs := by
  induction q using binary_induction with
  | binary op left right ihl ihr =>
      intro cs hcs
      rcases throughout_iff.1 h with ⟨_, hparts⟩
      have hweak : (op.build left right).strength < tight := by
        rw [strength_build]
        exact Nat.lt_trans op.own_lt (by decide)
      have hquiet := hcs.quiet (.inl hweak)
      have hleft := ihl (hparts left (by simp [parts_build]))
      have hright := ihr (hparts right (by simp [parts_build]))
      rw [marks_build]
      -- a blank follows the left operand, the right one is followed by what follows the whole
      exact .binaryMarks (fun cs hcs => .marksAt hleft (.inl hcs)) (.marksAt hright (.inl hquiet))
  | other q hother ih =>
      intro cs hcs
      rcases throughout_iff.1 h with ⟨hfits, hparts⟩
      have ih : ∀ p ∈ q.parts, ∀ cs, Follows p cs → Apart p.marks cs :=
        fun p hp => ih p hp (hparts p hp)
      have hopens : ∀ p ∈ q.parts, Opens p.marks := fun p hp => opens_marks (hparts p hp)
      have hinside : ∀ p ∈ q.parts, ∀ {c rest}, c ∈ quietChars → Apart p.marks (c :: rest) :=
        fun p hp _ _ hc => ih p hp _ (.inl (quiet_cons hc _))
      have htarget : ∀ p ∈ q.parts, ∀ {c rest}, c ∈ quietChars →
          Apart (p.marksAt tight) (c :: rest) :=
        fun p hp _ _ hc => .marksAt (ih p hp) (.inl (quiet_cons hc _))
      have hside : ∀ side : Option Query, (∀ p ∈ side, p ∈ q.parts) → ∀ c rest, c ∈ quietChars →
          Apart (sideMarks side) (c :: rest) ∧
            (textOf (sideMarks side) ++ c :: rest).head? ≠ some '*' :=
        fun side hin c rest hc => sideMarks_before
          (fun p hp => ⟨ih p (hin p hp), hopens p (hin p hp)⟩) hc rest
      cases q with
      | identity => exact .token trivial ((hcs.quiet (.inr rfl)).endsBefore _) (.nil cs)
      | recurse => exact .token trivial trivial (.nil cs)
      | literal value =>
          rcases exists_token_literalMarks hfits with ⟨t, hmarks, _, ht, hdot⟩
          rw [marks, hmarks]
          exact .token ht (hcs.endsBefore hdot) (.nil cs)
      | field target name =>
          have hname : Apart [.token .dot, .token (.str name)] cs := by
            refine .token trivial ?_ (.token trivial trivial (.nil cs))
            rintro c hc
            cases hc
            decide
          cases hidentity : target.isIdentity with
          | true => simpa [marks, hidentity] using hname
          -- only here a selection, and not a quiet text, follows a part
          | false =>
              rw [marks, hidentity]
              refine .append (.marksAt (ih target List.mem_cons_self) (.inr ?_)) hname
              exact ⟨rfl, hidentity, _, rfl⟩
      | index target position =>
          have hposition : position ∈ (index target position).parts := by simp [parts]
          exact .append (htarget target (by simp [parts]) (by decide))
            (.bracketed (hinside position hposition (by decide))
              ((hopens position hposition).head?_ne_star _))
      | slice target low high =>
          have hlow := hside low (by simp +contextual [parts]) ':'
            (textOf (sideMarks high) ++ ']' :: cs) (by decide)
          have hhigh := hside high (by simp +contextual [parts]) ']' cs (by decide)
          refine .append (htarget target (by simp [parts]) (by decide)) (.bracketed ?_ ?_)
          · exact .append hlow.1 (.token trivial trivial hhigh.1)
          · simpa [Token.text] using hlow.2
      | iterate target =>
          exact .append (htarget target (by simp [parts]) (by decide))
            (.bracketed (.nil _) (by simp [textOf]))
      | optional inner =>
          exact .append (htarget inner (by simp [parts]) (by decide))
            (.token trivial trivial (.nil cs))
      | array inner =>
          have hinner := hside inner (by simp [parts]) ']' cs (by decide)
          exact .bracketed hinner.1 hinner.2
      | not inner =>
          have hname : (Token.ident "not").Writable := (by decide : Text.isName "not" = true)
          exact .token hname rfl (.parenthesized (hinside inner (by simp [parts]) (by decide)))
      | neg inner =>
          have hquiet := hcs.quiet (.inl (by decide : 8 < tight))
          exact .token trivial trivial (.marksAt (ih inner (by simp [parts])) (.inl hquiet))
      | call f arguments =>
          have hname : (Token.ident f.name).Writable := isName_builtin f
          cases arguments with
          | nil => exact .token hname (hcs.endsBefore (by simp)) (.nil cs)
          | cons argument more =>
              have hlen : more.length + 1 = f.arity := hfits
              obtain rfl := eq_nil_of_arity hlen
              refine .token hname rfl (.parenthesized ?_)
              exact .append (hinside argument (by simp [parts]) (by decide)) (.nil _)
      | _ => cases hother

/-! ## The end of a written query -/

/-- A text ends in a character that is not blank. -/
def Firm (cs : List Char) : Prop :=
  ∃ front c, cs = front ++ [c] ∧ Text.isBlank c = false

theorem Firm.append_left {cs : List Char} (h : Firm cs) (front : List Char) :
    Firm (front ++ cs) := by
  rcases h with ⟨more, c, rfl, hc⟩
  exact ⟨front ++ more, c, by rw [List.append_assoc], hc⟩

theorem firm_of_all {cs : List Char} (hne : cs ≠ []) (h : ∀ c ∈ cs, Text.isBlank c = false) :
    Firm cs :=
  ⟨cs.dropLast, cs.getLast hne, (List.dropLast_concat_getLast hne).symm,
    h _ (List.getLast_mem hne)⟩

/-- The text of a token ends in a character that is not blank. -/
theorem firm_text {t : Token} (ht : t.Writable) : Firm t.text := by
  cases t with
  | field name => cases ht
  | ident name =>
      rcases Text.exists_cons_of_isName ht with ⟨c, rest, hname, -, -⟩
      have hne : name.toList ≠ [] := by
        rw [hname]
        exact List.cons_ne_nil c rest
      refine firm_of_all hne fun d hd => ?_
      exact Text.isBlank_of_isNameChar (Text.isNameChar_of_mem ht hd)
  | num value =>
      rcases ht with ⟨n, hn, rfl⟩
      rw [text_num hn]
      refine firm_of_all Nat.toDigits_ne_nil fun c hc => ?_
      have hcode := Text.toNat_of_isDigit (Binary64.isDigit_of_mem_toDigits hc)
      exact Text.isBlank_eq_false (by omega) (by omega)
  | str text => exact ⟨'"' :: Json.escaped text.toList, '"', rfl, by decide⟩
  | comparison op =>
      exact firm_of_all (by cases op <;> decide) (forall_mem_of_all (by cases op <;> decide))
  | operator op =>
      exact firm_of_all (by cases op <;> decide) (forall_mem_of_all (by cases op <;> decide))
  | _ => exact firm_of_all (by decide) (forall_mem_of_all (by decide))

theorem firm_parenthesized (ms : List Mark) : Firm (textOf (parenthesized ms)) := by
  have h : textOf (parenthesized ms) = ('(' :: textOf ms) ++ [')'] := by
    simp [parenthesized, Token.text]
  exact ⟨_, ')', h, by decide⟩

theorem firm_bracketed (ms : List Mark) : Firm (textOf (bracketed ms)) := by
  have h : textOf (bracketed ms) = ('[' :: textOf ms) ++ [']'] := by
    simp [bracketed, Token.text]
  exact ⟨_, ']', h, by decide⟩

/-- Parentheses around a text leave it without a blank at its end. -/
theorem firm_enclosed {ms : List Mark} (h : Firm (textOf ms)) (weak : Prop) [Decidable weak] :
    Firm (textOf (enclosed weak ms)) := by
  unfold enclosed
  split
  · exact firm_parenthesized ms
  · exact h

/-- A written query ends in a character that is not blank. -/
theorem firm_marks {q : Query} (h : q.Throughout WritableLiteral) : Firm (textOf q.marks) := by
  induction q using binary_induction with
  | binary op left right ihl ihr =>
      rcases throughout_iff.1 h with ⟨_, hparts⟩
      have hright := firm_enclosed (ihr (hparts right (by simp [parts_build])))
        (right.strength < op.grouping.right)
      rw [marks_build, binaryMarks, textOf_append]
      -- the text ends as its right operand does
      have hafter := ((hright.append_left [' ']).append_left op.token.text).append_left [' ']
      exact hafter.append_left _
  | other q hother ih =>
      rcases throughout_iff.1 h with ⟨hfits, hparts⟩
      have hlast : ∀ {t : Token}, t.Writable → ∀ ms, Firm (textOf (ms ++ [.token t])) := by
        intro t ht ms
        rw [textOf_append, textOf_token, textOf_nil, List.append_nil]
        exact (firm_text ht).append_left _
      have hbracketed : ∀ front inside, Firm (textOf (front ++ bracketed inside)) := by
        intro front inside
        rw [textOf_append]
        exact (firm_bracketed inside).append_left _
      cases q with
      | identity => exact hlast (t := .dot) trivial []
      | recurse => exact hlast (t := .dotDot) trivial []
      | literal value =>
          rcases exists_token_literalMarks hfits with ⟨t, hmarks, _, ht, _⟩
          rw [marks, hmarks]
          exact hlast ht []
      | field target name =>
          have hsplit : ∀ front : List Mark, front ++ [.token .dot, .token (.str name)] =
              (front ++ [.token .dot]) ++ [.token (.str name)] := by simp
          rw [marks, hsplit]
          exact hlast (t := .str name) trivial _
      | index target position => exact hbracketed _ _
      | slice target low high => exact hbracketed _ _
      | iterate target => exact hbracketed _ _
      | optional inner => exact hlast (t := .question) trivial _
      | array inner => exact hbracketed [] _
      | not inner => exact (firm_parenthesized _).append_left ['n', 'o', 't']
      | neg inner =>
          have hinner := ih inner (by simp [parts]) (hparts inner (by simp [parts]))
          exact (firm_enclosed hinner _).append_left ['-']
      | call f arguments =>
          cases arguments with
          | nil => exact hlast (t := .ident f.name) (isName_builtin f) []
          | cons argument more => exact (firm_parenthesized _).append_left f.name.toList
      | _ => cases hother

/-- Nothing is trimmed from a text without blanks at its ends. -/
theorem trim_of_firm {c : Char} {rest : List Char} (hc : Text.isBlank c = false)
    (h : Firm (c :: rest)) : Text.trim (c :: rest) = c :: rest := by
  rcases h with ⟨front, d, heq, hd⟩
  refine Text.trim_eq_self_iff.2 ⟨?_, ?_⟩
  · rintro _ ⟨⟩
    exact hc
  · rw [heq, List.getLast?_concat]
    rintro _ ⟨⟩
    exact hd

theorem anchored_of_ne {c : Char} (hc : c ≠ '$') (rest : List Char) :
    anchored (c :: rest) = c :: rest := by
  unfold anchored
  split <;> simp_all

/-! ## The text of a query -/

/-- A written query is in its native form. -/
theorem normalize_written {q : Query} (h : q.Throughout WritableLiteral) :
    normalize q.written.toList = q.written.toList := by
  rcases (opens_marks h).text with ⟨c, rest, htext, hblank, hanchor, _⟩
  have hfirm := firm_marks h
  have hwildcards := (apart_marks h [] (.inl nofun)).wildcards
  rw [List.append_nil] at hwildcards
  rw [written, String.toList_ofList, normalize]
  -- no blank at either end, no anchor in front, and no wildcard inside
  rw [htext] at hfirm hwildcards ⊢
  rw [trim_of_firm hblank hfirm, anchored_of_ne hanchor, hwildcards]
  simp [replaceWildcards]

/-- A written query is lexed into the tokens it was made of. -/
theorem tokens?_written {q : Query} (h : q.Throughout WritableLiteral) :
    tokens? q.written.toList = some (tokensOf q.marks) := by
  have htokens := (apart_marks h [] (.inl nofun)).tokens
  rw [List.append_nil, tokens?_nil] at htokens
  rw [written, String.toList_ofList, htokens]
  simp

end Query
end Gleaner
