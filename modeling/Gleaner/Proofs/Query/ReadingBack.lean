import Gleaner.Proofs.Query.Levels
/-!
# Reading back written queries

Reading undoes writing: the text that is written of a query is read as that query.

* `Selects` and `ReadsPrimary` say what the parser makes of selections and of primary expressions;
* `readBack` takes a query apart by its parts, and `read_written` is the result.
-/

namespace Gleaner
namespace Query

/-! ## Selections -/

/-- Tokens after a target are read as one selection. -/
def Selects (target : Query) (ts : List Token) (q : Query) : Prop :=
  ∀ ⦃stop fuel : Nat⦄ ⦃ls rest : List Lexeme⦄, Spells ls ts → 16 * ls.length ≤ fuel + tight →
    parseSuffixes stop (fuel + 1) target (ls ++ rest) = parseSuffixes stop fuel q rest

/-- Whether a token may begin a selection. -/
def Token.selects : Token → Bool
  | .dot | .leftBracket | .question => true
  | _ => false

/-- Selections do not belong to what stands before them. -/
theorem detached_of_selects {t : Token} (ht : t.selects = true) {ls : List Lexeme}
    {ts : List Token} (hls : Spells ls (t :: ts)) (rest : List Lexeme) : Detached (ls ++ rest) := by
  rcases hls.cons with ⟨offset, tail, rfl, _⟩
  intro l hl
  cases hl
  constructor
  · rintro text rfl
    cases ht
  · rintro rfl
    cases ht

/-- A target with a selection is a target. -/
theorem Targets.select {target q : Query} (htarget : target.Throughout WritableLiteral)
    (h : Targets target) {t : Token} {ts : List Token} (ht : t.selects = true)
    (hselects : Selects target (t :: ts) q)
    (hmarks : tokensOf (q.marksAt tight) = tokensOf (target.marksAt tight) ++ t :: ts) :
    Targets q := by
  intro stop fuel ls rest hls hrest hfuel
  rw [hmarks] at hls
  rcases hls.append with ⟨la, lb, rfl, hla, hlb⟩
  have hpos := length_pos_of_spells_marksAt htarget hla
  have hselection : 0 < lb.length := by
    rcases hlb.cons with ⟨offset, tail, rfl, _⟩
    exact Nat.succ_pos _
  have htight : tight = 9 := rfl
  simp only [List.length_append] at hfuel ⊢
  have hread := @h stop fuel la (lb ++ rest) hla (detached_of_selects ht hlb rest) (by omega)
  rcases hread with ⟨remaining, hremaining, heq⟩
  cases remaining with
  | zero => omega
  | succ remaining =>
      refine ⟨remaining, by omega, ?_⟩
      rw [List.append_assoc, heq]
      exact hselects hlb (by omega)

/-- A dot and a string select a member of the target. -/
theorem selects_member (target : Query) (name : String) :
    Selects target [.dot, .str name] (.field target name) := by
  intro stop fuel ls rest hls hfuel
  rcases hls.cons with ⟨_, _, rfl, hstr⟩
  rcases hstr.cons with ⟨_, _, rfl, hnil⟩
  cases hnil.nil
  rfl

theorem selects_optional (target : Query) : Selects target [.question] (.optional target) := by
  intro stop fuel ls rest hls hfuel
  rcases hls.cons with ⟨_, _, rfl, hnil⟩
  cases hnil.nil
  rfl

/-- What stands in brackets is read as one selection. -/
theorem selects_bracketed {target q : Query} {m : List Mark}
    (h : ∀ {stop fuel offset : Nat} {ls rest : List Lexeme}, Spells ls (tokensOf m) →
      16 * ls.length ≤ fuel →
      parseBracket stop (fuel + 1) target (ls ++ ⟨.rightBracket, offset⟩ :: rest) = .ok (q, rest)) :
    Selects target (.leftBracket :: (tokensOf m ++ [.rightBracket])) q := by
  intro stop fuel ls rest hls hfuel
  rcases hls.between with ⟨offset, body, offset', rfl, hbody⟩
  have htight : tight = 9 := rfl
  simp only [List.length_append, List.length_cons, List.length_nil] at hfuel
  have hsplit : ⟨.leftBracket, offset⟩ :: (body ++ [⟨.rightBracket, offset'⟩]) ++ rest =
      (⟨.leftBracket, offset⟩ : Lexeme) :: (body ++ ⟨.rightBracket, offset'⟩ :: rest) := by simp
  cases fuel with
  | zero => omega
  | succ fuel =>
      rw [hsplit, parseSuffixes_leftBracket, h hbody (by omega)]
      rfl

/-! ## Brackets -/

/-- Lexemes begin as a written query does. -/
def Begins (ls : List Lexeme) : Prop :=
  ∃ l rest, ls = l :: rest ∧ l.token.opens = true

theorem Begins.append {ls : List Lexeme} (h : Begins ls) (rest : List Lexeme) :
    Begins (ls ++ rest) := by
  rcases h with ⟨l, more, rfl, hl⟩
  exact ⟨l, more ++ rest, rfl, hl⟩

/-- The tokens of a query begin as those of an expression. -/
theorem begins_of_spells {q : Query} (hq : q.Throughout WritableLiteral) {ls : List Lexeme}
    (hls : Spells ls (tokensOf q.marks)) : Begins ls := by
  rcases opens_marks hq with ⟨t, more, hmarks, hopens, _⟩
  rw [hmarks] at hls
  rcases hls.cons with ⟨offset, rest, rfl, _⟩
  exact ⟨_, rest, rfl, hopens⟩

variable {stop fuel offset : Nat} {target : Query} {ls rest : List Lexeme}

/-- What begins as a query does in a bracket is an index or the low end of a range. -/
theorem parseBracket_of_begins (hls : Begins ls) :
    parseBracket stop (fuel + 1) target ls = (do
      let (position, after) ← parseLevel stop fuel .pipe ls
      match after with
      | ⟨.colon, _⟩ :: ⟨.rightBracket, _⟩ :: rest => .ok (.slice target (some position) none, rest)
      | ⟨.colon, _⟩ :: rest => do
        let (high, after) ← parseLevel stop fuel .pipe rest
        let after ← expect stop .rightBracket after
        .ok (.slice target (some position) (some high), after)
      | after => do
        let after ← expect stop .rightBracket after
        .ok (.index target position, after)) := by
  rcases hls with ⟨l, more, rfl, hl⟩
  rw [parseBracket.eq_def]
  split
  case h_1 heq => cases heq
  case h_2 heq =>
    -- a closing bracket begins no query
    cases heq
    cases hl
  case h_3 heq =>
    -- nor does a colon
    cases heq
    cases hl
  case h_4 heq _ _ =>
    cases heq
    rfl

theorem parseBracket_index (hls : Begins ls) {position : Query}
    (hread : parseLevel stop fuel .pipe ls = .ok (position, ⟨.rightBracket, offset⟩ :: rest)) :
    parseBracket stop (fuel + 1) target ls = .ok (.index target position, rest) := by
  rw [parseBracket_of_begins hls, hread]
  rfl

theorem parseBracket_from (hls : Begins ls) {low : Query} {offset' : Nat}
    (hread : parseLevel stop fuel .pipe ls =
      .ok (low, ⟨.colon, offset⟩ :: ⟨.rightBracket, offset'⟩ :: rest)) :
    parseBracket stop (fuel + 1) target ls = .ok (.slice target (some low) none, rest) := by
  rw [parseBracket_of_begins hls, hread]
  rfl

/-- Between brackets, two expressions with a colon between them make a range. -/
theorem parseBracket_range (hls : Begins ls) {low high : Query} {offset' : Nat}
    {more : List Lexeme} (hmore : Begins more)
    (hlow : parseLevel stop fuel .pipe ls = .ok (low, ⟨.colon, offset⟩ :: more))
    (hhigh : parseLevel stop fuel .pipe more = .ok (high, ⟨.rightBracket, offset'⟩ :: rest)) :
    parseBracket stop (fuel + 1) target ls = .ok (.slice target (some low) (some high), rest) := by
  rw [parseBracket_of_begins hls, hlow]
  rcases hmore with ⟨⟨t, _⟩, tail, rfl, ht⟩
  cases t <;> first | (simp only [bind, Except.bind, hhigh]; rfl) | cases ht

theorem parseBracket_to {high : Query} {offset' : Nat}
    (hread : parseLevel stop fuel .pipe ls = .ok (high, ⟨.rightBracket, offset'⟩ :: rest)) :
    parseBracket stop (fuel + 1) target (⟨.colon, offset⟩ :: ls) =
      .ok (.slice target none (some high), rest) := by
  rw [parseBracket, hread]
  rfl

/-- An expression between brackets selects an item of the target. -/
theorem selects_index {position : Query} (hposition : position.Throughout WritableLiteral)
    (h : ReadBy .pipe position) :
    Selects target (.leftBracket :: (tokensOf position.marks ++ [.rightBracket]))
      (.index target position) := by
  refine selects_bracketed fun hls hfuel => ?_
  exact parseBracket_index ((begins_of_spells hposition hls).append _)
    (h.inside hls rfl hfuel _ _ _)

/-- Empty brackets select all items of the target. -/
theorem selects_iterate (target : Query) :
    Selects target (.leftBracket :: ([] ++ [.rightBracket])) (.iterate target) := by
  refine selects_bracketed (m := []) fun hls _ => ?_
  cases hls.nil
  rfl

/-- The ends of a range are read back, at least one of which has to be there. -/
theorem selects_slice {low high : Option Query} (hsome : low.isSome ∨ high.isSome)
    (hfits : ∀ q, q ∈ low ∨ q ∈ high → q.Throughout WritableLiteral ∧ ReadBy .pipe q) :
    Selects target
      (.leftBracket :: (tokensOf (sideMarks low ++ .token .colon :: sideMarks high) ++
        [.rightBracket]))
      (.slice target low high) := by
  refine selects_bracketed fun {stop fuel offset ls rest} hls hfuel => ?_
  rw [tokensOf_append, tokensOf_token] at hls
  rcases hls.append with ⟨la, lb, rfl, hla, hlb⟩
  rcases hlb.cons with ⟨offset', lh, rfl, hlh⟩
  simp only [List.length_append, List.length_cons] at hfuel
  rw [List.append_assoc, List.cons_append]
  -- a range with a high end only, with a low end only, or with both
  cases low with
  | none =>
      cases hla.nil
      cases high with
      | none => cases hsome <;> contradiction
      | some high =>
          have hhigh := hfits high (.inr rfl)
          exact parseBracket_to (hhigh.2.inside hlh rfl (by omega) _ _ _)
  | some low =>
      have hlow := hfits low (.inl rfl)
      have hbegins := begins_of_spells hlow.1 hla
      cases high with
      | none =>
          cases hlh.nil
          exact parseBracket_from (hbegins.append _) (hlow.2.inside hla rfl (by omega) _ _ _)
      | some high =>
          have hhigh := hfits high (.inr rfl)
          have hmore := begins_of_spells hhigh.1 hlh
          exact parseBracket_range (hbegins.append _) (hmore.append _)
            (hlow.2.inside hla rfl (by omega) _ _ _) (hhigh.2.inside hlh rfl (by omega) _ _ _)

/-! ## Primary expressions -/

/-- A token that is a primary expression by itself. -/
theorem ReadsPrimary.single {t : Token} {q : Query}
    (h : ∀ (stop fuel offset : Nat) (rest : List Lexeme), Detached rest →
      parsePrimary stop (fuel + 2) (⟨t, offset⟩ :: rest) = .ok (q, rest)) :
    ReadsPrimary [t] q := by
  intro stop fuel ls rest hls hrest hfuel
  rcases hls.cons with ⟨offset, _, rfl, hnil⟩
  cases hnil.nil
  rw [List.length_singleton] at hfuel
  obtain ⟨fuel, rfl⟩ : ∃ f, fuel = f + 2 := ⟨fuel - 2, by omega⟩
  exact h stop fuel offset rest hrest

/-- A dot alone is the identity. -/
theorem readsPrimary_identity : ReadsPrimary [.dot] .identity := by
  refine .single fun stop fuel offset rest hrest => ?_
  cases rest with
  | nil => rfl
  | cons l rest =>
      -- before a string the point would select a member
      rcases l with ⟨t, offset'⟩
      cases t with
      | str text => exact absurd rfl ((hrest _ rfl).1 text)
      | _ => rfl

theorem readsPrimary_recurse : ReadsPrimary [.dotDot] .recurse :=
  .single fun _ _ _ _ _ => rfl

/-- A dot and a string name a member. -/
theorem readsPrimary_member (name : String) :
    ReadsPrimary [.dot, .str name] (.field .identity name) := by
  intro stop fuel ls rest hls hrest hfuel
  rcases hls.cons with ⟨offset, _, rfl, hstr⟩
  rcases hstr.cons with ⟨offset', _, rfl, hnil⟩
  cases hnil.nil
  simp only [List.length_cons, List.length_nil] at hfuel
  cases fuel with
  | zero => omega
  | succ fuel => rfl

/-! ## Names -/

/-- A literal is read back as its value. -/
theorem readsPrimary_literal {value : Json} (h : WritableLiteral value) :
    ReadsPrimary (tokensOf (literalMarks value)) (.literal value) := by
  have constant : ∀ name, isConstantName name = true →
      ReadsPrimary [.ident name] (buildName name) := fun name hname =>
    .single fun stop fuel offset rest _ => parseName_constant hname stop fuel offset rest
  cases value with
  | null => exact constant "null" rfl
  | bool b =>
      cases b with
      | true => exact constant "true" rfl
      | false => exact constant "false" rfl
  | string text => exact .single fun _ _ _ _ _ => rfl
  | number n =>
      cases n with
      | real x => cases h
      | integer n =>
          rcases Int.eq_ofNat_of_zero_le h.1 with ⟨k, rfl⟩
          have hk : k < 2 ^ 53 := by
            have := h.2
            omega
          refine .single fun stop fuel offset rest _ => ?_
          rw [finite_toFinite hk, parsePrimary_num, Number.ofBinary?_ofInt hk]
  | array items => cases h
  | object members => cases h

/-- The name of a function without argument is a call. -/
theorem readsPrimary_function {f : Builtin} (hf : f.arity = 0) :
    ReadsPrimary [.ident f.name] (.call f []) := by
  refine .single fun stop fuel offset rest hrest => ?_
  rcases name_not_reserved f with ⟨hconstant, hword, _⟩
  have hbuild : buildName f.name = .call f [] := by
    have hfind := find?_name f
    rw [hf] at hfind
    simp only [isConstantName, Bool.or_eq_false_iff, beq_eq_false_iff_ne] at hconstant
    simp [buildName, hconstant, hfind]
  rw [parsePrimary_ident, parseName_plain hconstant hword hrest, hbuild]

/-- A call of one argument is a primary expression. -/
theorem readsPrimary_call {name : String} (hconstant : isConstantName name = false)
    (hword : ¬ (name = "and" ∨ name = "or")) {argument q : Query} (h : ReadBy .pipe argument)
    (hbuild : buildCall name [argument] = .ok q) :
    ReadsPrimary (.ident name :: tokensOf (parenthesized argument.marks)) q := by
  intro stop fuel ls rest hls hrest hfuel
  rcases hls.cons with ⟨offset, tail, rfl, htail⟩
  rw [tokensOf_parenthesized] at htail
  rcases htail.between with ⟨offset', body, offset'', rfl, hbody⟩
  simp only [List.length_cons, List.length_append, List.length_nil] at hfuel
  obtain ⟨fuel, rfl⟩ : ∃ f, fuel = f + 3 := ⟨fuel - 3, by omega⟩
  have hread : parseLevel stop fuel .pipe (body ++ ⟨.rightParen, offset''⟩ :: rest) = _ :=
    h.inside hbody rfl (by omega) _ _ _
  -- the closing parenthesis ends the argument and the list of arguments
  have harguments : parseArguments stop (fuel + 1) (body ++ ⟨.rightParen, offset''⟩ :: rest) =
      .ok ([argument], rest) := by
    rw [parseArguments, hread]
    rfl
  have hsplit : ⟨.ident name, offset⟩ :: ⟨.leftParen, offset'⟩ ::
      (body ++ [⟨.rightParen, offset''⟩]) ++ rest =
      (⟨.ident name, offset⟩ : Lexeme) :: ⟨.leftParen, offset'⟩ ::
        (body ++ ⟨.rightParen, offset''⟩ :: rest) := by simp
  rw [hsplit, parsePrimary_ident, parseName_called hconstant hword, harguments]
  simp only [bind, Except.bind, hbuild]

/-! ## Arrays -/

/-- An expression between brackets, with no target before them, makes an array. -/
theorem parsePrimary_array {fuel : Nat} {inner : Query} {offset' : Nat} {ls rest : List Lexeme}
    (hls : Begins ls)
    (hread : parseLevel stop fuel .pipe ls = .ok (inner, ⟨.rightBracket, offset'⟩ :: rest)) :
    parsePrimary stop (fuel + 1) (⟨.leftBracket, offset⟩ :: ls) =
      .ok (.array (some inner), rest) := by
  rcases hls with ⟨⟨t, _⟩, tail, rfl, ht⟩
  rw [parsePrimary.eq_def]
  cases t <;> first | (simp only [bind, Except.bind, hread]; rfl) | cases ht

/-- Brackets around a query that is read back make an array. -/
theorem readsPrimary_array {inner : Option Query}
    (hfits : ∀ q ∈ inner, q.Throughout WritableLiteral ∧ ReadBy .pipe q) :
    ReadsPrimary (tokensOf (bracketed (sideMarks inner))) (.array inner) := by
  intro stop fuel ls rest hls hrest hfuel
  rw [tokensOf_bracketed] at hls
  rcases hls.between with ⟨offset, body, offset', rfl, hbody⟩
  simp only [List.length_cons, List.length_append, List.length_nil] at hfuel
  obtain ⟨fuel, rfl⟩ : ∃ f, fuel = f + 1 := ⟨fuel - 1, by omega⟩
  have hsplit : ⟨.leftBracket, offset⟩ :: (body ++ [⟨.rightBracket, offset'⟩]) ++ rest =
      (⟨.leftBracket, offset⟩ : Lexeme) :: (body ++ ⟨.rightBracket, offset'⟩ :: rest) := by simp
  rw [hsplit]
  cases inner with
  | none =>
      cases hbody.nil
      rfl
  | some q =>
      have hq := hfits q rfl
      exact parsePrimary_array ((begins_of_spells hq.1 hbody).append _)
        (hq.2.inside hbody rfl (by omega) _ _ _)

/-! ## Reading undoes writing -/

/-- A target with a selection is read back. -/
theorem ReadBack.select {target q : Query} (hq : q.Throughout WritableLiteral)
    (hstrength : q.strength = tight) (htarget : target.Throughout WritableLiteral)
    (h : ReadBack target) {t : Token} {ts : List Token} (ht : t.selects = true)
    (hselects : Selects target (t :: ts) q)
    (hmarks : tokensOf q.marks = tokensOf (target.marksAt tight) ++ t :: ts) : ReadBack q := by
  refine .of_target hq hstrength (h.target.select htarget ht hselects ?_)
  rwa [marksAt_tight hstrength]

/-- A primary expression is read back. -/
theorem ReadBack.primary {q : Query} (hq : q.Throughout WritableLiteral)
    (hstrength : q.strength = tight) (h : ReadsPrimary (tokensOf q.marks) q) : ReadBack q := by
  refine .of_target hq hstrength (.of_primary hq ?_)
  rwa [marksAt_tight hstrength]

/-- Every query that can be written is read back wherever it may stand. -/
theorem readBack {q : Query} (h : q.Throughout WritableLiteral) : ReadBack q := by
  induction q using binary_induction with
  | binary op left right ihl ihr =>
      rcases throughout_iff.1 h with ⟨_, hparts⟩
      exact .build h (ihl (hparts left (by simp [parts_build])))
        (ihr (hparts right (by simp [parts_build])))
  | other q hother ih =>
      rcases throughout_iff.1 h with ⟨hfits, hparts⟩
      have ih : ∀ p ∈ q.parts, ReadBack p := fun p hp => ih p hp (hparts p hp)
      have hinside : ∀ p ∈ q.parts, p.Throughout WritableLiteral ∧ ReadBy .pipe p :=
        fun p hp => ⟨hparts p hp, (ih p hp).level .pipe⟩
      cases q with
      | neg inner => exact .neg h (ih inner (by simp [parts]))
      | identity => exact .primary h rfl readsPrimary_identity
      | recurse => exact .primary h rfl readsPrimary_recurse
      | literal value => exact .primary h rfl (readsPrimary_literal hfits)
      | field target name =>
          have hpart : target ∈ (field target name).parts := by simp [parts]
          -- a member of the input is a primary expression, any other member a selection
          cases hidentity : target.isIdentity with
          | true =>
              obtain rfl : target = .identity := by
                cases target <;> first | rfl | cases hidentity
              exact .primary h rfl (readsPrimary_member name)
          | false =>
              refine (ih target hpart).select h rfl (hparts target hpart) rfl
                (selects_member target name) ?_
              rw [marks, hidentity]
              exact tokensOf_append _ _
      | index target position =>
          have hpart : target ∈ (index target position).parts := by simp [parts]
          have hposition := hinside position (by simp [parts])
          refine (ih target hpart).select h rfl (hparts target hpart) rfl
            (selects_index hposition.1 hposition.2) ?_
          rw [← tokensOf_bracketed]
          exact tokensOf_append _ _
      | slice target low high =>
          have hpart : target ∈ (slice target low high).parts := by simp [parts]
          have hends : ∀ q, q ∈ low ∨ q ∈ high →
              q.Throughout WritableLiteral ∧ ReadBy .pipe q := by
            rintro q (hlow | hhigh)
            · exact hinside q (by simp [parts, Option.mem_def.1 hlow])
            · exact hinside q (by simp [parts, Option.mem_def.1 hhigh])
          refine (ih target hpart).select h rfl (hparts target hpart) rfl
            (selects_slice hfits hends) ?_
          rw [← tokensOf_bracketed]
          exact tokensOf_append _ _
      | iterate target =>
          have hpart : target ∈ (iterate target).parts := by simp [parts]
          exact (ih target hpart).select h rfl (hparts target hpart) rfl (selects_iterate target)
            (tokensOf_append _ _)
      | optional inner =>
          have hpart : inner ∈ (optional inner).parts := by simp [parts]
          exact (ih inner hpart).select h rfl (hparts inner hpart) rfl (selects_optional inner)
            (tokensOf_append _ _)
      | array inner =>
          refine .primary h rfl (readsPrimary_array fun q hq => hinside q ?_)
          simp [parts, Option.mem_def.1 hq]
      | not inner =>
          have hinner := hinside inner (by simp [parts])
          exact .primary h rfl (readsPrimary_call rfl (by decide) hinner.2 rfl)
      | call f arguments =>
          rcases name_not_reserved f with ⟨hconstant, hword, _⟩
          cases arguments with
          | nil => exact .primary h rfl (readsPrimary_function hfits.symm)
          | cons argument more =>
              have hlen : more.length + 1 = f.arity := hfits
              obtain rfl := eq_nil_of_arity hlen
              have hargument := hinside argument (by simp [parts])
              have hmarks : (call f [argument]).marks =
                  .token (.ident f.name) :: parenthesized argument.marks := by
                rw [marks, moreMarks, List.append_nil]
              refine .primary h rfl ?_
              rw [hmarks]
              exact readsPrimary_call hconstant hword hargument.2
                (buildCall_function hlen.symm argument)
      | _ => cases hother

/-- A text in its native form is the query that the levels read from its tokens. -/
theorem read_of_readAs {s : String} {ts : List Token} {q : Query}
    (hnative : normalize s.toList = s.toList) (htokens : tokens? s.toList = some ts)
    (hts : ts ≠ []) (h : ReadAs .pipe ts q) : read s = .ok q := by
  rcases tokens?_eq_some_iff.1 htokens with ⟨ls, hlex, hls⟩
  have hne : ls ≠ [] := by
    rintro rfl
    exact hts hls.symm
  have hpos := List.length_pos_of_ne_nil hne
  -- the parser takes its fuel from the number of lexemes, and that is enough
  have hfuel : 16 * ls.length ≤ nestingBound ls + Level.pipe.rank := by
    unfold nestingBound
    omega
  have hparse : parseLevel (Text.byteLength s.toList) (nestingBound ls) .pipe (ls ++ []) =
      .ok (q, []) := h hls nofun hfuel
  rw [List.append_nil] at hparse
  rw [read, hnative, hlex]
  simp [bind, Except.bind, ofLexemes, hne, hparse]

/-- Reading undoes writing. -/
theorem read_written (q : Query) (h : q.Throughout WritableLiteral) : read q.written = .ok q := by
  have hplace : q.marksAt Level.pipe.rank = q.marks := marksAt_of_le (Nat.zero_le _)
  have hlevel : ReadAs .pipe (tokensOf (q.marksAt Level.pipe.rank)) q := (readBack h).level .pipe
  have hne := tokensOf_marksAt_ne_nil h Level.pipe.rank
  rw [hplace] at hlevel hne
  exact read_of_readAs (normalize_written h) (tokens?_written h) hne hlevel

def groupedOperands : Query :=
  .arith .mul (.pipe .identity (.field .identity "a"))
    (.neg (.slice (.field .identity "b") (some (.literal (.ofNat 1))) none))

/-- A query with a grouped operand is written with the brackets it needs, and read back. -/
theorem read_written_of_groupedOperands :
    groupedOperands.written = "(. | .\"a\") * -.\"b\"[1:]" ∧
      groupedOperands.Throughout WritableLiteral ∧
      read groupedOperands.written = .ok groupedOperands := by
  have hidentity : identity.Throughout WritableLiteral :=
    throughout_iff.2 ⟨trivial, nofun⟩
  have hone : (literal (.ofNat 1)).Throughout WritableLiteral :=
    throughout_iff.2 ⟨⟨by decide, by decide⟩, nofun⟩
  have hfield : ∀ name, (field .identity name).Throughout WritableLiteral := fun name =>
    throughout_iff.2 ⟨trivial, by simp [parts, hidentity]⟩
  have hslice : (slice (.field .identity "b") (some (.literal (.ofNat 1))) none).Throughout
      WritableLiteral :=
    throughout_iff.2 ⟨.inl rfl, by simp [parts, hfield, hone]⟩
  have hneg : (neg (.slice (.field .identity "b") (some (.literal (.ofNat 1))) none)).Throughout
      WritableLiteral :=
    throughout_iff.2 ⟨trivial, by simp [parts, hslice]⟩
  have hpipe : (pipe .identity (.field .identity "a")).Throughout WritableLiteral :=
    throughout_iff.2 ⟨trivial, by simp [parts, hidentity, hfield]⟩
  have hthroughout : groupedOperands.Throughout WritableLiteral :=
    throughout_iff.2 ⟨trivial, by simp [groupedOperands, parts, hpipe, hneg]⟩
  exact ⟨by decide +kernel, hthroughout, read_written _ hthroughout⟩

end Query
end Gleaner
