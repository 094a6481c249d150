import Gleaner.Proofs.Query.ValueQuery
/-!
# Members compared with numbers

A condition on a member is its name, a comparison and a number, as a filter writes it. It is read as
the comparison that it looks like, with the nearest binary number for the number.

* `NamesMember` says that a name alone is read as a member of the input;
* `ReadAs.comparison` reads two operands with a comparison between them;
* `read_memberComparison` reads the condition, and `eval_memberComparison` says what it decides.
-/

namespace Gleaner
namespace Query

/-- A name that is a member of the input where it stands alone, and no other word. -/
structure NamesMember (name : String) : Prop where
  isName : Text.isName name = true
  isMember : buildName name = .field .identity name
  noWord : name ≠ "and" ∧ name ≠ "or" ∧ name ≠ "not"

variable {name : String} {n : Number}

/-! ## Tokens -/

def spaced (op : Comparison) : List Char :=
  ' ' :: (op.symbol.toList ++ [' '])

def memberComparison (name : String) (op : Comparison) (n : Number) : List Char :=
  name.toList ++ (spaced op ++ n.written.toList)

theorem quiet_spaced (op : Comparison) (cs : List Char) : Quiet (spaced op ++ cs) :=
  quiet_cons (by decide) _

/-- A comparison between blanks is one token. -/
theorem tokens?_spaced (op : Comparison) (cs : List Char) :
    tokens? (spaced op ++ cs) = (tokens? cs).map (.comparison op :: ·) := by
  have hblank : Text.isBlank ' ' = true := by decide
  have hquiet : Quiet (' ' :: cs) := quiet_cons (by decide) cs
  have hop := tokens?_text (t := .comparison op) trivial (hquiet.endsBefore _)
  rw [tokens?_blank hblank] at hop
  rw [spaced, List.cons_append, List.append_assoc, tokens?_blank hblank]
  exact hop

/-- The tokens of a comparison of a member with a number. -/
theorem tokens?_memberComparison (hname : Text.isName name = true) (op : Comparison)
    (hn : n.InRange) :
    tokens? (memberComparison name op n) =
      some (.ident name :: .comparison op :: numberTokens n) := by
  have hends : EndsValue [] := nofun
  have hnumber := tokens?_number hn hends
  have hmember := tokens?_text (t := .ident name) hname
    ((quiet_spaced op n.written.toList).endsBefore _)
  rw [List.append_nil, tokens?_nil] at hnumber
  rw [tokens?_spaced, hnumber] at hmember
  exact hmember.trans (by simp)

/-- The condition is in its native form. -/
theorem normalize_memberComparison (hname : Text.isName name = true) (op : Comparison)
    (hn : n.InRange) :
    normalize (memberComparison name op n) = memberComparison name op n := by
  rcases Text.exists_cons_of_isName hname with ⟨c, rest, hcons, hc, _⟩
  have hcode := Text.toNat_of_isNameStart hc
  have hblank : Text.isBlank c = false := Text.isBlank_eq_false (by omega) (by omega)
  have hfirm : Firm (memberComparison name op n) :=
    ((firmlyBounded_number hn).back.append_left _).append_left _
  have hop : WildcardFree (spaced op) := by
    cases op <;> exact .of_plain (forall_mem_of_all (by decide))
  have hfront : memberComparison name op n = c :: (rest ++ (spaced op ++ n.written.toList)) := by
    rw [memberComparison, hcons, List.cons_append]
  have hbegins : c ≠ '$' ∧ c ≠ '*' := ⟨ne_of_test hc rfl, ne_of_test hc rfl⟩
  refine normalize_of_wildcardFree ⟨⟨c, _, hfront, hblank, hbegins⟩, hfirm⟩ fun cs => ?_
  -- a name has no wildcard in it, and what follows it does not begin with one
  have hrest := (hop.append (wildcardFree_number hn)) cs
  have hquiet := quiet_spaced op (n.written.toList ++ cs)
  have hmember := replaceWildcards_text (t := .ident name) hname (hquiet.endsBefore _)
  rw [List.append_assoc] at hrest
  rw [hrest] at hmember
  simpa [memberComparison, Token.text] using hmember

/-! ## The query -/

/-- A comparison is read from the tokens of its two sides. -/
theorem ReadAs.comparison (op : Comparison) {ts us : List Token} {left right : Query}
    (hts : ts ≠ []) (hleft : ReadAs .additive ts left)
    (hright : ReadAs .additive us right) :
    ReadAs .comparison (ts ++ .comparison op :: us) (.compare op left right) := by
  intro stop fuel ls rest hls hrest hfuel
  rcases hls.append with ⟨la, lb, rfl, hla, hlb⟩
  rcases hlb.cons with ⟨offset, lc, rfl, hlc⟩
  have hpos : 0 < la.length := hla.length ▸ List.length_pos_of_ne_nil hts
  have hrank : Level.comparison.rank = 5 ∧ Level.additive.rank = 6 := ⟨rfl, rfl⟩
  simp only [List.length_append, List.length_cons] at hfuel
  obtain ⟨fuel, rfl⟩ : ∃ f, fuel = f + 2 := ⟨fuel - 2, by omega⟩
  -- the sign ends the left operand, whose level is the stronger one
  have hstops : Stops Level.additive.rank (⟨.comparison op, offset⟩ :: (lc ++ rest)) := by
    rintro l ⟨⟩
    exact .inr ⟨.comparison op, rfl, Nat.lt_succ_self _⟩
  have hfirst := @hleft stop (fuel + 1) la _ hla hstops (by omega)
  have hsecond := @hright stop fuel lc rest hlc (hrest.mono (by decide)) (by omega)
  have hstep := parseRest_operator (.comparison op) stop fuel offset left (lc ++ rest)
  have hlevel : (Binary.comparison op).level = .comparison := rfl
  have hoperand : Level.comparison.rightOperand = .additive := rfl
  have hnext : Level.comparison.next = .additive := rfl
  rw [hlevel, hoperand, hsecond] at hstep
  rw [List.append_assoc, List.cons_append, parseLevel_next (by decide), hnext, hfirst]
  exact hstep

/-- A name is read as the member of that name. -/
theorem readAs_member (h : NamesMember name) :
    ReadAs .unary [.ident name] (.field .identity name) := by
  have hconstant : isConstantName name = false := by
    refine Bool.eq_false_iff.2 fun hconstant => ?_
    have hmember := h.isMember
    simp only [isConstantName, Bool.or_eq_true, beq_iff_eq] at hconstant
    rcases hconstant with (rfl | rfl) | rfl <;> cases hmember
  have hword : ¬ (name = "and" ∨ name = "or") := fun hor => hor.elim h.noWord.1 h.noWord.2.1
  refine .of_primary (bne_iff_ne.2 h.noWord.2.2) (.single fun stop fuel offset rest hrest => ?_)
  rw [parsePrimary_ident, parseName_plain hconstant hword hrest, h.isMember]

/-- A condition on a member is read as a comparison with the query of the number. -/
theorem read_memberComparison (h : NamesMember name) (op : Comparison) (hn : n.InRange) :
    read (String.ofList (memberComparison name op n)) =
      .ok (.compare op (.field .identity name) (numberQuery n)) := by
  have htokens := tokens?_memberComparison h.isName op hn
  have hnative := normalize_memberComparison h.isName op hn
  have hmember : ReadAs .additive [.ident name] (.field .identity name) :=
    .of_unary (List.cons_ne_nil _ _) (readAs_member h) _
  have hnumber : ReadAs .additive (numberTokens n) (numberQuery n) :=
    .of_unary (List.append_ne_nil_of_right_ne_nil _ (List.cons_ne_nil _ _)) (readAs_number n) _
  have hcomparison := ReadAs.comparison op (List.cons_ne_nil _ _) hmember hnumber
  rw [← String.toList_ofList (l := memberComparison name op n)] at htokens hnative
  refine read_of_readAs ?_ htokens (List.cons_ne_nil _ _) ?_
  · rw [hnative, String.toList_ofList]
  · exact hcomparison.of_stronger (List.cons_ne_nil _ _) (by decide)

/-- It decides by the order of the member and the number; a missing member counts as null. -/
theorem eval_memberComparison (name : String) (op : Comparison) (n : Number) (members : Members) :
    (Query.compare op (.field .identity name) (numberQuery n)).eval (.object members) =
      .ok [.bool (op.holds
        (Json.compare ((Members.get? name members).getD .null) (.number n)))] := by
  have hnumber := eval_numberQuery n (.object members)
  have hsame : Json.compare (.number (.ofFinite n.toFinite)) (.number n) = .eq :=
    Json.compare_inBinary (.number n)
  rw [← Std.TransCmp.congr_right hsame]
  simp [eval, hnumber, member, forPairs, bind, Except.bind, pure, Except.pure]

end Query
end Gleaner
