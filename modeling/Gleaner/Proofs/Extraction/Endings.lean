import Gleaner.Extraction
import Gleaner.Proofs.Extraction.Nesting
import Gleaner.Proofs.Text.Ends
import Gleaner.Proofs.Text.Trimming
/-!
# The endings of expressions on hypertext

* `Ends` says what an ending is and what precedes it, and `splitEnding_eq_some_iff` that this is
  what is cut off;
* `Respects` texts have their endings outside of quotes and square brackets, and are kept whole when
  two colons stand inside of these only;
* `splitEnding_respects_iff`: these are the texts in which nothing inside of quotes or brackets
  imitates an ending, and every selector gets its own ending back.
-/

namespace Gleaner
namespace Extraction

open Selector (Outside leadsOut)

/-! ## What is cut off -/

/-- A text is a selector and an ending; an attribute follows the last place where one can. -/
inductive Ends : List Char → List Char → Extraction → Prop where
  | text (selector : List Char) : Ends (selector ++ "::text".toList) selector .text
  | markup (selector : List Char) : Ends (selector ++ "::html".toList) selector .markup
  | attr (selector name : List Char) :
      (∀ b a, selector ++ "::attr(".toList ++ name = b ++ "::attr(".toList ++ a →
        b.length ≤ selector.length) →
      Text.trim name ≠ [] →
      Ends (selector ++ "::attr(".toList ++ name ++ [')']) selector
        (.attr (String.ofList (Text.trim name)))

/--
What comes before `::attr(` is taken as the selector up to the last place where that text stands.
-/
theorem splitAttribute?_eq_some_iff {cs selector : List Char} {taken : Extraction} :
    splitAttribute? cs = some (selector, taken) ↔
      ∃ name, cs = selector ++ "::attr(".toList ++ name ++ [')'] ∧
        (∀ b a, selector ++ "::attr(".toList ++ name = b ++ "::attr(".toList ++ a →
          b.length ≤ selector.length) ∧
        Text.trim name ≠ [] ∧ taken = .attr (String.ofList (Text.trim name)) := by
  constructor
  · intro h
    rcases Option.bind_eq_some_iff.1 h with ⟨inner, hinner, h⟩
    rcases Option.bind_eq_some_iff.1 h with ⟨⟨front, name⟩, hcut, hfound⟩
    rcases Text.cutAtLast?_eq_some_iff.1 hcut with ⟨rfl, hlast⟩
    dsimp only at hfound
    split at hfound
    · cases hfound
    · rename_i hbare
      cases hfound
      exact ⟨name, Text.dropSuffix?_eq_some_iff.1 hinner, hlast, by simpa using hbare, rfl⟩
  · rintro ⟨name, rfl, hlast, hbare, rfl⟩
    have hcut := Text.cutAtLast?_eq_some_iff.2 ⟨rfl, hlast⟩
    rw [splitAttribute?, Text.dropSuffix?_eq_some_iff.2 rfl]
    simp only [Option.bind_eq_bind, Option.bind_some, hcut]
    simp [hbare]

/-- The endings split off are exactly those that `Ends` describes. -/
theorem splitEnding_eq_some_iff {cs selector : List Char} {taken : Extraction} :
    splitEnding cs = .ok (selector, some taken) ↔ Ends cs selector taken := by
  constructor
  · intro h
    unfold splitEnding at h
    split at h
    · rename_i hdrop
      cases h
      rw [Text.dropSuffix?_eq_some_iff.1 hdrop]
      exact .text _
    · split at h
      · rename_i hdrop
        cases h
        rw [Text.dropSuffix?_eq_some_iff.1 hdrop]
        exact .markup _
      · split at h
        · rename_i hsplit
          cases h
          rcases splitAttribute?_eq_some_iff.1 hsplit with ⟨name, rfl, hlast, hbare, rfl⟩
          exact .attr _ name hlast hbare
        · split at h
          · split at h <;> cases h
          · cases h
  · intro h
    cases h with
    | text =>
        rw [splitEnding, Text.dropSuffix?_eq_some_iff.2 rfl]
    | markup =>
        -- the endings differ in their last characters
        have hlast : (selector ++ "::html".toList).getLast? = some 'l' := by simp
        rw [splitEnding, Text.dropSuffix?_of_last_ne hlast (d := 't') rfl (by decide),
          Text.dropSuffix?_eq_some_iff.2 rfl]
    | attr _ name hmost hbare =>
        have hlast : (selector ++ "::attr(".toList ++ name ++ [')']).getLast? = some ')' :=
          List.getLast?_concat
        have hsplit := splitAttribute?_eq_some_iff.2 ⟨name, rfl, hmost, hbare, rfl⟩
        rw [splitEnding, Text.dropSuffix?_of_last_ne hlast (d := 't') rfl (by decide),
          Text.dropSuffix?_of_last_ne hlast (d := 'l') rfl (by decide), hsplit]

/-- Without an ending, what follows the last two colons decides. -/
theorem splitEnding_of_no_ending {cs : List Char} (h : ∀ selector taken, ¬Ends cs selector taken) :
    splitEnding cs =
      match Text.cutAtLast? [':', ':'] cs with
      | some (_, name) =>
        if name.any leadsOut then .ok (cs, none)
        else .error (.unknownExtraction (String.ofList (Text.trim name)))
      | none => .ok (cs, none) := by
  have htext : Text.dropSuffix? "::text".toList cs = none :=
    Option.eq_none_iff_forall_ne_some.2 fun selector hdrop =>
      h selector .text (Text.dropSuffix?_eq_some_iff.1 hdrop ▸ .text selector)
  have hmarkup : Text.dropSuffix? "::html".toList cs = none :=
    Option.eq_none_iff_forall_ne_some.2 fun selector hdrop =>
      h selector .markup (Text.dropSuffix?_eq_some_iff.1 hdrop ▸ .markup selector)
  have hattr : splitAttribute? cs = none := by
    refine Option.eq_none_iff_forall_ne_some.2 fun ⟨selector, taken⟩ hsplit => ?_
    rcases splitAttribute?_eq_some_iff.1 hsplit with ⟨name, rfl, hlast, hbare, rfl⟩
    exact h selector _ (.attr selector name hlast hbare)
  rw [splitEnding, htext, hmarkup, hattr]
  rfl

/-- What follows later colons also follows earlier ones. -/
theorem any_after_earlier {p : Char → Bool} {sep front back front' back' : List Char}
    (h : front ++ sep ++ back = front' ++ sep ++ back') (hle : front'.length ≤ front.length)
    (hback : back.any p = true) : back'.any p = true := by
  have hdrop : ∀ a b : List Char, (a ++ sep ++ b).drop (a.length + sep.length) = b := by
    intro a b
    rw [← List.length_append, List.drop_left]
  have hlater := hdrop front back
  rw [h] at hlater
  have hsubset := List.drop_subset_drop_left (front' ++ sep ++ back')
    (Nat.add_le_add_right hle sep.length)
  rw [hlater, hdrop front' back'] at hsubset
  rcases List.any_eq_true.1 hback with ⟨c, hc, hp⟩
  exact List.any_eq_true.2 ⟨c, hsubset hc, hp⟩

/-- A text is kept whole if it has no ending and a quote or bracket follows all of its colons. -/
theorem splitEnding_eq_none_iff {cs : List Char} :
    splitEnding cs = .ok (cs, none) ↔
      (∀ selector taken, ¬Ends cs selector taken) ∧
        ∀ front name, cs = front ++ [':', ':'] ++ name → name.any leadsOut = true := by
  constructor
  · intro h
    have hno : ∀ selector taken, ¬Ends cs selector taken := by
      intro selector taken hends
      rw [splitEnding_eq_some_iff.2 hends] at h
      cases h
    refine ⟨hno, fun front name hcs => ?_⟩
    rw [splitEnding_of_no_ending hno] at h
    cases hcut : Text.cutAtLast? [':', ':'] cs with
    | none => exact absurd hcs (Text.cutAtLast?_eq_none_iff.1 hcut front name)
    | some found =>
        -- what leads out after the last colons stands after all earlier ones, too
        rcases Text.cutAtLast?_eq_some_iff.1 hcut with ⟨hlast, hmost⟩
        rw [hcut] at h
        dsimp only at h
        split at h
        · rename_i hleads
          exact any_after_earlier (hlast.symm.trans hcs) (hmost front name hcs) hleads
        · cases h
  · rintro ⟨hno, hleads⟩
    rw [splitEnding_of_no_ending hno]
    cases hcut : Text.cutAtLast? [':', ':'] cs with
    | none => rfl
    | some found =>
        have hcs := (Text.cutAtLast?_eq_some_iff.1 hcut).1
        exact if_pos (hleads _ _ hcs)

/-! ## Colons inside of quotes and brackets -/

/-- Two colons stand inside of quotes or square brackets only. -/
def ColonsInside (cs : List Char) : Prop :=
  ∀ front more, cs = front ++ [':', ':'] ++ more → ¬Outside front

/-- It is enough to look at the places in the text, which are finitely many. -/
theorem colonsInside_iff {cs : List Char} :
    ColonsInside cs ↔
      ∀ n < cs.length, (cs.drop n).take 2 = [':', ':'] → ¬Outside (cs.take n) := by
  constructor
  · intro h n _ hcolons
    refine h (cs.take n) ((cs.drop n).drop 2) ?_
    rw [← hcolons, List.append_assoc, List.take_append_drop, List.take_append_drop]
  · rintro h front more rfl
    have hcolons := h front.length (by simp) (by simp)
    simpa using hcolons

instance (cs : List Char) : Decidable (ColonsInside cs) :=
  decidable_of_iff _ colonsInside_iff.symm

/--
An ending is cut off only outside of quotes and square brackets, and a text whose colons stand
inside of them is kept whole.
-/
structure Respects (cs : List Char) : Prop where
  outside : ∀ selector taken, splitEnding cs = .ok (selector, some taken) →
    Ends cs selector taken ∧ Outside selector
  whole : ColonsInside cs → splitEnding cs = .ok (cs, none)

/--
Something inside of quotes or square brackets is like an ending, or begins like one where they are
not closed.
-/
def Imitates (cs : List Char) : Prop :=
  (∃ selector taken, Ends cs selector taken ∧ ¬Outside selector) ∨
    ColonsInside cs ∧
      ∃ front name, cs = front ++ [':', ':'] ++ name ∧ name.any leadsOut = false

/-- Every ending begins with two colons. -/
theorem Ends.colons {cs selector : List Char} {taken : Extraction} (h : Ends cs selector taken) :
    ∃ more, cs = selector ++ [':', ':'] ++ more := by
  cases h with
  | text => exact ⟨"text".toList, by simp⟩
  | markup => exact ⟨"html".toList, by simp⟩
  | attr _ name => exact ⟨"attr(".toList ++ name ++ [')'], by simp⟩

/-- Brackets and quotes are respected unless something inside them imitates an ending. -/
theorem respects_iff {cs : List Char} : Respects cs ↔ ¬Imitates cs := by
  constructor
  · rintro h (⟨selector, taken, hends, hinside⟩ | ⟨hcolons, front, name, hcs, hname⟩)
    · exact hinside (h.outside selector taken (splitEnding_eq_some_iff.2 hends)).2
    · have hleads := (splitEnding_eq_none_iff.1 (h.whole hcolons)).2 front name hcs
      rw [hname] at hleads
      cases hleads
  · intro h
    have houtside : ∀ selector taken, Ends cs selector taken → Outside selector :=
      fun selector taken hends =>
        Decidable.byContradiction fun hinside => h (.inl ⟨selector, taken, hends, hinside⟩)
    constructor
    · intro selector taken hsplit
      have hends := splitEnding_eq_some_iff.1 hsplit
      exact ⟨hends, houtside selector taken hends⟩
    · intro hcolons
      refine splitEnding_eq_none_iff.2 ⟨fun selector taken hends => ?_, fun front name hcs => ?_⟩
      · rcases hends.colons with ⟨more, hcs⟩
        exact hcolons selector more hcs (houtside selector taken hends)
      · cases hname : name.any leadsOut with
        | true => rfl
        | false => exact absurd (.inr ⟨hcolons, front, name, hcs, hname⟩) h

/-- Where everything is closed, only the name of an attribute can hold what closes it. -/
theorem imitates_iff_of_outside {cs : List Char} (h : Outside cs) :
    Imitates cs ↔ ∃ selector name, Ends cs selector (.attr name) ∧ ¬Outside selector := by
  constructor
  · rintro (⟨selector, taken, hends, hinside⟩ | ⟨hcolons, front, name, rfl, hname⟩)
    · cases hends with
      | text => exact absurd h (Selector.not_outside_append hinside (by decide))
      | markup => exact absurd h (Selector.not_outside_append hinside (by decide))
      | attr _ name hmost hbare => exact ⟨selector, _, .attr selector name hmost hbare, hinside⟩
    · have hcolon : ([':', ':'] ++ name).any leadsOut = false := by
        rw [List.any_append, hname]
        rfl
      rw [List.append_assoc] at h
      exact absurd h (Selector.not_outside_append (hcolons front name rfl) hcolon)
  · rintro ⟨selector, name, hends, hinside⟩
    exact .inl ⟨selector, _, hends, hinside⟩

/-- A character behind a front part lies in the other part. -/
theorem mem_of_append_eq {front back before after : List Char} {c : Char}
    (h : front ++ back = before ++ c :: after) (hle : front.length ≤ before.length) :
    c ∈ back := by
  have hdrop := congrArg (List.drop front.length) h
  rw [List.drop_left, List.drop_append_of_le_length hle] at hdrop
  rw [hdrop]
  exact List.mem_append_right _ List.mem_cons_self

/-- No ending begins inside of a name without an opening parenthesis. -/
theorem ends_attr {selector name : List Char} (hname : name ≠ []) (htrim : Text.trim name = name)
    (hparen : '(' ∉ name) :
    Ends (selector ++ "::attr(".toList ++ name ++ [')']) selector (.attr (String.ofList name)) := by
  have hmost : ∀ b a, selector ++ "::attr(".toList ++ name = b ++ "::attr(".toList ++ a →
      b.length ≤ selector.length := by
    intro b a heq
    refine Nat.le_of_not_lt fun hlonger => hparen ?_
    have hsplit : b ++ "::attr(".toList ++ a = (b ++ "::attr".toList) ++ '(' :: a := by simp
    refine mem_of_append_eq (heq.trans hsplit) ?_
    simp only [List.length_append]
    exact Nat.add_le_add_right (k := 6) hlonger
  have h := Ends.attr selector name hmost (by rwa [htrim])
  rwa [htrim] at h

/--
Endings are cut off outside of quotes and square brackets only, and colons inside of them left
alone, in exactly the texts in which nothing inside imitates an ending. Where everything is closed
this takes the name of an attribute. An ending that is put after a selector is cut off again.
-/
theorem splitEnding_respects_iff (cs name : List Char) :
    (Respects cs ↔ ¬Imitates cs) ∧
      (Outside cs →
        (Imitates cs ↔ ∃ selector name, Ends cs selector (.attr name) ∧ ¬Outside selector)) ∧
      splitEnding (cs ++ "::text".toList) = .ok (cs, some .text) ∧
      splitEnding (cs ++ "::html".toList) = .ok (cs, some .markup) ∧
      (name ≠ [] → Text.trim name = name → '(' ∉ name →
        splitEnding (cs ++ "::attr(".toList ++ name ++ [')']) =
          .ok (cs, some (.attr (String.ofList name)))) :=
  ⟨respects_iff, imitates_iff_of_outside, splitEnding_eq_some_iff.2 (.text cs),
    splitEnding_eq_some_iff.2 (.markup cs), fun hname htrim hparen =>
      splitEnding_eq_some_iff.2 (ends_attr hname htrim hparen)⟩

/-- A selector of links whose target holds two colons, with an ending. -/
def linkTarget : List Char :=
  "a[href*=\"::\"]::attr(href)".toList

/--
A quoted `::` in an attribute test is left to the selector, and the ending behind it is found.
-/
theorem splitEnding_respects_iff_of_linkTarget :
    Respects linkTarget ∧
      splitEnding ("a[href*=\"::\"]".toList ++ "::attr(".toList ++ "href".toList ++ [')']) =
        .ok ("a[href*=\"::\"]".toList, some (.attr "href")) := by
  rcases splitEnding_respects_iff "a[href*=\"::\"]".toList "href".toList with
    ⟨_, _, _, _, hattr⟩
  have hsplit := hattr (by decide) (by decide) (by decide)
  refine ⟨?_, hsplit⟩
  rcases splitEnding_respects_iff linkTarget [] with ⟨hrespects, himitates, _⟩
  refine hrespects.2 fun h => ?_
  rcases (himitates (by decide)).1 h with ⟨selector, name, hends, hinside⟩
  -- the ending is the one that was put there, and what precedes it is closed
  have hfound := splitEnding_eq_some_iff.2 hends
  have hsame : linkTarget =
      "a[href*=\"::\"]".toList ++ "::attr(".toList ++ "href".toList ++ [')'] := by decide
  rw [hsame, hsplit] at hfound
  cases hfound
  exact hinside (by decide)

/-- A selector with the beginning of an ending in quotes, and a parenthesis at its end. -/
def quotedEnding : List Char :=
  "[data-x=\"::attr(\"]:not(.y)".toList

/-- The quoted text is taken for an ending, although all that is open is closed again. -/
theorem not_respects_quotedEnding :
    Outside quotedEnding ∧ ColonsInside quotedEnding ∧ ¬Respects quotedEnding ∧
      splitEnding quotedEnding =
        .ok ("[data-x=\"".toList, some (.attr "\"]:not(.y")) := by
  have hcolons : ColonsInside quotedEnding := by decide
  have hsplit : splitEnding quotedEnding =
      .ok ("[data-x=\"".toList, some (.attr "\"]:not(.y")) := by cbv
  refine ⟨by decide, hcolons, fun h => ?_, hsplit⟩
  have hwhole := h.whole hcolons
  rw [hsplit] at hwhole
  cases hwhole

end Extraction
end Gleaner
