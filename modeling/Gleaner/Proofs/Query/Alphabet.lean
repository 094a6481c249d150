import Gleaner.Proofs.Json.Alphabet
import Gleaner.Proofs.Query.Parts
import Gleaner.Proofs.Query.Results
import Gleaner.Proofs.Query.Streams
import Gleaner.Proofs.Text.Pieces
/-!
# The characters of results

A query makes new strings of the characters that it is given: of its input and of its literals. All
else that it writes by itself is printable.

* `Kept.over`: what is selected from a value over an alphabet is over that alphabet;
* each operation has one lemma `..._over`;
* `eval_over`: the results of a query are over every alphabet that has the printable characters, its
  input and its literals, by induction on the query.
-/

namespace Gleaner
namespace Query

variable {P : Char → Prop}

/-! ## Properties of results -/

def StreamOver (P : Char → Prop) (s : Stream) : Prop :=
  Gives (fun vs => ∀ v ∈ vs, v.IsOver P) s

theorem firstResult_over {s : Stream} (h : StreamOver P s) :
    Gives (Json.IsOver P) (firstResult s) := by
  refine h.map fun vs hvs => ?_
  cases vs with
  | nil => exact trivial
  | cons v vs => exact hvs v List.mem_cons_self

/-! ## Selection -/

/-- The values inside a value have no other characters than the value. -/
theorem over_of_mem_everyValue {v : Json} (h : v.IsOver P) : ∀ w ∈ v.everyValue, w.IsOver P := by
  induction v using Json.parts_induction with
  | step v ih =>
      have hparts : ∀ u ∈ v.parts, u.IsOver P := by
        cases v with
        | array items => exact Json.isOver_array.1 h
        | object members =>
            intro u hu
            rcases List.mem_map.1 hu with ⟨m, hm, rfl⟩
            exact (Json.isOver_object.1 h m hm).2
        | _ => exact nofun
      intro w hw
      rw [Json.everyValue_eq] at hw
      rcases List.mem_cons.1 hw with rfl | hw
      · exact h
      · rcases List.mem_flatMap.1 hw with ⟨u, hu, hw⟩
        exact ih u hu (hparts u hu) w hw

/-- What is selected from a value over an alphabet is over that alphabet. -/
theorem Kept.over {v r : Json} (hr : Kept v r) (h : v.IsOver P) : r.IsOver P := by
  rcases hr with rfl | hr
  · trivial
  · exact over_of_mem_everyValue h r hr

theorem member_over {v : Json} (h : v.IsOver P) (key : String) :
    Gives (Json.IsOver P) (member v key) :=
  (member_kept v key).mono fun _ hr => hr.over h

theorem item_over {v : Json} (h : v.IsOver P) (position : Json) :
    Gives (Json.IsOver P) (item v position) :=
  (item_kept v position).mono fun _ hr => hr.over h

theorem mem_of_mem_between {α : Type} {range : Nat × Nat} {xs : List α} {x : α}
    (h : x ∈ between range xs) : x ∈ xs :=
  List.mem_of_mem_take (List.mem_of_mem_drop h)

/-- A slice has no other characters than what it is cut from. -/
theorem part_over {v : Json} (h : v.IsOver P) (low high : Json) :
    Gives (Json.IsOver P) (part v low high) := by
  cases v with
  | array items =>
      refine .ok (Json.isOver_array.2 fun w hw => ?_)
      exact Json.isOver_array.1 h w (mem_of_mem_between hw)
  | string s =>
      refine .ok (Json.isOver_string.2 fun c hc => ?_)
      rw [String.toList_ofList] at hc
      exact Json.isOver_string.1 h c (mem_of_mem_between hc)
  | null => exact .ok trivial
  | _ => exact .error _

theorem children_over {v : Json} (h : v.IsOver P) : StreamOver P (children v) :=
  (children_kept v).mono fun _ hws w hw => (hws w hw).over h

theorem itemsOf_over {v : Json} (h : v.IsOver P) : StreamOver P (itemsOf v) := by
  cases v with
  | array items => exact .ok (Json.isOver_array.1 h)
  | _ => exact .error _

/-! ## Arithmetic -/

theorem numeric_over (x : Binary64) : Gives (Json.IsOver P) (numeric x) := by
  unfold numeric
  split
  · exact .ok trivial
  · exact .error _

theorem remainder_over (l r : Binary64.Finite) : Gives (Json.IsOver P) (remainder l r) := by
  unfold remainder
  dsimp only
  split
  · exact .error (.mismatch .divisionByZero)
  · split
    · exact .error .remainderOverflow
    · exact numeric_over _

theorem combineNumbers_over (op : Operator) (l r : Binary64.Finite) :
    Gives (Json.IsOver P) (combineNumbers op l r) := by
  cases op <;> rw [combineNumbers]
  case div =>
    split
    · exact .error (.mismatch .divisionByZero)
    · exact numeric_over _
  case mod =>
    split
    · exact .error (.mismatch .divisionByZero)
    · exact remainder_over l r
  all_goals exact numeric_over _

/-- Parts of a text have no other characters than the text. -/
theorem splitText_over {s : String} (h : (Json.string s).IsOver P) (separator : String) :
    (splitText s separator).IsOver P := by
  unfold splitText
  split
  · exact Json.isOver_array.2 nofun
  · refine Json.isOver_array.2 fun w hw => ?_
    rcases List.mem_map.1 hw with ⟨part, hpart, rfl⟩
    refine Json.isOver_string.2 fun c hc => ?_
    rw [String.toList_ofList] at hc
    exact Json.isOver_string.1 h c ((Text.infix_of_mem_pieces hpart).subset hc)

/-- Setting a member brings in the characters of its key and its value. -/
theorem insert_over {key : String} {v : Json} {members : Members}
    (hkey : ∀ c ∈ key.toList, P c) (hv : v.IsOver P) (h : (Json.object members).IsOver P) :
    (Json.object (Members.insert key v members)).IsOver P := by
  rw [Json.isOver_object] at h ⊢
  induction members with
  | nil => exact List.forall_mem_singleton.2 ⟨hkey, hv⟩
  | cons m members ih =>
      rw [List.forall_mem_cons] at h
      rw [Members.insert]
      split
      · exact List.forall_mem_cons.2 ⟨⟨h.1.1, hv⟩, h.2⟩
      · exact List.forall_mem_cons.2 ⟨h.1, ih h.2⟩

theorem insertAll_over {members more : Members} (h : (Json.object members).IsOver P)
    (hmore : (Json.object more).IsOver P) :
    (Json.object (Members.insertAll members more)).IsOver P := by
  induction more generalizing members with
  | nil => exact h
  | cons m more ih =>
      rw [Json.isOver_object, List.forall_mem_cons] at hmore
      exact ih (insert_over hmore.1.1 hmore.1.2 h) (Json.isOver_object.2 hmore.2)

/-- Operators bring in no characters beyond the printable ones and those of the operands. -/
theorem combine_over (op : Operator) {l r : Json} (hl : l.IsOver P) (hr : r.IsOver P) :
    Gives (Json.IsOver P) (combine op l r) := by
  unfold combine
  split
  · exact .ok hr
  · exact .ok hl
  · exact combineNumbers_over _ _ _
  · refine .ok (Json.isOver_string.2 ?_)
    rw [String.toList_append]
    exact List.forall_mem_append.2 ⟨Json.isOver_string.1 hl, Json.isOver_string.1 hr⟩
  · refine .ok (Json.isOver_array.2 ?_)
    exact List.forall_mem_append.2 ⟨Json.isOver_array.1 hl, Json.isOver_array.1 hr⟩
  · exact .ok (insertAll_over hl hr)
  · refine .ok (Json.isOver_array.2 fun w hw => ?_)
    exact Json.isOver_array.1 hl w (List.mem_of_mem_filter hw)
  · exact .ok (splitText_over hl _)
  · exact .error _

theorem negate_over (v : Json) : Gives (Json.IsOver P) (negate v) := by
  cases v with
  | number n => exact .ok trivial
  | _ => exact .error _

theorem sum_over {items : List Json} (h : ∀ v ∈ items, v.IsOver P) :
    Gives (Json.IsOver P) (sum items) := by
  refine .foldlM (fun total htotal v hv => ?_) (show Json.null.IsOver P from trivial)
  exact combine_over .add htotal (h v hv)

/-! ## Functions -/

theorem lengthOf_over (v : Json) : Gives (Json.IsOver P) (lengthOf v) := by
  cases v with
  | bool b => exact .error _
  | _ => exact .ok trivial

/-- The keys of an object are over its characters, and those of an array are numbers. -/
theorem keysOf_over {v : Json} (h : v.IsOver P) : Gives (Json.IsOver P) (keysOf v) := by
  cases v with
  | object members =>
      refine .ok (Json.isOver_array.2 fun w hw => ?_)
      rcases List.mem_map.1 hw with ⟨key, hkey, rfl⟩
      rcases List.mem_map.1 (List.mem_mergeSort.1 hkey) with ⟨m, hm, rfl⟩
      exact Json.isOver_string.2 (Json.isOver_object.1 h m hm).1
  | array items =>
      refine .ok (Json.isOver_array.2 fun w hw => ?_)
      rcases List.mem_map.1 hw with ⟨i, _, rfl⟩
      trivial
  | _ => exact .error _

/-- Reversing keeps the characters. -/
theorem reversed_over {v : Json} (h : v.IsOver P) : Gives (Json.IsOver P) (reversed v) := by
  cases v with
  | array items =>
      refine .ok (Json.isOver_array.2 fun w hw => ?_)
      exact Json.isOver_array.1 h w (List.mem_reverse.1 hw)
  | string s =>
      refine .ok (Json.isOver_string.2 fun c hc => ?_)
      rw [String.toList_ofList] at hc
      exact Json.isOver_string.1 h c (List.mem_reverse.1 hc)
  | null => exact .ok (Json.isOver_array.2 nofun)
  | _ => exact .error _

theorem toNumber_over (v : Json) : Gives (Json.IsOver P) (toNumber v) := by
  cases v with
  | number n => exact .ok trivial
  | string s =>
      unfold toNumber
      dsimp only
      split
      · exact .ok trivial
      · exact .error _
  | _ => exact .error _

theorem extremum_over (wanted : Ordering) {v : Json} (h : v.IsOver P) :
    Gives (Json.IsOver P) (extremum wanted v) :=
  (extremum_kept wanted v).mono fun _ hr => hr.over h

/-- The strings that a function on strings is called on. -/
theorem textInput_over {v : Json} (h : v.IsOver P) (f : Builtin) :
    Gives (fun s => ∀ c ∈ s.toList, P c) (textInput f v) := by
  cases v with
  | string s => exact .ok (Json.isOver_string.1 h)
  | _ => exact .error _

/-- The text of an argument is over the characters of its results. -/
theorem textArgument_over {argument : Json → Stream} {v : Json}
    (h : StreamOver P (argument v)) (f : Builtin) :
    Gives (fun s => ∀ c ∈ s.toList, P c) (textArgument f argument v) := by
  refine (firstResult_over h).bind fun w hw => ?_
  cases w with
  | string s => exact .ok (Json.isOver_string.1 hw)
  | _ => exact .error _

/-- A test for a pattern gives a boolean. -/
theorem testPattern_over (pattern : String) (text : Except Error String) :
    Gives (Json.IsOver P) (testPattern pattern text) := by
  unfold testPattern
  split
  · exact (Gives.any text).map fun _ _ => trivial
  · exact .error _

/-- Lower casing leaves a character as it is or makes it an ASCII letter. -/
theorem asciiLowerChar_cases (c : Char) :
    Text.asciiLowerChar c = c ∨ Json.IsPrintable (Text.asciiLowerChar c) := by
  have hall : ∀ n < 91, 65 ≤ n → Json.IsPrintable (Char.ofNat (n + 32)) := by decide
  unfold Text.asciiLowerChar
  split
  · rename_i hletter
    exact .inr (hall c.toNat (Nat.lt_succ_of_le hletter.2) hletter.1)
  · exact .inl rfl

/-- Upper casing leaves a character as it is or makes it an ASCII letter. -/
theorem asciiUpperChar_cases (c : Char) :
    Text.asciiUpperChar c = c ∨ Json.IsPrintable (Text.asciiUpperChar c) := by
  have hall : ∀ n < 123, 97 ≤ n → Json.IsPrintable (Char.ofNat (n - 32)) := by decide
  unfold Text.asciiUpperChar
  split
  · rename_i hletter
    exact .inr (hall c.toNat (Nat.lt_succ_of_le hletter.2) hletter.1)
  · exact .inl rfl

section Printable

variable (hP : ∀ c, Json.IsPrintable c → P c)

include hP

/-- The text of a value is over its characters and the printable ones. -/
theorem toText_over {v : Json} (h : v.IsOver P) : ∀ c ∈ (toText v).toList, P c := by
  have hkept : v.TextOver P := h.textOver
  cases v with
  | string s => exact h
  | _ => exact (Json.forall_mem_compact hP _).2 hkept

/-- A joined text is over the characters of its parts and of the separator. -/
theorem joinTexts_over {separator : String} (hseparator : ∀ c ∈ separator.toList, P c)
    {items : List Json} (h : ∀ v ∈ items, v.IsOver P) :
    Gives (Json.IsOver P) (joinTexts separator items) := by
  -- arrays and objects are not joined, so no control character is escaped here
  have hscalar : ∀ v ∈ items, Gives (fun s => ∀ c ∈ s.toList, P c) (scalarText v) := by
    intro v hv
    have htext := (Json.forall_mem_text hP v).2 (h v hv).textOver
    cases v with
    | array items => exact .error _
    | object members => exact .error _
    | _ => exact .ok htext
  refine (Gives.mapM hscalar).bind fun parts hparts => .ok (Json.isOver_string.2 ?_)
  exact (Text.forall_mem_joinWith hseparator parts).2 hparts

/-- A text each of whose characters is kept or made a printable one. -/
theorem changed_over {f : Char → Char} (hf : ∀ c, f c = c ∨ Json.IsPrintable (f c)) {s : String}
    (h : ∀ c ∈ s.toList, P c) : ∀ c ∈ (String.ofList (s.toList.map f)).toList, P c := by
  intro c hc
  rw [String.toList_ofList] at hc
  rcases List.mem_map.1 hc with ⟨d, hd, rfl⟩
  rcases hf d with hsame | hprintable
  · exact hsame.symm ▸ h d hd
  · exact hP _ hprintable

theorem kindName_over (k : Json.Kind) : ∀ c ∈ k.name.toList, P c := by
  cases k <;> exact Json.forall_mem_of_printable hP (by simp [Json.Kind.name, Json.IsPrintable])

/-- Functions without argument bring in no characters beyond the printable ones. -/
theorem applyNullary_over {v : Json} (h : v.IsOver P) (f : Builtin) :
    StreamOver P (applyNullary f v) := by
  cases f with
  | length => exact (lengthOf_over v).single
  | keys => exact (keysOf_over h).single
  | first => exact (first_kept v).mono fun _ hws w hw => (hws w hw).over h
  | last => exact (last_kept v).mono fun _ hws w hw => (hws w hw).over h
  | tostring => exact .one (Json.isOver_string.2 (toText_over hP h))
  | tonumber => exact (toNumber_over v).single
  | asciiDowncase =>
      refine (textInput_over h _).map fun s hs => List.forall_mem_singleton.2 ?_
      exact Json.isOver_string.2 (changed_over hP asciiLowerChar_cases hs)
  | asciiUpcase =>
      refine (textInput_over h _).map fun s hs => List.forall_mem_singleton.2 ?_
      exact Json.isOver_string.2 (changed_over hP asciiUpperChar_cases hs)
  | type => exact .one (Json.isOver_string.2 (kindName_over hP _))
  | empty => exact .ok nofun
  | add =>
      refine (itemsOf_over h).bind fun items hitems => ?_
      exact (sum_over hitems).bind fun total htotal => .one htotal
  | min => exact (extremum_over _ h).single
  | max => exact (extremum_over _ h).single
  | reverse => exact (reversed_over h).single
  | _ => exact .error _

/--
Functions with an argument bring in no characters beyond the argument's and the printable ones.
-/
theorem applyUnary_over {argument : Json → Stream}
    (hargument : ∀ w, w.IsOver P → StreamOver P (argument w)) {v : Json} (h : v.IsOver P)
    (f : Builtin) : StreamOver P (applyUnary f argument v) := by
  have htruth : ∀ x : Except Error Bool, StreamOver P (x >>= fun b => .ok [.bool b]) :=
    fun x => (Gives.any x).bind fun _ _ => .one trivial
  cases f with
  | select =>
      refine (hargument v h).map fun conditions _ w hw => ?_
      rcases List.mem_map.1 hw with ⟨_, _, rfl⟩
      exact h
  | map =>
      refine (children_over h).bind fun vs hvs => ?_
      refine (Gives.forEach fun w hw => hargument w (hvs w hw)).bind fun ws hws => ?_
      exact .one (Json.isOver_array.2 hws)
  | has => exact (firstResult_over (hargument v h)).bind fun key _ => htruth _
  | contains =>
      refine (hargument v h).bind fun wanted _ => .mapM fun w _ => ?_
      exact (Gives.any (isContained v w)).map fun _ _ => trivial
  | startswith =>
      refine (textArgument_over (hargument v h) _).bind fun front _ => ?_
      exact (textInput_over h _).bind fun s _ => .one trivial
  | endswith =>
      refine (textArgument_over (hargument v h) _).bind fun back _ => ?_
      exact (textInput_over h _).bind fun s _ => .one trivial
  | test =>
      refine (textArgument_over (hargument v h) _).bind fun pattern _ => ?_
      exact (testPattern_over _ _).bind fun result hresult =>
        .one hresult
  | split =>
      refine (textArgument_over (hargument v h) _).bind fun separator _ => ?_
      refine (textInput_over h _).bind fun s hs => .one ?_
      exact splitText_over (Json.isOver_string.2 hs) separator
  | join =>
      refine (textArgument_over (hargument v h) _).bind fun separator hseparator => ?_
      refine (itemsOf_over h).bind fun items hitems => ?_
      refine (joinTexts_over hP hseparator hitems).bind fun joined hjoined => ?_
      exact .one hjoined
  | _ => exact .error _

/-! ## Queries -/

/-- Functions bring in no characters beyond those of the arguments and the printable ones. -/
theorem applyBuiltin_over {arguments : List (Json → Stream)}
    (harguments : ∀ argument ∈ arguments, ∀ w, w.IsOver P → StreamOver P (argument w)) {v : Json}
    (h : v.IsOver P) (f : Builtin) : StreamOver P (applyBuiltin f arguments v) := by
  unfold applyBuiltin
  split
  · exact applyNullary_over hP h f
  · exact applyUnary_over hP (harguments _ List.mem_cons_self) h f
  · exact .error _

end Printable

theorem bools_over {s : Stream} (f : Json → Bool) :
    StreamOver P (s.map fun vs => vs.map fun v => .bool (f v)) := by
  intro bs hbs b hb
  rcases Except.map_eq_ok_iff.1 hbs with ⟨vs, _, rfl⟩
  rcases List.mem_map.1 hb with ⟨v, _, rfl⟩
  trivial

theorem conjunction_over (lefts : List Json) (right : Stream) :
    StreamOver P (conjunction lefts right) := by
  refine Gives.forEach fun l _ => ?_
  split
  · exact bools_over _
  · exact .one trivial

theorem disjunction_over (lefts : List Json) (right : Stream) :
    StreamOver P (disjunction lefts right) := by
  refine Gives.forEach fun l _ => ?_
  split
  · exact .one trivial
  · exact bools_over _

def LiteralsOver (P : Char → Prop) (q : Query) : Prop :=
  ∀ value, Within (.literal value) q → value.IsOver P

theorem LiteralsOver.part {p q : Query} (h : q.LiteralsOver P) (hp : p ∈ q.parts) :
    p.LiteralsOver P :=
  fun value hvalue => h value (.part hp hvalue)

/--
The results of a query are over every alphabet that has the printable characters, those of its input
and those of its literals.
-/
theorem eval_over (hP : ∀ c, Json.IsPrintable c → P c) {q : Query} (hq : q.LiteralsOver P)
    {v : Json} (h : v.IsOver P) : StreamOver P (q.eval v) := by
  -- on the parts of the query, for every input: a pipe runs its right part on results of its left
  induction q using parts_induction generalizing v with
  | step q ih =>
      have hpart : ∀ p ∈ q.parts, ∀ {w : Json}, w.IsOver P → StreamOver P (p.eval w) :=
        fun p hp w hw => ih p hp (hq.part hp) hw
      cases q with
      | identity => exact .one h
      | recurse => exact .ok (over_of_mem_everyValue h)
      | literal value => exact .one (hq value .self)
      | field target name =>
          refine (hpart target (by simp [parts]) h).bind fun ws hws => ?_
          exact .mapM fun w hw => member_over (hws w hw) name
      -- positions and bounds only choose among what the target has, so anything may be in them
      | index target position =>
          refine (hpart target (by simp [parts]) h).bind fun ws hws => ?_
          refine (Gives.any (position.eval v)).bind fun ps _ => ?_
          exact Gives.forPairs fun w hw p _ => item_over (hws w hw) p
      | slice target low high =>
          refine (Gives.any (evalBound low v)).bind fun l _ => ?_
          refine (Gives.any (evalBound high v)).bind fun r _ => ?_
          refine (hpart target (by simp [parts]) h).bind fun ws hws => ?_
          exact .mapM fun w hw => part_over (hws w hw) l r
      | iterate target =>
          refine (hpart target (by simp [parts]) h).bind fun ws hws => ?_
          exact Gives.forEach fun w hw => children_over (hws w hw)
      | optional inner => exact Gives.contained (hpart inner (by simp [parts]) h)
      | array inner =>
          have hitems : StreamOver P (evalItems inner v) := by
            cases inner with
            | none => exact .ok (List.forall_mem_nil _)
            | some inner => exact hpart inner (by simp [parts]) h
          refine Gives.map hitems fun items hitems => ?_
          exact List.forall_mem_singleton.2 (Json.isOver_array.2 hitems)
      | pipe left right =>
          refine (hpart left (by simp [parts]) h).bind fun ws hws => ?_
          exact Gives.forEach fun w hw => hpart right (by simp [parts]) (hws w hw)
      | comma left right =>
          refine (hpart left (by simp [parts]) h).bind fun first hfirst => ?_
          refine (hpart right (by simp [parts]) h).map fun second hsecond => ?_
          exact List.forall_mem_append.2 ⟨hfirst, hsecond⟩
      | alternative left right =>
          refine (Gives.contained (hpart left (by simp [parts]) h)).bind fun ws hws => ?_
          dsimp only
          -- either the results of the right part, or those of the left one that are true
          split
          · exact hpart right (by simp [parts]) h
          · exact .ok fun w hw => hws w (List.mem_of_mem_filter hw)
      -- from here on the results are truth values or numbers, except for operators and calls
      | and left right => exact (Gives.any (left.eval v)).bind fun ls _ => conjunction_over ls _
      | or left right => exact (Gives.any (left.eval v)).bind fun ls _ => disjunction_over ls _
      | not inner => exact bools_over _
      | neg inner =>
          exact (Gives.any (inner.eval v)).bind fun ws _ => .mapM fun w _ => negate_over w
      | compare op left right =>
          refine (Gives.any (left.eval v)).bind fun ls _ => ?_
          refine (Gives.any (right.eval v)).bind fun rs _ => ?_
          exact Gives.forPairs fun l _ r _ => .ok trivial
      | arith op left right =>
          refine (hpart left (by simp [parts]) h).bind fun ls hls => ?_
          refine (hpart right (by simp [parts]) h).bind fun rs hrs => ?_
          exact Gives.forPairs fun l hl r hr => combine_over op (hls l hl) (hrs r hr)
      | call f arguments =>
          refine applyBuiltin_over hP (fun argument hargument w hw => ?_) h f
          rw [meanings_eq_map] at hargument
          rcases List.mem_map.1 hargument with ⟨p, hp, rfl⟩
          exact hpart p hp hw

end Query
end Gleaner
