import Gleaner.Proofs.Spec.LayoutParts
import Gleaner.Proofs.Spec.LayoutScan
import Gleaner.Proofs.Text.Pieces
/-!
# Locations in documents in block style

A path is looked up in what the scan has entered, and a path that is not there by its beginnings,
which end before a mark.

* `Encloses` says which beginnings of a path are looked up, and `locate?_eq_some_iff` that the
  longest one that is located counts;
* `Document.Nearest` is the location that a path should have in a document;
* `locate?_nearest_iff`: in a document in block style all keys and items are located where they
  stand, and everything else by what is around it, exactly if no text on its own seems to hold a
  key;
* `not_locate?_nearest`: a text with an escaped quote before a colon is taken for a key.
-/

namespace Gleaner
namespace Layout

open Locator (keyPath enclosing locateReversed?)

/-! ## Looking up -/

/-- The path itself, or a beginning of it that ends before a mark. -/
def Encloses (front path : List Char) : Prop :=
  front = path ∨ ∃ c rest, path = front ++ c :: rest ∧ isMark c = true

theorem Encloses.length_le {front path : List Char} (h : Encloses front path) :
    front.length ≤ path.length := by
  rcases h with rfl | ⟨c, rest, rfl, -⟩
  · exact Nat.le_refl _
  · simp

/-- A beginning before a mark ends before the last character, or before a mark further left. -/
theorem concat_eq_append_mark_iff {cs front : List Char} {d : Char} :
    (∃ c rest, cs ++ [d] = front ++ c :: rest ∧ isMark c = true) ↔
      front = cs ∧ isMark d = true ∨ ∃ c rest, cs = front ++ c :: rest ∧ isMark c = true := by
  constructor
  · rintro ⟨c, rest, heq, hc⟩
    rcases List.eq_nil_or_concat rest with rfl | ⟨rest, e, rfl⟩
    · rcases List.append_inj' heq rfl with ⟨rfl, hd⟩
      cases hd
      exact .inl ⟨rfl, hc⟩
    · rw [List.concat_eq_append, ← List.cons_append, ← List.append_assoc] at heq
      exact .inr ⟨c, rest, (List.append_inj' heq rfl).1, hc⟩
  · rintro (⟨rfl, hd⟩ | ⟨c, rest, rfl, hc⟩)
    · exact ⟨d, [], rfl, hd⟩
    · exact ⟨c, rest ++ [d], by simp, hc⟩

/-- A beginning that is not the whole path is one of the path without its last step. -/
theorem encloses_enclosing_iff {front : List Char} (hfront : front ≠ []) (reversed : List Char) :
    Encloses front (enclosing reversed).reverse ↔
      ∃ c rest, reversed.reverse = front ++ c :: rest ∧ isMark c = true := by
  induction reversed with
  | nil => simp [Encloses, enclosing, hfront]
  | cons d reversed ih =>
      rw [List.reverse_cons, concat_eq_append_mark_iff, enclosing]
      by_cases hd : d = '.' ∨ d = '['
      · have hmark : isMark d = true := by simpa [isMark] using hd
        rw [if_pos hd, Encloses]
        exact or_congr_left ⟨fun h => ⟨h, hmark⟩, fun h => h.1⟩
      · have hmark : ¬ isMark d = true := by simpa [isMark] using hd
        rw [if_neg hd, ih]
        exact ⟨Or.inr, fun h => h.resolve_left fun h => hmark h.2⟩

variable {l : Locator} {location : Location}

/-- The longest beginning of a path that was found gives its location. -/
theorem locateReversed?_eq_some_iff (reversed : List Char) :
    locateReversed? l reversed = some location ↔
      ∃ front, front ≠ [] ∧ Encloses front reversed.reverse ∧
        l.find? (String.ofList front) = some location ∧
          ∀ other, other ≠ [] → Encloses other reversed.reverse → front.length < other.length →
            l.find? (String.ofList other) = none := by
  fun_induction locateReversed? l reversed with
  | case1 =>
      simp only [List.reverse_nil, Encloses]
      constructor
      · nofun
      · rintro ⟨front, hne, heq | ⟨c, rest, heq, -⟩, -⟩
        · exact absurd heq hne
        · cases front <;> cases heq
  | case2 c rest found hfound =>
      -- the whole path is located, and no other one that is looked up is as long
      constructor
      · rintro ⟨⟩
        refine ⟨_, by simp, .inl rfl, hfound, fun other _ hother hlonger => ?_⟩
        exact absurd hother.length_le (Nat.not_le.2 hlonger)
      · rintro ⟨front, hne, hfront, hfind, hlongest⟩
        rcases hfront with rfl | ⟨d, more, heq, -⟩
        · exact hfound.symm.trans hfind
        · have hlonger : front.length < (c :: rest).reverse.length := by
            rw [heq]
            simp
          rw [hlongest _ (by simp) (.inl rfl) hlonger] at hfound
          cases hfound
  | case3 c rest hnone ih =>
      rw [ih]
      constructor
      · rintro ⟨front, hne, hfront, hfind, hlongest⟩
        refine ⟨front, hne, .inr ((encloses_enclosing_iff hne _).1 hfront), hfind, ?_⟩
        rintro other hother (rfl | hbefore) hlonger
        · exact hnone
        · exact hlongest other hother ((encloses_enclosing_iff hother _).2 hbefore) hlonger
      · rintro ⟨front, hne, hfront, hfind, hlongest⟩
        rcases hfront with rfl | hbefore
        · rw [hnone] at hfind
          cases hfind
        · refine ⟨front, hne, (encloses_enclosing_iff hne _).2 hbefore, hfind, ?_⟩
          intro other hother hencloses hlonger
          exact hlongest other hother (.inr ((encloses_enclosing_iff hother _).1 hencloses)) hlonger

/-- The longest enclosing path that is located counts. -/
theorem locate?_eq_some_iff (hempty : l.find? "" = none) (path : String) :
    l.locate? path = some location ↔
      ∃ front, Encloses front path.toList ∧ l.find? (String.ofList front) = some location ∧
        ∀ other, Encloses other path.toList → front.length < other.length →
          l.find? (String.ofList other) = none := by
  have hnil : ∀ front, l.find? (String.ofList front) = some location → front ≠ [] := by
    rintro front hfind rfl
    exact absurd (hempty.symm.trans hfind) nofun
  have hreversed : l.locate? path = locateReversed? l path.toList.reverse := by
    unfold Locator.locate?
    split
    · rename_i hpath
      rw [String.isEmpty_iff.1 hpath, hempty]
      simp [locateReversed?]
    · rfl
  rw [hreversed, locateReversed?_eq_some_iff, List.reverse_reverse]
  constructor
  · rintro ⟨front, -, hfront, hfind, hlongest⟩
    refine ⟨front, hfront, hfind, fun other hother hlonger => ?_⟩
    exact hlongest other (fun h => by rw [h] at hlonger; cases hlonger) hother hlonger
  · rintro ⟨front, hfront, hfind, hlongest⟩
    exact ⟨front, hnil front hfind, hfront, hfind, fun other _ => hlongest other⟩

/-- A path that is located itself needs no other one. -/
theorem locate?_of_find? (hempty : l.find? "" = none) {cs : List Char}
    (h : l.find? (String.ofList cs) = some location) :
    l.locate? (String.ofList cs) = some location := by
  rw [locate?_eq_some_iff hempty, String.toList_ofList]
  refine ⟨cs, .inl rfl, h, fun other hother hlonger => ?_⟩
  exact absurd hother.length_le (Nat.not_le.2 hlonger)

/-! ## What is found -/

def entryOf (name : String) (es : List (String × Location)) : Option (String × Location) :=
  es.find? fun (p, _) => p == name

/-- An entry counts only if its name has not been entered before. -/
theorem entryOf_enter (found : List (String × Location)) (e : String × Location) (name : String) :
    entryOf name (enter found e) = (entryOf name found).or (entryOf name [e]) := by
  unfold enter
  split
  · rename_i hknown
    by_cases hname : e.1 = name
    · -- a path that is known keeps its entry
      have hsome : (entryOf name found).isSome = true := by
        rw [entryOf, List.find?_isSome]
        simpa [hname] using hknown
      rw [Option.or_of_isSome hsome]
    · simp [entryOf, hname]
  · rename_i hnew
    by_cases hname : e.1 = name
    · have hnone : entryOf name found = none := by
        rw [entryOf, List.find?_eq_none]
        intro known hknown heq
        exact hnew (List.any_eq_true.2 ⟨known, hknown, by rw [hname]; exact heq⟩)
      rw [hnone]
      simp [entryOf, hname]
    · simp [entryOf, hname]

/-- Of the entries with the same path the first one counts. -/
theorem entryOf_foldl_enter (es found : List (String × Location)) (name : String) :
    entryOf name (es.foldl enter found) = (entryOf name found).or (entryOf name es) := by
  induction es generalizing found with
  | nil => simp [entryOf]
  | cons e es ih =>
      have hcons : entryOf name (e :: es) = (entryOf name [e]).or (entryOf name es) := by
        by_cases hname : e.1 = name <;> simp [entryOf, hname]
      rw [List.foldl_cons, ih, entryOf_enter, Option.or_assoc, hcons]

/-- Whatever has been entered was there before or is one of the entries. -/
theorem mem_of_mem_foldl_enter {es found : List (String × Location)} {e : String × Location}
    (h : e ∈ es.foldl enter found) : e ∈ found ∨ e ∈ es := by
  induction es generalizing found with
  | nil => exact .inl h
  | cons first es ih =>
      rcases ih h with hmem | hmem
      · unfold enter at hmem
        split at hmem
        · exact .inl hmem
        · exact (List.mem_cons.1 hmem).elim (fun heq => .inr (heq ▸ List.mem_cons_self)) .inl
      · exact .inr (List.mem_cons_of_mem _ hmem)

/-! ## Keys in texts -/

/-- A quote without a backslash in front of it ends a text. -/
theorem isQuotable_append_quote {key rest : List Char} (h : '\\' ∉ key) :
    isQuotable (key ++ '"' :: rest) = false := by
  induction key with
  | nil => rfl
  | cons c key ih =>
      obtain ⟨hc, hkey⟩ := not_or.1 (mt List.mem_cons.2 h)
      rw [List.cons_append, isQuotable, ih hkey, Bool.and_false]
      · intro heq _
        exact hc heq.symm
      · intro d rest heq _
        exact hc heq.symm

/-- The key that a text seems to hold ends in the backslash of the escaped quote. -/
theorem backslash_mem_imitated {q : Quoted} {key : List Char} (h : q.imitated? = some key) :
    '\\' ∈ key := by
  unfold Quoted.imitated? at h
  split at h
  · rename_i found rest hcut
    cases h
    have hbody := (Text.cutAt?_eq_some_iff.1 hcut).1
    by_contra hnot
    have hquotable := q.quotable
    rw [hbody, List.append_assoc, List.cons_append, isQuotable_append_quote hnot] at hquotable
    cases hquotable
  · cases h

/-- What is entered for a part has its place. -/
theorem Part.location_eq {part : Part} {entry : String × Location}
    (h : part.entered? = some entry) : part.location = entry.2 := by
  cases part with
  | place path place =>
      cases h
      rfl
  | text path place q =>
      rcases Option.map_eq_some_iff.1 h with ⟨key, -, rfl⟩
      rfl

theorem mem_keyPath {parent key : List Char} {c : Char} (h : c ∈ key) : c ∈ keyPath parent key := by
  unfold keyPath
  split
  · exact h
  · exact List.mem_append_right _ (List.mem_cons_of_mem _ h)

namespace Document

variable {d : Document} {source : String} {path : Path} {name : String}

/-- The location that a path should have: that of the longest path of the document around it. -/
def Nearest (d : Document) (name : List Char) (location : Location) : Prop :=
  ∃ path, .place path location ∈ d.parts ∧ Encloses (spell path) name ∧
    ∀ other place, .place other place ∈ d.parts → Encloses (spell other) name →
      (spell other).length ≤ (spell path).length

/-- The path of a key or an item is not entered for any text. -/
theorem not_entry_of_text {p : Path} {place location : Location} {q : Quoted} :
    (Part.text p place q).entered? ≠ some (String.ofList (spell path), location) := by
  intro h
  simp only [Part.entered?, Option.map_eq_some_iff, Prod.mk.injEq] at h
  rcases h with ⟨key, hkey, hname, -⟩
  rw [String.ofList_inj] at hname
  exact backslash_not_mem_spell path (hname ▸ mem_keyPath (backslash_mem_imitated hkey))

section

variable (hdistinct : d.root.distinct = true) (hlines : Text.linesOf source.toList = d.lines)

include hdistinct hlines

theorem locations_eq :
    (Locator.ofText source).locations = (entries d.parts).foldl enter [] := by
  rw [Locator.ofText, hlines, d.scanned hdistinct]

theorem find?_eq :
    (Locator.ofText source).find? name = (entryOf name (entries d.parts)).map Prod.snd := by
  rw [Locator.find?, locations_eq hdistinct hlines, ← entryOf, entryOf_foldl_enter]
  rfl

/-- What is found was entered for a part. -/
theorem exists_part_of_find? (h : (Locator.ofText source).find? name = some location) :
    ∃ part ∈ d.parts, part.entered? = some (name, location) := by
  rw [find?_eq hdistinct hlines, Option.map_eq_some_iff] at h
  rcases h with ⟨⟨p, place⟩, hfind, rfl⟩
  have hname := List.find?_some hfind
  rw [beq_iff_eq.1 hname] at hfind
  exact List.mem_filterMap.1 (List.mem_of_find?_eq_some hfind)

/-- A key or an item is found where it stands. -/
theorem find?_place (h : .place path location ∈ d.parts) :
    (Locator.ofText source).find? (String.ofList (spell path)) = some location := by
  have hentry : (String.ofList (spell path), location) ∈ entries d.parts :=
    List.mem_filterMap.2 ⟨_, h, rfl⟩
  cases hfind : (Locator.ofText source).find? (String.ofList (spell path)) with
  | none =>
      rw [find?_eq hdistinct hlines, Option.map_eq_none_iff, entryOf, List.find?_eq_none] at hfind
      exact absurd (beq_self_eq_true _) (hfind _ hentry)
  | some found =>
      -- no text is entered with the path of a place, and no other place has it
      rcases exists_part_of_find? hdistinct hlines hfind with ⟨part, hpart, hentry⟩
      cases part with
      | text p place q => exact absurd hentry not_entry_of_text
      | place p place =>
          obtain ⟨hname, rfl⟩ := Prod.mk.inj (Option.some.inj hentry)
          cases spell_injective (String.ofList_injective hname)
          rw [place_injective hdistinct hpart h]

/-- Nothing is found at the empty path. -/
theorem find?_empty : (Locator.ofText source).find? "" = none := by
  cases hfind : (Locator.ofText source).find? "" with
  | none => rfl
  | some location =>
      rcases exists_part_of_find? hdistinct hlines hfind with ⟨part, hpart, hentry⟩
      cases part with
      | text p place q =>
          have hroot : "" = String.ofList (spell []) := rfl
          rw [hroot] at hentry
          exact absurd hentry not_entry_of_text
      | place p place =>
          have hname := (Prod.mk.inj (Option.some.inj hentry)).1
          exact absurd (spell_eq_nil_iff.1 (String.ofList_injective hname))
            (path_ne_nil hdistinct hpart)

/-- A key or an item is located where it stands. -/
theorem locate?_place (h : .place path location ∈ d.parts) :
    (Locator.ofText source).locate? (String.ofList (spell path)) = some location :=
  locate?_of_find? (find?_empty hdistinct hlines) (find?_place hdistinct hlines h)

/-- Where no text on its own seems to hold a key, only keys and items are found. -/
theorem find?_eq_some_iff
    (hplain : ∀ p place q, .text p place q ∈ d.parts → q.imitated? = none) (front : List Char) :
    (Locator.ofText source).find? (String.ofList front) = some location ↔
      ∃ path, spell path = front ∧ .place path location ∈ d.parts := by
  constructor
  · intro hfind
    rcases exists_part_of_find? hdistinct hlines hfind with ⟨part, hpart, hentry⟩
    cases part with
    | text p place q =>
        rw [Part.entered?, hplain p place q hpart] at hentry
        cases hentry
    | place p place =>
        obtain ⟨hname, rfl⟩ := Prod.mk.inj (Option.some.inj hentry)
        exact ⟨p, String.ofList_injective hname, hpart⟩
  · rintro ⟨path, rfl, h⟩
    exact find?_place hdistinct hlines h

/-- Then a path is located at the longest path around it. -/
theorem locate?_of_plain
    (hplain : ∀ p place q, .text p place q ∈ d.parts → q.imitated? = none) (name : String) :
    (Locator.ofText source).locate? name = some location ↔ d.Nearest name.toList location := by
  rw [locate?_eq_some_iff (find?_empty hdistinct hlines)]
  constructor
  · rintro ⟨front, hfront, hfind, hlongest⟩
    rcases (find?_eq_some_iff hdistinct hlines hplain front).1 hfind with ⟨path, rfl, h⟩
    refine ⟨path, h, hfront, fun other place hplace hother => ?_⟩
    by_contra hlonger
    have hnone := hlongest _ hother (Nat.not_le.1 hlonger)
    rw [find?_place hdistinct hlines hplace] at hnone
    cases hnone
  · rintro ⟨path, h, hfront, hlongest⟩
    refine ⟨spell path, hfront, find?_place hdistinct hlines h, fun other hother hlonger => ?_⟩
    cases hfind : (Locator.ofText source).find? (String.ofList other) with
    | none => rfl
    | some place =>
        rcases (find?_eq_some_iff hdistinct hlines hplain other).1 hfind with ⟨p, rfl, hplace⟩
        exact absurd (hlongest p place hplace hother) (Nat.not_le.2 hlonger)

/-- A text that seems to hold a key is located like a key, at a place of its own. -/
theorem not_nearest_of_imitated {p : Path} {place : Location} {q : Quoted} {key : List Char}
    (h : .text p place q ∈ d.parts) (hkey : q.imitated? = some key) :
    ∃ name location, (Locator.ofText source).locate? name = some location ∧
      ¬ d.Nearest name.toList location := by
  have hentry : (String.ofList (keyPath (spell p) key), place) ∈ entries d.parts :=
    List.mem_filterMap.2 ⟨_, h, by rw [Part.entered?, hkey]; rfl⟩
  cases hfind : (Locator.ofText source).find? (String.ofList (keyPath (spell p) key)) with
  | none =>
      rw [find?_eq hdistinct hlines, Option.map_eq_none_iff, entryOf, List.find?_eq_none] at hfind
      exact absurd (beq_self_eq_true _) (hfind _ hentry)
  | some location =>
      refine ⟨String.ofList (keyPath (spell p) key), location,
        locate?_of_find? (find?_empty hdistinct hlines) hfind, ?_⟩
      · -- a place has one part only, and the path of a key or an item has no backslash
        rintro ⟨path, hplace, -, -⟩
        rcases exists_part_of_find? hdistinct hlines hfind with ⟨part, hpart, hentry⟩
        have hlocation := Part.location_eq hentry
        cases location_injective hdistinct hpart hplace hlocation
        have hname := String.ofList_injective (Prod.mk.inj (Option.some.inj hentry)).1
        refine backslash_not_mem_spell path ?_
        rw [hname]
        exact mem_keyPath (backslash_mem_imitated hkey)

end

/-- The text of a document, with a line feed behind each line. -/
def text (d : Document) : List Char :=
  d.lines.flatMap (· ++ ['\n'])

/-- Where no line has the end of a line inside, each key and each item is located in the text. -/
theorem locate?_text (hdistinct : d.root.distinct = true)
    (hclosed : ∀ line ∈ d.lines, '\n' ∉ line ∧ line.getLast? ≠ some '\r')
    (h : .place path location ∈ d.parts) :
    (Locator.ofText (String.ofList d.text)).locate? (String.ofList (spell path)) =
      some location := by
  refine locate?_place hdistinct ?_ h
  rw [String.toList_ofList]
  exact Text.linesOf_closed hclosed

end Document

/-! ## The law -/

/--
The locations of a document in block style whose mappings have no key twice, whatever its levels,
dashes, blocks of text, blank lines and comments are like. Each key and each item is located at the
line and the column where the key or the dash is written, and each entry is one of those, or the key
that a text on its own seems to hold; no line of a block of text enters anything. Exactly if there
is no such text, every other path is located at the longest path of the document around it that
ends before a period or an opening bracket, or not at all.
-/
theorem locate?_nearest_iff (d : Document) (source : String) (hdistinct : d.root.distinct = true)
    (hlines : Text.linesOf source.toList = d.lines) :
    (∀ path location, .place path location ∈ d.parts →
      (Locator.ofText source).locate? (String.ofList (spell path)) = some location) ∧
      (∀ part ∈ d.parts, part.StandsIn 1 (Text.linesOf source.toList)) ∧
      (∀ entry ∈ (Locator.ofText source).locations, ∃ part ∈ d.parts, part.entered? = some entry) ∧
      ((∀ name location, (Locator.ofText source).locate? name = some location ↔
          d.Nearest name.toList location) ↔
        ∀ path location q, .text path location q ∈ d.parts → q.imitated? = none) := by
  refine ⟨fun path location => Document.locate?_place hdistinct hlines, ?_, ?_, ?_, ?_⟩
  · intro part hpart
    rw [hlines]
    exact Document.standsIn_lines hdistinct hpart
  · intro entry hentry
    rw [Document.locations_eq hdistinct hlines] at hentry
    rcases mem_of_mem_foldl_enter hentry with hnone | hentry
    · cases hnone
    · exact List.mem_filterMap.1 hentry
  · intro hnearest path place q htext
    cases hkey : q.imitated? with
    | none => rfl
    | some key =>
        rcases Document.not_nearest_of_imitated hdistinct hlines htext hkey with
          ⟨name, location, hlocate, hnot⟩
        exact absurd ((hnearest name location).1 hlocate) hnot
  · intro hplain name location
    exact Document.locate?_of_plain hdistinct hlines hplain name

/-- Whether a part is not a text that seems to hold a key. -/
def Part.isPlain : Part → Bool
  | .place .. => true
  | .text _ _ q => q.imitated?.isNone

/-- A sequence level with its key, whose items begin on the line of the dash and below it, with a
block of text that looks like an item, a blank line and comments. -/
def listing : Document where
  before := [.comment 0 " a list".toList]
  root := .mapping (.more
    (.level ⟨"items".toList, rfl⟩ [] (.more
      (.compact 0 (.mapping (.more
        (.block ⟨"note".toList, rfl⟩ 0 ⟨['-'], rfl, [.deeper 1 "- not: an item".toList]⟩
          [.blank ⟨[], rfl⟩])
        (.last (.nested ⟨"more".toList, rfl⟩ [] 3 (.sequence (.last (.alone [.comment 9 []] 0
          (.text ⟨"a: \\\"b\\\"".toList, rfl⟩) []))) [])))) [])
      (.last (.compact 2 (.sequence (.last (.compact 0 (.text ⟨"c".toList, rfl⟩) []))) []))) [])
    (.last (.text ⟨"other".toList, rfl⟩ 1 ⟨"d".toList, rfl⟩ [])))

def listingText : String :=
  "# a list\nitems:\n- note: |-\n    - not: an item\n\n  more:\n      -\n         #\n" ++
    "       \"a: \\\"b\\\"\"\n-   - \"c\"\nother:  \"d\"\n"

/-- A list with a sequence level, a misleading block and comments is located exactly. -/
theorem locate?_nearest_iff_of_listing :
    listing.root.distinct = true ∧ Text.linesOf listingText.toList = listing.lines ∧
      (∀ name location, (Locator.ofText listingText).locate? name = some location ↔
        listing.Nearest name.toList location) ∧
      (Locator.ofText listingText).locate? "items[0].more[0]" = some ⟨7, 7⟩ := by
  have hdistinct : listing.root.distinct = true := by decide +kernel
  have hlines : Text.linesOf listingText.toList = listing.lines := by decide +kernel
  have hparts : listing.parts.all Part.isPlain = true := by decide +kernel
  have hplain : ∀ path location q, .text path location q ∈ listing.parts → q.imitated? = none := by
    intro path location q hmem
    exact Option.isNone_iff_eq_none.1 (List.all_eq_true.1 hparts _ hmem)
  have hlaw := locate?_nearest_iff listing listingText hdistinct hlines
  exact ⟨hdistinct, hlines, hlaw.2.2.2.2 hplain, by decide +kernel⟩

/-- A sequence of one text, with an escaped quote before a colon. -/
def quotedName : Document where
  before := []
  root := .sequence (.last (.compact 0 (.text ⟨"a\\\": b".toList, rfl⟩) []))

/-- The text is located like the value of a key, where the item around it should be. -/
theorem not_locate?_nearest :
    ¬ ∀ (d : Document) (source : String), d.root.distinct = true →
      Text.linesOf source.toList = d.lines → ∀ name location,
        (Locator.ofText source).locate? name = some location ↔ d.Nearest name.toList location := by
  intro h
  have hfound : (Locator.ofText "- \"a\\\": b\"\n").locate? "[0].a\\" = some ⟨1, 3⟩ := by
    decide +kernel
  rcases (h quotedName "- \"a\\\": b\"\n" rfl (by decide +kernel) _ _).1 hfound with
    ⟨path, hplace, -⟩
  -- the only place is that of the dash
  have hparts : quotedName.parts = [.place [.index 0] ⟨1, 1⟩,
      .text [.index 0] ⟨1, 3⟩ ⟨"a\\\": b".toList, rfl⟩] := rfl
  rw [hparts] at hplace
  simp at hplace

end Layout
end Gleaner
