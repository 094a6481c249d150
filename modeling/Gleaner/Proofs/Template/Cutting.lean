import Gleaner.Template
/-!
# Cutting a template into pieces

A hole is found wherever its name stands between double braces, and a text is cut independently of
a quote or a hole that follows it.

* `pieces_hole`: the text of a hole is cut off as that hole;
* `pieces_append`: a text before a quote or a hole is cut on its own.
-/

namespace Gleaner
namespace Template

/-! ## Holes -/

/-- Two opening braces and a name begin a hole when two closing braces follow the name. -/
theorem holeAt?_braces (c : Char) (rest : List Char) :
    holeAt? ('\x7b' :: '\x7b' :: c :: rest) =
      if Text.isNameStart c ∧
          (rest.dropWhile Text.isNameChar).take 2 = ['\x7d', '\x7d'] then
        some (String.ofList (c :: rest.takeWhile Text.isNameChar),
          (rest.takeWhile Text.isNameChar).length + 5)
      else none := by
  have hdrop : rest.drop ((c :: rest.takeWhile Text.isNameChar).length - 1) =
      rest.dropWhile Text.isNameChar := by
    have h : ((rest.takeWhile Text.isNameChar) ++ rest.dropWhile Text.isNameChar).drop
        (rest.takeWhile Text.isNameChar).length = rest.dropWhile Text.isNameChar := List.drop_left
    rwa [List.takeWhile_append_dropWhile] at h
  simp only [holeAt?, hdrop]
  by_cases hc : Text.isNameStart c = true
  · simp only [hc, if_true, true_and]
    match rest.dropWhile Text.isNameChar with
    | [] => rfl
    | [a] => simp
    | a :: b :: more =>
        by_cases ha : a = '\x7d'
        · by_cases hb : b = '\x7d'
          · simp [ha, hb]
          · simp [ha, hb]
        · simp [ha]
  · simp [hc]

theorem holeAt?_of_ne {c : Char} (hc : c ≠ '\x7b') (rest : List Char) :
    holeAt? (c :: rest) = none := by
  unfold holeAt?
  split
  · simp_all
  · rfl

/-- The text of a hole. -/
theorem holeAt?_source {name : String} (hname : Text.isName name = true) (rest : List Char) :
    holeAt? ((Piece.hole name).source ++ rest) =
      some (name, (Piece.hole name).source.length) := by
  cases hlist : name.toList with
  | nil => simp [Text.isName, hlist, Text.isNameChars] at hname
  | cons c more =>
      simp only [Text.isName, hlist, Text.isNameChars, Bool.and_eq_true, List.all_eq_true] at hname
      have hbrace : Text.isNameChar '\x7d' = false := by decide
      have htake : (more ++ '\x7d' :: '\x7d' :: rest).takeWhile Text.isNameChar = more := by
        rw [List.takeWhile_append_of_pos hname.2, List.takeWhile_cons_of_neg (by simp [hbrace]),
          List.append_nil]
      have hdrop : (more ++ '\x7d' :: '\x7d' :: rest).dropWhile Text.isNameChar =
          '\x7d' :: '\x7d' :: rest := by
        rw [List.dropWhile_append_of_pos hname.2, List.dropWhile_cons_of_neg (by simp [hbrace])]
      have hsource : (Piece.hole name).source ++ rest =
          '\x7b' :: '\x7b' :: c :: (more ++ '\x7d' :: '\x7d' :: rest) := by
        simp [Piece.source, hlist]
      have hlen : (Piece.hole name).source.length = more.length + 5 := by
        simp only [Piece.source, hlist, List.length_append, List.length_cons, List.length_nil]
        omega
      -- no brace is part of a name, so the name ends at the first one
      rw [hsource, holeAt?_braces, htake, hdrop, hlen, ← hlist, String.ofList_toList]
      simp [hname.1]

/-! ## Pieces -/

theorem pieces_nil : pieces [] = [] := by
  rw [pieces]

theorem pieces_cons {c : Char} {rest : List Char} (h : holeAt? (c :: rest) = none) :
    pieces (c :: rest) = .char c :: pieces rest := by
  rw [pieces, h]

/-- A hole at the front is the first piece, and the text behind it is cut as before. -/
theorem pieces_of_holeAt? {cs : List Char} {name : String} {n : Nat} (hn : n ≠ 0)
    (h : holeAt? cs = some (name, n)) : pieces cs = .hole name :: pieces (cs.drop n) := by
  cases cs with
  | nil => simp [holeAt?] at h
  | cons c rest =>
      rw [pieces, h]
      cases n with
      | zero => contradiction
      | succ n => rfl

theorem pieces_hole {name : String} (hname : Text.isName name = true) (rest : List Char) :
    pieces ((Piece.hole name).source ++ rest) = .hole name :: pieces rest := by
  have hlen : (Piece.hole name).source.length ≠ 0 := by simp [Piece.source]
  rw [pieces_of_holeAt? hlen (holeAt?_source hname rest), List.drop_left]

/-- A text that begins with a quote or with two opening braces, or nothing. -/
def SetsApart (rest : List Char) : Prop :=
  rest = [] ∨ ∃ more, rest = '"' :: more ∨ rest = '\x7b' :: '\x7b' :: more

/-- A text that sets slots apart goes on with neither a name nor a closing brace. -/
theorem SetsApart.head {rest : List Char} (h : SetsApart rest) :
    rest.takeWhile Text.isNameChar = [] ∧ rest.head? ≠ some '\x7d' := by
  have hquote : Text.isNameChar '"' = false := by decide
  have hbrace : Text.isNameChar '\x7b' = false := by decide
  rcases h with rfl | ⟨more, rfl | rfl⟩
  · simp
  · simp [hquote]
  · simp [hbrace]

/-- One brace before such a text opens no hole. -/
theorem holeAt?_one_brace {rest : List Char} (hrest : SetsApart rest) :
    holeAt? ('\x7b' :: rest) = none := by
  have hbrace : Text.isNameStart '\x7b' = false := by decide
  rcases hrest with rfl | ⟨more, rfl | rfl⟩
  · rfl
  · rfl
  · rw [holeAt?_braces]
    simp [hbrace]

/-- Nor do two braces, as no name begins behind them. -/
theorem holeAt?_two_braces {rest : List Char} (hrest : SetsApart rest) :
    holeAt? ('\x7b' :: '\x7b' :: rest) = none := by
  have hquote : Text.isNameStart '"' = false := by decide
  have hbrace : Text.isNameStart '\x7b' = false := by decide
  rcases hrest with rfl | ⟨more, rfl | rfl⟩
  · rfl
  · rw [holeAt?_braces]
    simp [hquote]
  · rw [holeAt?_braces]
    simp [hbrace]

/-- A text without a closing brace at its front does not close a hole before it. -/
theorem take_two_append {after rest : List Char} (hrest : rest.head? ≠ some '\x7d') :
    (after ++ rest).take 2 = ['\x7d', '\x7d'] ↔ after.take 2 = ['\x7d', '\x7d'] := by
  match after with
  | [] =>
      cases rest with
      | nil => simp
      | cons r rest =>
          have hr : r ≠ '\x7d' := by simpa using hrest
          simp [hr]
  | [a] =>
      cases rest with
      | nil => simp
      | cons r rest =>
          have hr : r ≠ '\x7d' := by simpa using hrest
          simp [hr]
  | a :: b :: more => simp

/-- What sets itself apart neither completes a hole that begins before it nor breaks one off. -/
theorem holeAt?_append {c : Char} {cs rest : List Char} (hrest : SetsApart rest) :
    holeAt? (c :: cs ++ rest) = holeAt? (c :: cs) := by
  by_cases hc : c = '\x7b'
  · subst hc
    match cs with
    | [] => exact holeAt?_one_brace hrest
    | d :: ds =>
        by_cases hd : d = '\x7b'
        · subst hd
          match ds with
          | [] => exact holeAt?_two_braces hrest
          | x :: xs =>
              -- the name ends before the rest, and the rest does not begin with a closing brace
              rcases hrest.head with ⟨hword, hclose⟩
              have htake : (xs ++ rest).takeWhile Text.isNameChar =
                  xs.takeWhile Text.isNameChar := by
                rw [List.takeWhile_append, hword, List.append_nil]
                split
                · rename_i hall
                  exact ((List.takeWhile_prefix _).eq_of_length hall).symm
                · rfl
              have hdrop : (xs ++ rest).dropWhile Text.isNameChar =
                  xs.dropWhile Text.isNameChar ++ rest := by
                have hkeep : rest.dropWhile Text.isNameChar = rest := by
                  have h := List.takeWhile_append_dropWhile (p := Text.isNameChar) (l := rest)
                  rwa [hword, List.nil_append] at h
                rw [List.dropWhile_append, hkeep]
                split
                · rename_i hnil
                  rw [List.isEmpty_iff.1 hnil, List.nil_append]
                · rfl
              simp only [List.cons_append]
              rw [holeAt?_braces, holeAt?_braces, htake, hdrop]
              simp only [take_two_append hclose]
        · simp [holeAt?, hd]
  · rw [List.cons_append, holeAt?_of_ne hc, holeAt?_of_ne hc]

/-- Where a hole is found, its text stands, and it has the name that is found. -/
theorem holeAt?_eq_some {cs : List Char} {name : String} {n : Nat}
    (h : holeAt? cs = some (name, n)) :
    ∃ rest, Text.isName name = true ∧ cs = (Piece.hole name).source ++ rest ∧
      n = (Piece.hole name).source.length := by
  have hbraces : ∃ c rest, cs = '\x7b' :: '\x7b' :: c :: rest := by
    unfold holeAt? at h
    split at h
    · exact ⟨_, _, rfl⟩
    · cases h
  rcases hbraces with ⟨c, rest, rfl⟩
  rw [holeAt?_braces] at h
  split at h
  · rename_i hclosed
    cases h
    rcases hclosed with ⟨hstart, hclose⟩
    -- after the name and the two closing braces
    refine ⟨(rest.dropWhile Text.isNameChar).drop 2, ?_, ?_, ?_⟩
    · have hword : ∀ d ∈ rest.takeWhile Text.isNameChar, Text.isNameChar d = true :=
        List.all_eq_true.1 List.all_takeWhile
      simp [Text.isName, Text.isNameChars, hstart]
    · have hrest : rest = rest.takeWhile Text.isNameChar ++
          (['\x7d', '\x7d'] ++ (rest.dropWhile Text.isNameChar).drop 2) := by
        rw [← hclose, List.take_append_drop, List.takeWhile_append_dropWhile]
      simpa [Piece.source] using hrest
    · simp [Piece.source]
  · cases h

/-! ## Cutting whole texts -/

/-- Induction on a text by the piece at its front. -/
theorem cutting_induction {motive : List Char → Prop} (nil : motive [])
    (char : ∀ c rest, holeAt? (c :: rest) = none → motive rest → motive (c :: rest))
    (hole : ∀ name rest, Text.isName name = true → motive rest →
      motive ((Piece.hole name).source ++ rest))
    (cs : List Char) : motive cs := by
  induction cs using pieces.induct with
  | case1 => exact nil
  | case2 c cs name n hhole ih =>
      rcases holeAt?_eq_some hhole with ⟨rest, hname, hsource, rfl⟩
      have hrest : cs.drop ((Piece.hole name).source.length - 1) = rest := by
        have hdrop := congrArg (List.drop (Piece.hole name).source.length) hsource
        rw [List.drop_left] at hdrop
        rw [← hdrop]
        rfl
      rw [hrest] at ih
      rw [hsource]
      exact hole name rest hname ih
  | case3 c cs hnone ih => exact char c cs hnone ih

/-- A text before a quote or a hole is cut on its own. -/
theorem pieces_append {rest : List Char} (hrest : SetsApart rest) (cs : List Char) :
    pieces (cs ++ rest) = pieces cs ++ pieces rest := by
  induction cs using cutting_induction with
  | nil => simp [pieces_nil]
  | char c cs hnone ih =>
      rw [pieces_cons hnone, List.cons_append, pieces_cons, ih, List.cons_append]
      rwa [← List.cons_append, holeAt?_append hrest]
  | hole name cs hname ih =>
      rw [List.append_assoc, pieces_hole hname, pieces_hole hname, ih, List.cons_append]

/-- The pieces make up the text. -/
theorem flatMap_source_pieces (cs : List Char) : (pieces cs).flatMap Piece.source = cs := by
  induction cs using cutting_induction with
  | nil => simp [pieces_nil]
  | char c cs hnone ih =>
      rw [pieces_cons hnone, List.flatMap_cons, ih]
      rfl
  | hole name cs hname ih => rw [pieces_hole hname, List.flatMap_cons, ih]

/-- The name of a hole is a name. -/
theorem isName_of_mem_pieces {cs : List Char} {name : String} (h : .hole name ∈ pieces cs) :
    Text.isName name = true := by
  induction cs using cutting_induction with
  | nil => simp [pieces_nil] at h
  | char c cs hnone ih =>
      rw [pieces_cons hnone] at h
      exact ih (by simpa using h)
  | hole first cs hname ih =>
      rw [pieces_hole hname] at h
      rcases List.mem_cons.1 h with heq | hmem
      · cases heq
        exact hname
      · exact ih hmem

/-- Where no brace stands, there is no hole. -/
theorem pieces_of_no_brace {cs : List Char} (h : ∀ c ∈ cs, c ≠ '\x7b') :
    pieces cs = cs.map .char := by
  induction cs with
  | nil => exact pieces_nil
  | cons c cs ih =>
      rcases List.forall_mem_cons.1 h with ⟨hc, hcs⟩
      rw [pieces_cons (holeAt?_of_ne hc cs), ih hcs, List.map_cons]

/-- A text without holes is all characters. -/
theorem pieces_of_no_holes {cs : List Char} (h : ∀ name, Piece.hole name ∉ pieces cs) :
    pieces cs = cs.map .char := by
  induction cs using cutting_induction with
  | nil => exact pieces_nil
  | char c cs hnone ih =>
      rw [pieces_cons hnone] at h
      rw [pieces_cons hnone, List.map_cons]
      exact congrArg _ (ih fun name hmem => h name (List.mem_cons_of_mem _ hmem))
  | hole name cs hname ih =>
      rw [pieces_hole hname] at h
      exact absurd List.mem_cons_self (h name)

end Template
end Gleaner
