import Gleaner.Proofs.Query.Layout
import Gleaner.Proofs.Query.Parsing
/-!
# Where errors point

An error of reading a query names a byte offset of the normalized text, and what it complains about
stands there.

* `PointsAmong` says that an error of the parser points at one of some lexemes, or at the end;
* `Located` outcomes fail with such errors and leave only lexemes that they were given;
* `LocatesErrors` says so of every function of the parser, by induction on the depth of its
  recursion: each function is one lemma about one more step;
* `error_positions` puts the errors of lexing and parsing together.
-/

namespace Gleaner
namespace Query

/-! ## Outcomes of the parser -/

/-- An error of the parser that points at a lexeme or at the end of the text, if anywhere. -/
def PointsAmong (stop : Nat) (all : List Lexeme) : Error → Prop
  | .misplaced offset _ => offset = stop ∨ ∃ l ∈ all, l.offset = offset
  | .unknownFunction _ _ => True
  | _ => False

/-- What the parser gives when it is at some of the lexemes of a text. -/
def Located {α : Type} (stop : Nat) (all : List Lexeme) :
    Except Error (α × List Lexeme) → Prop
  | .ok (_, rest) => rest ⊆ all
  | .error e => PointsAmong stop all e

section Outcomes

variable {α β : Type} {stop : Nat} {all ls : List Lexeme}

theorem Located.front {l : Lexeme} (h : l :: ls ⊆ all) (problem : Misplacement) :
    Located stop all (.error (.misplaced l.offset problem) : Except Error (α × List Lexeme)) :=
  .inr ⟨l, h List.mem_cons_self, rfl⟩

theorem Located.here (h : ls ⊆ all) (problem : Misplacement) :
    Located stop all
      (.error (.misplaced (here stop ls) problem) : Except Error (α × List Lexeme)) := by
  cases ls with
  | nil => exact .inl rfl
  | cons l ls => exact .front h problem

theorem subset_of_cons {l : Lexeme} (h : l :: ls ⊆ all) : ls ⊆ all :=
  (List.cons_subset.1 h).2

/-- Errors are located in a sequence if they are in its steps. -/
theorem Located.bind {x : Except Error (α × List Lexeme)}
    {f : α × List Lexeme → Except Error (β × List Lexeme)} (hx : Located stop all x)
    (hf : ∀ a rest, rest ⊆ all → Located stop all (f (a, rest))) :
    Located stop all (x >>= f) := by
  cases x with
  | error e => exact hx
  | ok found => exact hf found.1 found.2 hx

/-- A missing token is reported where the next token stands, or at the end. -/
theorem Located.expect {token : Token} {f : List Lexeme → Except Error (β × List Lexeme)}
    (hls : ls ⊆ all) (hf : ∀ rest, rest ⊆ all → Located stop all (f rest)) :
    Located stop all (Query.expect stop token ls >>= f) := by
  cases ls with
  | nil => exact .inl rfl
  | cons l ls =>
      rw [Query.expect]
      split
      · exact hf ls (subset_of_cons hls)
      · exact .front hls _

end Outcomes

/-! ## The functions of the parser -/

/-- The functions of the parser locate their errors, when they recurse within a bound. -/
structure LocatesErrors (stop fuel : Nat) (all : List Lexeme) : Prop where
  level : ∀ level {ls}, ls ⊆ all → Located stop all (parseLevel stop fuel level ls)
  rest : ∀ level left {ls}, ls ⊆ all → Located stop all (parseRest stop fuel level left ls)
  suffixed : ∀ {ls}, ls ⊆ all → Located stop all (parsePostfix stop fuel ls)
  suffixes : ∀ target {ls}, ls ⊆ all → Located stop all (parseSuffixes stop fuel target ls)
  bracket : ∀ target {ls}, ls ⊆ all → Located stop all (parseBracket stop fuel target ls)
  primary : ∀ {ls}, ls ⊆ all → Located stop all (parsePrimary stop fuel ls)
  name : ∀ name {l : Lexeme} {ls}, l :: ls ⊆ all →
    Located stop all (parseName stop fuel name l.offset ls)
  arguments : ∀ {ls}, ls ⊆ all → Located stop all (parseArguments stop fuel ls)

namespace LocatesErrors

variable {stop fuel : Nat} {all : List Lexeme} (ih : LocatesErrors stop fuel all)

include ih

/-- Reading a level reports errors at tokens or at the end, if the functions it calls do. -/
theorem level_succ (level : Level) {ls : List Lexeme} (hls : ls ⊆ all) :
    Located stop all (parseLevel stop (fuel + 1) level ls) := by
  by_cases hlevel : level = .unary
  · -- a minus sign, the negation word, or a target
    subst hlevel
    cases ls with
    | nil => exact ih.suffixed hls
    | cons l ls =>
        have hrest := subset_of_cons hls
        rw [parseLevel]
        split
        · exact (ih.level _ hrest).bind fun _ _ hafter => hafter
        · split
          · split
            · exact (ih.level _ hrest).bind fun _ _ hafter => hafter
            · exact hrest
          · exact ih.suffixed hls
  · -- on every other level an operand of the next one comes first
    rw [parseLevel_next hlevel]
    exact (ih.level _ hls).bind fun left _ hafter => ih.rest _ left hafter

theorem rest_succ (level : Level) (left : Query) {ls : List Lexeme} (hls : ls ⊆ all) :
    Located stop all (parseRest stop (fuel + 1) level left ls) := by
  cases ls with
  | nil => exact hls
  | cons l ls =>
      rw [parseRest]
      split
      · exact hls
      · refine (ih.level _ (subset_of_cons hls)).bind fun right after hafter => ?_
        dsimp only
        split
        · exact ih.rest _ _ hafter
        · exact hafter

theorem suffixed_succ {ls : List Lexeme} (hls : ls ⊆ all) :
    Located stop all (parsePostfix stop (fuel + 1) ls) := by
  rw [parsePostfix]
  exact (ih.primary hls).bind fun target _ hafter => ih.suffixes target hafter

theorem suffixes_succ (target : Query) {ls : List Lexeme} (hls : ls ⊆ all) :
    Located stop all (parseSuffixes stop (fuel + 1) target ls) := by
  cases ls with
  | nil => exact hls
  | cons l ls =>
      have hrest := subset_of_cons hls
      rw [parseSuffixes.eq_def]
      dsimp only
      split
      · exact ih.suffixes _ hrest
      · -- a point before a bracket or a name in quotes, or one that is not part of this
        split
        · exact ih.suffixes _ hrest
        · exact ih.suffixes _ (subset_of_cons hrest)
        · exact hls
      · exact (ih.bracket _ hrest).bind fun selected _ hafter => ih.suffixes selected hafter
      · exact ih.suffixes _ hrest
      · exact hls

theorem bracket_succ (target : Query) {ls : List Lexeme} (hls : ls ⊆ all) :
    Located stop all (parseBracket stop (fuel + 1) target ls) := by
  rw [parseBracket.eq_def]
  split
  · exact .here hls _
  · exact subset_of_cons hls
  · rename_i heq
    cases heq
    refine (ih.level _ (subset_of_cons hls)).bind fun high after hafter => ?_
    exact .expect hafter fun _ hmore => hmore
  · rename_i heq _ _
    cases heq
    refine (ih.level _ hls).bind fun position after hafter => ?_
    -- a range with a low end only, a range with both, or an index
    dsimp only
    split
    · exact subset_of_cons (subset_of_cons hafter)
    · refine (ih.level _ (subset_of_cons hafter)).bind fun high after hafter => ?_
      exact .expect hafter fun _ hmore => hmore
    · exact .expect hafter fun _ hmore => hmore

theorem primary_succ {ls : List Lexeme} (hls : ls ⊆ all) :
    Located stop all (parsePrimary stop (fuel + 1) ls) := by
  cases ls with
  | nil => exact .inl rfl
  | cons l ls =>
      have hrest := subset_of_cons hls
      -- one case for each token that a primary expression begins with
      rw [parsePrimary.eq_def]
      dsimp only
      split
      · split
        · exact subset_of_cons hrest
        · exact hrest
      · exact hrest
      · exact hrest
      · exact hrest
      · split
        · exact hrest
        · exact .front hls _
      · refine (ih.level _ hrest).bind fun inner after hafter => ?_
        exact .expect hafter fun _ hmore => hmore
      · split
        · exact subset_of_cons hrest
        · refine (ih.level _ hrest).bind fun inner after hafter => ?_
          exact .expect hafter fun _ hmore => hmore
      · exact ih.name _ hls
      · exact .front hls _

omit ih in
/-- Only unknown functions are errors of calls. -/
theorem pointsAmong_buildCall {name : String} {arguments : List Query} {e : Error}
    (h : buildCall name arguments = .error e) : PointsAmong stop all e := by
  unfold buildCall at h
  repeat' split at h
  all_goals cases h
  all_goals trivial

theorem name_succ (name : String) {l : Lexeme} {ls : List Lexeme} (hls : l :: ls ⊆ all) :
    Located stop all (parseName stop (fuel + 1) name l.offset ls) := by
  have hrest := subset_of_cons hls
  rw [parseName.eq_def]
  dsimp only
  split
  · exact hrest
  · split
    · exact .front hls _
    · split
      · refine (ih.arguments (subset_of_cons hrest)).bind fun arguments after hafter => ?_
        dsimp only
        cases hcall : buildCall name arguments with
        | error e => exact pointsAmong_buildCall hcall
        | ok q => exact hafter
      · exact hrest

theorem arguments_succ {ls : List Lexeme} (hls : ls ⊆ all) :
    Located stop all (parseArguments stop (fuel + 1) ls) := by
  rw [parseArguments]
  refine (ih.level _ hls).bind fun argument after hafter => ?_
  dsimp only
  split
  · exact (ih.arguments (subset_of_cons hafter)).bind fun _ _ hmore => hmore
  · exact .expect hafter fun _ hmore => hmore

end LocatesErrors

/-- All functions of the parser locate their errors, by induction on the fuel. -/
theorem locatesErrors (stop fuel : Nat) (all : List Lexeme) : LocatesErrors stop fuel all := by
  induction fuel with
  | zero =>
      -- out of depth, every function points at the next lexeme
      constructor
      case name => exact fun name _ _ hls => .here (subset_of_cons hls) _
      all_goals
        intros
        exact .here ‹_› _
  | succ fuel ih =>
      exact ⟨ih.level_succ, ih.rest_succ, ih.suffixed_succ, ih.suffixes_succ, ih.bracket_succ,
        ih.primary_succ, ih.name_succ, ih.arguments_succ⟩

/-- An error of the parser points at a lexeme, at the end, or, without lexemes, at the beginning. -/
theorem pointsAmong_of_ofLexemes {stop : Nat} {ls : List Lexeme} {e : Error}
    (h : ofLexemes stop ls = .error e) :
    e = .misplaced 0 .emptyExpression ∨ PointsAmong stop ls e := by
  unfold ofLexemes at h
  split at h
  · cases h
    exact .inl rfl
  · right
    have hparse := (locatesErrors stop (nestingBound ls) ls).level .pipe (List.Subset.refl ls)
    rcases Except.bind_eq_error_iff.1 h with herror | ⟨⟨q, rest⟩, hok, hrest⟩
    · rwa [herror] at hparse
    · rw [hok] at hparse
      dsimp only at hrest
      split at hrest
      · cases hrest
      · cases hrest
        have hsubset : _ :: _ ⊆ ls := hparse
        exact .inr ⟨_, hsubset List.mem_cons_self, rfl⟩

/-! ## The positions of errors and of lexemes -/

/-- What an error of reading a text says of the text. -/
def Error.PointsInto (cs : List Char) : Error → Prop
  | .unexpectedChar c offset => ∃ rest, Stands 0 cs offset (c :: rest)
  | .unterminatedString offset | .invalidString offset => ∃ rest, Stands 0 cs offset ('"' :: rest)
  | .misplaced offset _ =>
    offset = 0 ∨ (∃ ls, lex cs = .ok ls ∧ ∃ l ∈ ls, l.offset = offset) ∨
      offset = Text.byteLength cs
  | .unknownFunction _ _ => True
  | _ => False

/-- An error of the scanner points at the character where the token would begin. -/
theorem pointsInto_of_lex {cs : List Char} {e : Error} (h : lex cs = .error e) :
    e.PointsInto cs := by
  rcases exists_stands_of_error h with ⟨offset, c, rest, hstands, hscan⟩
  rcases scan_eq_error hscan with rfl | ⟨rfl, rfl | rfl⟩
  · exact ⟨rest, hstands⟩
  · exact ⟨rest, hstands⟩
  · exact ⟨rest, hstands⟩

/-- An error of the parser points at a token of the text or at its end. -/
theorem pointsInto_of_ofLexemes {cs : List Char} {ls : List Lexeme} {e : Error}
    (hls : lex cs = .ok ls) (h : ofLexemes (Text.byteLength cs) ls = .error e) :
    e.PointsInto cs := by
  rcases pointsAmong_of_ofLexemes h with rfl | hpoints
  · exact .inl rfl
  · cases e with
    | misplaced offset problem =>
        rcases hpoints with hend | hlexeme
        · exact .inr (.inr hend)
        · exact .inr (.inl ⟨ls, hls, hlexeme⟩)
    | unknownFunction name arity => trivial
    | _ => cases hpoints

/--
What an error of reading a query complains about stands in the normalized text at the offset that
it names. In every text that can be lexed, the offsets of the lexemes are increasing, and at each of
them stands the first character of the token that is scanned there.
-/
theorem error_positions :
    (∀ source e, read source = .error e → e.PointsInto (normalize source.toList)) ∧
      ∀ cs ls, lex cs = .ok ls →
        (ls.map Lexeme.offset).Pairwise (· < ·) ∧
          ∀ l ∈ ls, ∃ c rest n, Stands 0 cs l.offset (c :: rest) ∧ l.token.BeginsWith c ∧
            scan l.offset c rest = .ok (l.token, n) := by
  constructor
  · intro source e h
    rcases Except.bind_eq_error_iff.1 h with hlex | ⟨ls, hls, hparse⟩
    · exact pointsInto_of_lex hlex
    · exact pointsInto_of_ofLexemes hls hparse
  · intro cs ls hls
    have hlaid := lexFrom_eq_ok_iff.1 hls
    refine ⟨hlaid.increasing, fun l hl => ?_⟩
    rcases hlaid.stands l hl with ⟨c, rest, n, hstands, hscan⟩
    exact ⟨c, rest, n, hstands, beginsWith_of_scan hscan, hscan⟩

/-- A query in which a literal with a letter of two bytes stands before an error. -/
def strayDollar : String :=
  "\"é\" | $"

/-- The same literal before a query that ends too early. -/
def openEnd : List Char :=
  "\"é\" |".toList

/-- A stray `$` is reported where it stands in bytes, behind a letter of two bytes. -/
theorem error_positions_of_strayDollar :
    read strayDollar = .error (.unexpectedChar '$' 7) ∧
      (∃ rest, Stands 0 (normalize strayDollar.toList) 7 ('$' :: rest)) ∧
      lex openEnd = .ok [⟨.str "é", 0⟩, ⟨.pipe, 5⟩] ∧
      ∃ rest, Stands 0 openEnd 5 ('|' :: rest) := by
  have hread : read strayDollar = .error (.unexpectedChar '$' 7) := by cbv
  have hlex : lex openEnd = .ok [⟨.str "é", 0⟩, ⟨.pipe, 5⟩] := by cbv
  have herror := error_positions.1 strayDollar _ hread
  rcases (error_positions.2 openEnd _ hlex).2 ⟨.pipe, 5⟩ (by simp) with
    ⟨c, rest, n, hstands, hbegins, _⟩
  cases hbegins
  exact ⟨hread, herror, hlex, rest, hstands⟩

end Query
end Gleaner
