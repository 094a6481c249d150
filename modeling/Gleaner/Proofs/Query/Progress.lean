import Gleaner.Proofs.Query.Recursion
import Mathlib.Data.List.Infix
/-!
# Progress of the parser

Every function of the parser reads on: what it leaves is a later part of the lexemes. So calls nest
only as deeply as there are levels to pass from one lexeme to the next, and the parser comes to an
end.

* `Alike` and `AlikeBehind` outcomes are the same and leave a later part;
* `AnswersAlike` says so of two readers and of the calls for which a depth suffices; each function
  of the parser is one lemma about one more layer of bodies, and `AnswersAlike.deepen` is all of
  them;
* `reader_answersAlike` compares the parser with itself, which is its progress, and
  `iterate_answersAlike` compares it with layers on any other reader, which is its end;
* `parsing_ends_and_advances` is both, from any position of any lexemes.
-/

namespace Gleaner
namespace Query

/-! ## Outcomes -/

section Outcomes

variable {α β : Type} {l : Lexeme} {ls : List Lexeme} {x y : Except Error (α × List Lexeme)}

/-- Two outcomes are the same, and what they leave of some lexemes is an end of them. -/
def Alike (ls : List Lexeme) (x y : Except Error (α × List Lexeme)) : Prop :=
  x = y ∧ ∀ found, y = .ok found → found.2 <:+ ls

/-- Two outcomes are the same, and what they leave of some lexemes is a proper end of them. -/
def AlikeBehind (ls : List Lexeme) (x y : Except Error (α × List Lexeme)) : Prop :=
  x = y ∧ ∀ found, y = .ok found → found.2 <:+ ls ∧ found.2.length < ls.length

theorem Alike.ok (a : α) : Alike ls (.ok (a, ls)) (.ok (a, ls)) := by
  refine ⟨rfl, ?_⟩
  rintro found ⟨⟩
  exact List.suffix_rfl

theorem Alike.error (e : Error) : Alike ls (.error e : Except Error (α × List Lexeme)) (.error e) :=
  ⟨rfl, nofun⟩

theorem AlikeBehind.error (e : Error) :
    AlikeBehind ls (.error e : Except Error (α × List Lexeme)) (.error e) :=
  ⟨rfl, nofun⟩

theorem AlikeBehind.alike (h : AlikeBehind ls x y) : Alike ls x y :=
  ⟨h.1, fun found hfound => (h.2 found hfound).1⟩

/-- A lexeme has been read before. -/
theorem Alike.behind (h : Alike ls x y) : AlikeBehind (l :: ls) x y := by
  refine ⟨h.1, fun found hfound => ?_⟩
  have hend := h.2 found hfound
  exact ⟨hend.trans (List.suffix_cons l ls), Nat.lt_succ_of_le hend.length_le⟩

theorem Alike.cons (h : Alike ls x y) : Alike (l :: ls) x y :=
  h.behind.alike

/-- Outcomes that are alike stay alike when both are continued alike on every end of the lexemes. -/
theorem Alike.bind {f g : α × List Lexeme → Except Error (β × List Lexeme)} (h : Alike ls x y)
    (hf : ∀ a after, after.length ≤ ls.length → Alike after (f (a, after)) (g (a, after))) :
    Alike ls (x >>= f) (y >>= g) := by
  rcases h with ⟨rfl, hends⟩
  cases x with
  | error e => exact .error e
  | ok found =>
      have hend := hends found rfl
      rcases hf found.1 found.2 hend.length_le with ⟨hsame, hnext⟩
      exact ⟨hsame, fun result hresult => (hnext result hresult).trans hend⟩

/-- Behind a lexeme that was read, the continuations need only be alike on shorter ends. -/
theorem AlikeBehind.bind {f g : α × List Lexeme → Except Error (β × List Lexeme)}
    (h : AlikeBehind ls x y)
    (hf : ∀ a after, after.length < ls.length → Alike after (f (a, after)) (g (a, after))) :
    AlikeBehind ls (x >>= f) (y >>= g) := by
  rcases h with ⟨rfl, hends⟩
  cases x with
  | error e => exact .error e
  | ok found =>
      rcases hends found rfl with ⟨hend, hlt⟩
      rcases hf found.1 found.2 hlt with ⟨hsame, hnext⟩
      refine ⟨hsame, fun result hresult => ?_⟩
      have hlater := hnext result hresult
      exact ⟨hlater.trans hend, hlater.length_le.trans_lt hlt⟩

/-- Expecting a token is alike to itself, and leaves an end. -/
theorem Alike.closed (stop : Nat) (token : Token) (a : α) (ls : List Lexeme) :
    Alike ls (expect stop token ls >>= fun after => .ok (a, after))
      (expect stop token ls >>= fun after => .ok (a, after)) := by
  cases ls with
  | nil => exact .error _
  | cons l ls =>
      rw [expect]
      split
      · exact (Alike.ok a).cons
      · exact .error _

/-- Two turns of a loop are the same, and what another turn begins with is a proper end. -/
def TurnsAlike (ls : List Lexeme) (x y : Except Error (Option (α × List Lexeme))) : Prop :=
  x = y ∧ ∀ found, y = .ok (some found) → found.2 <:+ ls ∧ found.2.length < ls.length

theorem TurnsAlike.last :
    TurnsAlike ls (.ok none : Except Error (Option (α × List Lexeme))) (.ok none) :=
  ⟨rfl, nofun⟩

theorem TurnsAlike.read {rest : List Lexeme} (a : α) (h : rest <:+ ls) :
    TurnsAlike (l :: ls) (.ok (some (a, rest))) (.ok (some (a, rest))) := by
  refine ⟨rfl, ?_⟩
  rintro found ⟨⟩
  exact ⟨h.trans (List.suffix_cons l ls), Nat.lt_succ_of_le h.length_le⟩

/-- A turn is an outcome behind its first lexeme. -/
theorem Alike.turns {f : α × List Lexeme → β} (h : Alike ls x y) :
    TurnsAlike (l :: ls) (x >>= fun found => .ok (some (f found, found.2)))
      (y >>= fun found => .ok (some (f found, found.2))) := by
  rcases h with ⟨rfl, hends⟩
  cases x with
  | error e => exact ⟨rfl, nofun⟩
  | ok found => exact .read (f found) (hends found rfl)

/-- A loop whose turns are alike, and whose continuations are, is alike. -/
theorem TurnsAlike.bind {x y : Except Error (Option (α × List Lexeme))}
    {f g : Option (α × List Lexeme) → Except Error (β × List Lexeme)} (h : TurnsAlike ls x y)
    (hlast : Alike ls (f none) (g none))
    (hnext : ∀ a after, after.length < ls.length →
      Alike after (f (some (a, after))) (g (some (a, after)))) :
    Alike ls (x >>= f) (y >>= g) := by
  rcases h with ⟨rfl, hends⟩
  cases x with
  | error e => exact .error e
  | ok turn =>
      cases turn with
      | none => exact hlast
      | some found =>
          rcases hends found rfl with ⟨hend, hlt⟩
          rcases hnext found.1 found.2 hlt with ⟨hsame, hlater⟩
          exact ⟨hsame, fun result hresult => (hlater result hresult).trans hend⟩

end Outcomes

/-! ## Readers -/

/--
Two readers give the same answers to the calls for which a depth suffices, and what they leave is an
end of the lexemes. The depths are sixteen for each lexeme, and what it takes to get from a function
down to one that reads a lexeme.
-/
structure AnswersAlike (depth : Nat) (r s : Reader) : Prop where
  level : ∀ level {ls : List Lexeme}, 16 * ls.length + 11 < depth + level.rank →
    AlikeBehind ls (r.level level ls) (s.level level ls)
  rest : ∀ level left {ls : List Lexeme}, 16 * ls.length < depth →
    Alike ls (r.rest level left ls) (s.rest level left ls)
  suffixed : ∀ {ls : List Lexeme}, 16 * ls.length + 2 < depth →
    AlikeBehind ls (r.suffixed ls) (s.suffixed ls)
  suffixes : ∀ target {ls : List Lexeme}, 16 * ls.length < depth →
    Alike ls (r.suffixes target ls) (s.suffixes target ls)
  bracket : ∀ target {ls : List Lexeme}, 16 * ls.length + 12 < depth →
    AlikeBehind ls (r.bracket target ls) (s.bracket target ls)
  primary : ∀ {ls : List Lexeme}, 16 * ls.length + 1 < depth →
    AlikeBehind ls (r.primary ls) (s.primary ls)
  name : ∀ name offset {ls : List Lexeme}, 16 * ls.length < depth →
    Alike ls (r.name name offset ls) (s.name name offset ls)
  arguments : ∀ {ls : List Lexeme}, 16 * ls.length + 12 < depth →
    AlikeBehind ls (r.arguments ls) (s.arguments ls)

namespace AnswersAlike

variable {stop depth : Nat} {r s : Reader} (h : AnswersAlike depth r s)

include h

theorem expression {ls : List Lexeme} (hdepth : 16 * ls.length + 11 < depth) :
    AlikeBehind ls (r.level .pipe ls) (s.level .pipe ls) :=
  h.level .pipe hdepth

/-- The operand of a sign is read alike, since a lexeme has been read before it. -/
theorem operand {ls : List Lexeme} (hdepth : 16 * ls.length + 3 < depth) :
    AlikeBehind ls (r.level .unary ls) (s.level .unary ls) := by
  refine h.level .unary ?_
  have hrank : Level.unary.rank = 8 := rfl
  omega

/-- A level is read alike by readers that answer alike one layer further down. -/
theorem level_succ (level : Level) {ls : List Lexeme}
    (hdepth : 16 * ls.length + 11 < depth + 1 + level.rank) :
    AlikeBehind ls (r.readLevel level ls) (s.readLevel level ls) := by
  by_cases hlevel : level = .unary
  · -- a minus sign, the negation word, or a target
    subst hlevel
    have hrank : Level.unary.rank = 8 := rfl
    cases ls with
    | nil => exact h.suffixed (by omega)
    | cons l rest =>
        have hsuffixed : AlikeBehind (l :: rest) _ _ := h.suffixed (by omega)
        rw [List.length_cons] at hdepth
        have hoperand : AlikeBehind rest _ _ := h.operand (by omega)
        rw [Reader.readLevel, Reader.readLevel]
        split
        · exact (hoperand.alike.bind fun inner _ _ => .ok inner.neg).behind
        · split
          · split
            · exact (hoperand.alike.bind fun inner _ _ => .ok inner.not).behind
            · exact (Alike.ok _).behind
          · exact hsuffixed
  · -- on every other level an operand of the next one comes first
    have hnext := Level.rank_next hlevel
    rw [Reader.readLevel_next r hlevel, Reader.readLevel_next s hlevel]
    refine (h.level level.next (by omega)).bind fun left after hlt => h.rest level left ?_
    have hrank := level.rank_le
    omega

/-- A turn of the operator loop is alike for such readers. -/
theorem operatorTurn (level : Level) (left : Query) {ls : List Lexeme}
    (hdepth : 16 * ls.length < depth + 1) :
    TurnsAlike ls (r.operatorTurn level left ls) (s.operatorTurn level left ls) := by
  cases ls with
  | nil => exact .last
  | cons l rest =>
      rw [List.length_cons] at hdepth
      rw [Reader.operatorTurn, Reader.operatorTurn]
      cases level.operator? l.token with
      | none => exact .last
      | some op => exact (h.level level.rightOperand (by omega)).alike.turns

theorem rest_succ (level : Level) (left : Query) {ls : List Lexeme}
    (hdepth : 16 * ls.length < depth + 1) :
    Alike ls (r.readRest level left ls) (s.readRest level left ls) := by
  refine (h.operatorTurn level left hdepth).bind (.ok left) fun next after hlt => ?_
  dsimp only
  split
  · exact h.rest level next (by omega)
  · exact .ok next

theorem suffixed_succ {ls : List Lexeme} (hdepth : 16 * ls.length + 2 < depth + 1) :
    AlikeBehind ls (r.readSuffixed ls) (s.readSuffixed ls) :=
  (h.primary (by omega)).bind fun target after hlt => h.suffixes target (by omega)

/-- A turn of the suffix loop is alike for such readers. -/
theorem suffixTurn (target : Query) {ls : List Lexeme} (hdepth : 16 * ls.length < depth + 1) :
    TurnsAlike ls (r.suffixTurn target ls) (s.suffixTurn target ls) := by
  cases ls with
  | nil => exact .last
  | cons l rest =>
      rw [List.length_cons] at hdepth
      rw [Reader.suffixTurn.eq_def, Reader.suffixTurn.eq_def]
      dsimp only
      split
      · exact .read _ List.suffix_rfl
      · -- a point before a bracket or a name in quotes, or one that is not part of this
        split
        · exact .read _ List.suffix_rfl
        · exact .read _ (List.suffix_cons _ _)
        · exact .last
      · exact (h.bracket target (by omega)).alike.turns
      · exact .read _ List.suffix_rfl
      · exact .last

theorem suffixes_succ (target : Query) {ls : List Lexeme} (hdepth : 16 * ls.length < depth + 1) :
    Alike ls (r.readSuffixes target ls) (s.readSuffixes target ls) :=
  (h.suffixTurn target hdepth).bind (.ok target) fun next after hlt => h.suffixes next (by omega)

/-- An expression up to a closing token; nothing else is called. -/
theorem closed {α : Type} {ls : List Lexeme} (hdepth : 16 * ls.length + 11 < depth) (token : Token)
    (f : Query → α) :
    Alike ls
      (r.level .pipe ls >>= fun found => expect stop token found.2 >>= fun after =>
        .ok (f found.1, after))
      (s.level .pipe ls >>= fun found => expect stop token found.2 >>= fun after =>
        .ok (f found.1, after)) :=
  (h.expression hdepth).alike.bind fun inner after _ => .closed stop token (f inner) after

/-- Brackets are read alike by such readers. -/
theorem bracket_succ (target : Query) {ls : List Lexeme}
    (hdepth : 16 * ls.length + 12 < depth + 1) :
    AlikeBehind ls (r.readBracket stop target ls) (s.readBracket stop target ls) := by
  rw [Reader.readBracket.eq_def, Reader.readBracket.eq_def]
  split
  · exact (Alike.ok _).behind
  · rw [List.length_cons] at hdepth
    exact Alike.behind (h.closed (by omega) .rightBracket
      fun high => slice target none (some high))
  · refine (h.expression (by omega)).bind fun position after hlt => ?_
    -- a range with a low end only, a range with both, or an index
    dsimp only
    split
    · exact (Alike.ok _).cons.cons
    · rw [List.length_cons] at hlt
      exact .cons (h.closed (by omega) .rightBracket
        fun high => slice target (some position) (some high))
    · exact .closed stop .rightBracket _ _

/-- A primary is read alike by such readers. -/
theorem primary_succ {ls : List Lexeme} (hdepth : 16 * ls.length + 1 < depth + 1) :
    AlikeBehind ls (r.readPrimary stop ls) (s.readPrimary stop ls) := by
  cases ls with
  | nil => exact .error _
  | cons l rest =>
      rw [List.length_cons] at hdepth
      have hexpression : 16 * rest.length + 11 < depth := by omega
      -- what is inside of parentheses or brackets is shorter, and read with less depth
      rw [Reader.readPrimary.eq_def, Reader.readPrimary.eq_def]
      dsimp only
      split
      · split
        · exact (Alike.ok _).cons.behind
        · exact (Alike.ok _).behind
      · exact (Alike.ok _).behind
      · exact (Alike.ok _).behind
      · exact (Alike.ok _).behind
      · split
        · exact (Alike.ok _).behind
        · exact .error _
      · exact (h.closed hexpression .rightParen id).behind
      · split
        · exact (Alike.ok _).cons.behind
        · exact (h.closed hexpression .rightBracket fun inner => array (some inner)).behind
      · exact (h.name _ _ (by omega)).behind
      · exact .error _

/-- What follows a name is read alike by such readers. -/
theorem name_succ (name : String) (offset : Nat) {ls : List Lexeme}
    (hdepth : 16 * ls.length < depth + 1) :
    Alike ls (r.readName name offset ls) (s.readName name offset ls) := by
  rw [Reader.readName.eq_def, Reader.readName.eq_def]
  split
  · exact .ok _
  · split
    · exact .error _
    · split
      · rw [List.length_cons] at hdepth
        refine ((h.arguments (by omega)).alike.bind fun arguments after _ => ?_).cons
        dsimp only
        cases buildCall name arguments with
        | error e => exact .error e
        | ok q => exact .ok q
      · exact .ok _

/-- Arguments are read alike by such readers. -/
theorem arguments_succ {ls : List Lexeme} (hdepth : 16 * ls.length + 12 < depth + 1) :
    AlikeBehind ls (r.readArguments stop ls) (s.readArguments stop ls) := by
  refine (h.expression (by omega)).bind fun argument after hlt => ?_
  dsimp only
  split
  · rw [List.length_cons] at hlt
    exact ((h.arguments (by omega)).alike.bind fun more _ _ => .ok (argument :: more)).cons
  · exact .closed stop .rightParen _ _

/-- The bodies answer alike with one more level of calls. -/
theorem deepen : AnswersAlike (depth + 1) (r.deepen stop) (s.deepen stop) :=
  ⟨h.level_succ, h.rest_succ, h.suffixed_succ, h.suffixes_succ, h.bracket_succ, h.primary_succ,
    h.name_succ, h.arguments_succ⟩

end AnswersAlike

section Layers

variable (stop : Nat)

/-- No call is answered without a depth. -/
theorem answersAlike_zero (r s : Reader) : AnswersAlike 0 r s := by
  constructor
  case level =>
    intro level ls hdepth
    have hrank := level.rank_le
    omega
  all_goals
    intros
    omega

/-- The parser progresses within any bound: it agrees with itself. -/
theorem reader_answersAlike (fuel depth : Nat) :
    AnswersAlike depth (reader stop fuel) (reader stop fuel) := by
  induction fuel generalizing depth with
  | zero =>
      -- out of depth every function fails
      constructor
      all_goals
        intros
        exact .error _
  | succ fuel ih =>
      cases depth with
      | zero => exact answersAlike_zero _ _
      | succ depth =>
          rw [reader_succ]
          exact (ih depth).deepen

/-- Layers of bodies answer as the parser does, whatever they stand on. -/
theorem iterate_answersAlike (deepest : Reader) (depth : Nat) :
    AnswersAlike depth ((Reader.deepen stop)^[depth] deepest) (reader stop depth) := by
  induction depth with
  | zero => exact answersAlike_zero _ _
  | succ depth ih =>
      rw [Function.iterate_succ_apply', reader_succ]
      exact ih.deepen

end Layers

/-! ## The end of the parser -/

/-- Two readers give the same answers on some lexemes. -/
structure Reader.SameOn (ls : List Lexeme) (r s : Reader) : Prop where
  level : ∀ level, r.level level ls = s.level level ls
  rest : ∀ level left, r.rest level left ls = s.rest level left ls
  suffixed : r.suffixed ls = s.suffixed ls
  suffixes : ∀ target, r.suffixes target ls = s.suffixes target ls
  bracket : ∀ target, r.bracket target ls = s.bracket target ls
  primary : r.primary ls = s.primary ls
  name : ∀ name offset, r.name name offset ls = s.name name offset ls
  arguments : r.arguments ls = s.arguments ls

/-- Readers that answer alike down to the bound of a text read that text alike. -/
theorem AnswersAlike.sameOn {depth : Nat} {ls : List Lexeme} {r s : Reader}
    (h : AnswersAlike depth r s) (hdepth : nestingBound ls ≤ depth) : r.SameOn ls s := by
  rw [nestingBound] at hdepth
  exact {
    level := fun level => (h.level level (by omega)).1
    rest := fun level left => (h.rest level left (by omega)).1
    suffixed := (h.suffixed (by omega)).1
    suffixes := fun target => (h.suffixes target (by omega)).1
    bracket := fun target => (h.bracket target (by omega)).1
    primary := (h.primary (by omega)).1
    name := fun name offset => (h.name name offset (by omega)).1
    arguments := (h.arguments (by omega)).1 }

/-- On some lexemes a nesting within the bound suffices, whatever would answer deeper calls. -/
theorem sameOn_iterate (stop : Nat) (deepest : Reader) {ls : List Lexeme} {depth : Nat}
    (hdepth : nestingBound ls ≤ depth) :
    ((Reader.deepen stop)^[depth] deepest).SameOn ls (reader stop (nestingBound ls)) := by
  rcases Nat.exists_eq_add_of_le hdepth with ⟨deeper, rfl⟩
  rw [Function.iterate_add_apply]
  exact (iterate_answersAlike stop _ (nestingBound ls)).sameOn le_rfl

/-! ## Positions -/

/-- What is left of some lexemes stands from a position on that is behind another one. -/
def LeftBehind (all : List Lexeme) (start : Nat) (rest : List Lexeme) : Prop :=
  ∃ finish, start < finish ∧ finish ≤ all.length ∧ rest = all.drop finish

/--
What is left of some lexemes stands from a position on that is not before another one, nor behind
the end unless that one is.
-/
def LeftFrom (all : List Lexeme) (start : Nat) (rest : List Lexeme) : Prop :=
  ∃ finish, start ≤ finish ∧ finish ≤ max start all.length ∧ rest = all.drop finish

/-- An end of what stands from a position on stands from a later position on. -/
theorem exists_eq_drop {all rest : List Lexeme} {start : Nat} (h : rest <:+ all.drop start) :
    ∃ count, count + rest.length = all.length - start ∧ rest = all.drop (start + count) := by
  have hle := h.length_le
  have heq := List.suffix_iff_eq_drop.1 h
  rw [List.length_drop] at hle heq
  rw [List.drop_drop] at heq
  exact ⟨all.length - start - rest.length, by omega, heq⟩

theorem leftFrom_of_suffix {all rest : List Lexeme} {start : Nat} (h : rest <:+ all.drop start) :
    LeftFrom all start rest := by
  rcases exists_eq_drop h with ⟨count, hcount, hrest⟩
  exact ⟨start + count, by omega, by omega, hrest⟩

/-- A proper end stands behind the position. -/
theorem leftBehind_of_suffix {all rest : List Lexeme} {start : Nat} (h : rest <:+ all.drop start)
    (hlt : rest.length < (all.drop start).length) : LeftBehind all start rest := by
  rcases exists_eq_drop h with ⟨count, hcount, hrest⟩
  rw [List.length_drop] at hlt
  exact ⟨start + count, by omega, by omega, hrest⟩

/--
Where the functions of a reader and the turns of its loops end that begin at a position of some
lexemes: a name and the loops, which may read nothing more, from that position on, and all else
behind it.
-/
structure Reader.AdvancesFrom (all : List Lexeme) (start : Nat) (r : Reader) : Prop where
  level : ∀ level q rest, r.level level (all.drop start) = .ok (q, rest) →
    LeftBehind all start rest
  suffixed : ∀ q rest, r.suffixed (all.drop start) = .ok (q, rest) → LeftBehind all start rest
  bracket : ∀ target q rest, r.bracket target (all.drop start) = .ok (q, rest) →
    LeftBehind all start rest
  primary : ∀ q rest, r.primary (all.drop start) = .ok (q, rest) → LeftBehind all start rest
  name : ∀ name offset q rest, r.name name offset (all.drop start) = .ok (q, rest) →
    LeftFrom all start rest
  arguments : ∀ qs rest, r.arguments (all.drop start) = .ok (qs, rest) → LeftBehind all start rest
  rest : ∀ level left q rest, r.rest level left (all.drop start) = .ok (q, rest) →
    LeftFrom all start rest
  suffixes : ∀ target q rest, r.suffixes target (all.drop start) = .ok (q, rest) →
    LeftFrom all start rest
  operatorTurn : ∀ level left next after,
    r.operatorTurn level left (all.drop start) = .ok (some (next, after)) →
      LeftBehind all start after
  suffixTurn : ∀ target next after,
    r.suffixTurn target (all.drop start) = .ok (some (next, after)) → LeftBehind all start after

section Ends

variable {α : Type} {all rest : List Lexeme} {start : Nat} {a : α}

theorem Alike.leftFrom {x : Except Error (α × List Lexeme)} (h : Alike (all.drop start) x x)
    (hx : x = .ok (a, rest)) : LeftFrom all start rest :=
  leftFrom_of_suffix (h.2 _ hx)

theorem AlikeBehind.leftBehind {x : Except Error (α × List Lexeme)}
    (h : AlikeBehind (all.drop start) x x) (hx : x = .ok (a, rest)) : LeftBehind all start rest :=
  leftBehind_of_suffix (h.2 _ hx).1 (h.2 _ hx).2

theorem TurnsAlike.leftBehind {x : Except Error (Option (α × List Lexeme))}
    (h : TurnsAlike (all.drop start) x x) (hx : x = .ok (some (a, rest))) :
    LeftBehind all start rest :=
  leftBehind_of_suffix (h.2 _ hx).1 (h.2 _ hx).2

end Ends

/-- The functions of the parser, with any fuel, go on in the text. -/
theorem reader_advancesFrom (stop fuel : Nat) (all : List Lexeme) (start : Nat) :
    (reader stop fuel).AdvancesFrom all start := by
  -- a depth for all calls on what begins at the position
  have h := reader_answersAlike stop fuel (nestingBound (all.drop start))
  have hdepth : nestingBound (all.drop start) = 16 * ((all.drop start).length + 1) := rfl
  exact {
    level := fun level _ _ => (h.level level (by omega)).leftBehind
    suffixed := fun _ _ => (h.suffixed (by omega)).leftBehind
    bracket := fun target _ _ => (h.bracket target (by omega)).leftBehind
    primary := fun _ _ => (h.primary (by omega)).leftBehind
    name := fun name offset _ _ => (h.name name offset (by omega)).leftFrom
    arguments := fun _ _ => (h.arguments (by omega)).leftBehind
    rest := fun level left _ _ => (h.rest level left (by omega)).leftFrom
    suffixes := fun target _ _ => (h.suffixes target (by omega)).leftFrom
    operatorTurn := fun level left _ _ => (h.operatorTurn level left (by omega)).leftBehind
    suffixTurn := fun target _ _ => (h.suffixTurn target (by omega)).leftBehind }

/--
The parser comes to an end and reads on. Its functions are layers of their bodies, and on the
lexemes from a position on the answers of all of them are the same whatever stands below as many
layers as the bound counts: no call nests more deeply. What they leave if they succeed, and what
each turn of a loop leaves to the next, stands behind the position; only a name, which may be read
without arguments, and the loops, which may take no turn, can leave all that they begin with.
-/
theorem parsing_ends_and_advances (stop : Nat) (all : List Lexeme) (start : Nat) :
    (∀ fuel, reader stop fuel = (Reader.deepen stop)^[fuel] (reader stop 0)) ∧
      (∀ (deepest : Reader) (depth : Nat), nestingBound (all.drop start) ≤ depth →
        ((Reader.deepen stop)^[depth] deepest).SameOn (all.drop start)
          (reader stop (nestingBound (all.drop start)))) ∧
      ∀ fuel, (reader stop fuel).AdvancesFrom all start :=
  ⟨reader_eq_iterate stop, fun deepest _ hdepth => sameOn_iterate stop deepest hdepth,
    fun fuel => reader_advancesFrom stop fuel all start⟩

/-- A reader that answers every call at once and reads nothing. -/
def idleReader : Reader where
  level := fun _ ls => .ok (.identity, ls)
  rest := fun _ left ls => .ok (left, ls)
  suffixed := fun ls => .ok (.identity, ls)
  suffixes := fun target ls => .ok (target, ls)
  bracket := fun target ls => .ok (target, ls)
  primary := fun ls => .ok (.identity, ls)
  name := fun _ _ ls => .ok (.identity, ls)
  arguments := fun ls => .ok ([], ls)

/-- The lexemes of a negated member in a sum; a point of its own stands before the bracket. -/
def negatedMember : List Lexeme :=
  [⟨.ident "not", 0⟩, ⟨.dot, 4⟩, ⟨.dot, 6⟩, ⟨.leftBracket, 7⟩, ⟨.str "a", 8⟩, ⟨.rightBracket, 11⟩,
    ⟨.question, 12⟩, ⟨.operator .add, 14⟩, ⟨.dot, 16⟩]

/-- The bound, the loops and their places for a short query. -/
theorem parsing_ends_and_advances_of_negatedMember :
    nestingBound (negatedMember.drop 1) ≤ 200 ∧
      ((Reader.deepen 17)^[200] idleReader).suffixed (negatedMember.drop 1) =
        parsePostfix 17 (nestingBound (negatedMember.drop 1)) (negatedMember.drop 1) ∧
      parsePostfix 17 (nestingBound (negatedMember.drop 1)) (negatedMember.drop 1) =
        .ok (.optional (.index .identity (.literal (.string "a"))), negatedMember.drop 7) ∧
      LeftBehind negatedMember 1 (negatedMember.drop 7) ∧
      (reader 17 100).suffixTurn .identity (negatedMember.drop 2) =
        .ok (some (.identity, negatedMember.drop 3)) ∧
      LeftBehind negatedMember 2 (negatedMember.drop 3) := by
  have hbound : nestingBound (negatedMember.drop 1) ≤ 200 := by decide
  have hread : parsePostfix 17 (nestingBound (negatedMember.drop 1)) (negatedMember.drop 1) =
      .ok (.optional (.index .identity (.literal (.string "a"))), negatedMember.drop 7) := rfl
  have hturn : (reader 17 100).suffixTurn .identity (negatedMember.drop 2) =
      .ok (some (.identity, negatedMember.drop 3)) := rfl
  rcases parsing_ends_and_advances 17 negatedMember 1 with ⟨_, hends, hadvances⟩
  have hnext := (parsing_ends_and_advances 17 negatedMember 2).2.2 100
  exact ⟨hbound, (hends idleReader 200 hbound).suffixed, hread,
    (hadvances (nestingBound (negatedMember.drop 1))).suffixed _ _ hread, hturn,
    hnext.suffixTurn _ _ _ hturn⟩

end Query
end Gleaner
