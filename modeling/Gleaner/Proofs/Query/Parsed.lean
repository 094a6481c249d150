import Gleaner.Proofs.Query.Parsing
import Gleaner.Proofs.Query.Parts
import Gleaner.Proofs.Sequencing
/-!
# Parsed queries

Whatever text the parser accepts, the query it gives can be run.

* `Runnable` queries call functions with their number of arguments, and their literals are scalars;
* `GivesRunnable` says of every function of the parser that it gives such queries, and is proved by
  induction on the depth of its recursion: each function is one lemma about one more step;
* `runnable_of_read` is the result.
-/

namespace Gleaner
namespace Query

/-- A value that is neither an array nor an object. -/
def IsScalar : Json → Prop
  | .array _ | .object _ => False
  | _ => True

/-- Every query inside has a form that can be run, and every literal is a scalar. -/
def Runnable (q : Query) : Prop :=
  q.Throughout IsScalar

theorem Runnable.intro {q : Query} (hfits : q.Fits IsScalar) (hparts : ∀ p ∈ q.parts, p.Runnable) :
    q.Runnable :=
  throughout_iff.2 ⟨hfits, hparts⟩

theorem Runnable.leaf {q : Query} (hfits : q.Fits IsScalar) (hparts : q.parts = []) : q.Runnable :=
  .intro hfits (by simp [hparts])

theorem runnable_build {op : Binary} {left right : Query} (hl : left.Runnable)
    (hr : right.Runnable) : (op.build left right).Runnable := by
  cases op <;> exact .intro trivial (by simp [parts, Binary.build, hl, hr])

/-- The parser's functions give queries that can be run, when they recurse within a bound. -/
structure GivesRunnable (stop fuel : Nat) : Prop where
  level : ∀ {level ls q rest}, parseLevel stop fuel level ls = .ok (q, rest) → q.Runnable
  rest : ∀ {level left ls q rest}, left.Runnable →
    parseRest stop fuel level left ls = .ok (q, rest) → q.Runnable
  suffixed : ∀ {ls q rest}, parsePostfix stop fuel ls = .ok (q, rest) → q.Runnable
  suffixes : ∀ {target ls q rest}, target.Runnable →
    parseSuffixes stop fuel target ls = .ok (q, rest) → q.Runnable
  bracket : ∀ {target ls q rest}, target.Runnable →
    parseBracket stop fuel target ls = .ok (q, rest) → q.Runnable
  primary : ∀ {ls q rest}, parsePrimary stop fuel ls = .ok (q, rest) → q.Runnable
  name : ∀ {name offset ls q rest}, parseName stop fuel name offset ls = .ok (q, rest) →
    q.Runnable
  arguments : ∀ {ls qs rest}, parseArguments stop fuel ls = .ok (qs, rest) →
    ∀ q ∈ qs, q.Runnable

namespace GivesRunnable

variable {stop fuel : Nat} (ih : GivesRunnable stop fuel)

include ih

/-- Reading a level gives a runnable query if the functions it calls do. -/
theorem level_succ {level : Level} {ls rest : List Lexeme} {q : Query}
    (h : parseLevel stop (fuel + 1) level ls = .ok (q, rest)) : q.Runnable := by
  by_cases hlevel : level = .unary
  · -- a minus sign, the negation word, or a target
    subst hlevel
    cases ls with
    | nil => exact ih.suffixed h
    | cons l ls =>
        rw [parseLevel] at h
        split at h
        · rcases Except.bind_eq_ok_iff.1 h with ⟨⟨inner, after⟩, hinner, hq⟩
          cases hq
          exact .intro trivial (by simpa [parts] using ih.level hinner)
        · split at h
          · split at h
            · rcases Except.bind_eq_ok_iff.1 h with ⟨⟨inner, after⟩, hinner, hq⟩
              cases hq
              exact .intro trivial (by simpa [parts] using ih.level hinner)
            · cases h
              have hidentity : identity.Runnable := .leaf trivial rfl
              exact .intro trivial (by simpa [parts] using hidentity)
          · exact ih.suffixed h
  · -- on every other level an operand of the next one comes first
    rw [parseLevel_next hlevel] at h
    rcases Except.bind_eq_ok_iff.1 h with ⟨⟨left, after⟩, hleft, hq⟩
    exact ih.rest (ih.level hleft) hq

/-- The rest of a level keeps what has been read runnable. -/
theorem rest_succ {level : Level} {ls rest : List Lexeme} {left q : Query}
    (hleft : left.Runnable) (h : parseRest stop (fuel + 1) level left ls = .ok (q, rest)) :
    q.Runnable := by
  cases ls with
  | nil =>
      cases h
      exact hleft
  | cons l ls =>
      rw [parseRest] at h
      split at h
      · cases h
        exact hleft
      · rcases Except.bind_eq_ok_iff.1 h with ⟨⟨right, after⟩, hright, hq⟩
        have hbuild : ∀ op : Binary, (op.build left right).Runnable :=
          fun op => runnable_build hleft (ih.level hright)
        dsimp only at hq
        split at hq
        · exact ih.rest (hbuild _) hq
        · cases hq
          exact hbuild _

theorem suffixed_succ {ls rest : List Lexeme} {q : Query}
    (h : parsePostfix stop (fuel + 1) ls = .ok (q, rest)) : q.Runnable := by
  rw [parsePostfix] at h
  rcases Except.bind_eq_ok_iff.1 h with ⟨⟨target, after⟩, htarget, hq⟩
  exact ih.suffixes (ih.primary htarget) hq

/-- Suffixes keep their target runnable. -/
theorem suffixes_succ {ls rest : List Lexeme} {target q : Query} (htarget : target.Runnable)
    (h : parseSuffixes stop (fuel + 1) target ls = .ok (q, rest)) : q.Runnable := by
  cases ls with
  | nil =>
      cases h
      exact htarget
  | cons l ls =>
      -- one case for each token that a selection begins with
      rw [parseSuffixes.eq_def] at h
      dsimp only at h
      split at h
      · refine ih.suffixes ?_ h
        exact .intro trivial (by simpa [parts] using htarget)
      · split at h
        · exact ih.suffixes htarget h
        · refine ih.suffixes ?_ h
          exact .intro trivial (by simpa [parts] using htarget)
        · cases h
          exact htarget
      · rcases Except.bind_eq_ok_iff.1 h with ⟨⟨selected, after⟩, hselected, hq⟩
        exact ih.suffixes (ih.bracket htarget hselected) hq
      · refine ih.suffixes ?_ h
        exact .intro trivial (by simpa [parts] using htarget)
      · cases h
        exact htarget

/-- Brackets keep their target runnable. -/
theorem bracket_succ {ls rest : List Lexeme} {target q : Query} (htarget : target.Runnable)
    (h : parseBracket stop (fuel + 1) target ls = .ok (q, rest)) : q.Runnable := by
  rw [parseBracket.eq_def] at h
  split at h
  · cases h
  · cases h
    exact .intro trivial (by simpa [parts] using htarget)
  · -- a range without a low end has a high one
    rename_i heq
    cases heq
    rcases Except.bind_eq_ok_iff.1 h with ⟨⟨high, after⟩, hhigh, hq⟩
    rcases Except.bind_eq_ok_iff.1 hq with ⟨after', _, hq⟩
    cases hq
    exact .intro (.inr rfl) (by simp [parts, htarget, ih.level hhigh])
  · rename_i heq _ _
    cases heq
    rcases Except.bind_eq_ok_iff.1 h with ⟨⟨position, after⟩, hposition, hq⟩
    have hpart := ih.level hposition
    -- a range with a low end only, a range with both, or an index
    dsimp only at hq
    split at hq
    · cases hq
      exact .intro (.inl rfl) (by simp [parts, htarget, hpart])
    · rcases Except.bind_eq_ok_iff.1 hq with ⟨⟨high, after⟩, hhigh, hq⟩
      rcases Except.bind_eq_ok_iff.1 hq with ⟨after', _, hq⟩
      cases hq
      exact .intro (.inl rfl) (by simp [parts, htarget, hpart, ih.level hhigh])
    · rcases Except.bind_eq_ok_iff.1 hq with ⟨after', _, hq⟩
      cases hq
      exact .intro trivial (by simp [parts, htarget, hpart])

/-- Reading a primary gives a runnable query if the functions it calls do. -/
theorem primary_succ {ls rest : List Lexeme} {q : Query}
    (h : parsePrimary stop (fuel + 1) ls = .ok (q, rest)) : q.Runnable := by
  have hidentity : identity.Runnable := .leaf trivial rfl
  have hmember : ∀ name, (field .identity name).Runnable := fun name =>
    .intro trivial (by simpa [parts] using hidentity)
  cases ls with
  | nil => cases h
  | cons l ls =>
      -- one case for each token that a primary expression begins with
      rw [parsePrimary.eq_def] at h
      dsimp only at h
      split at h
      · split at h
        · cases h
          exact hmember _
        · cases h
          exact hidentity
      · cases h
        exact .leaf trivial rfl
      · cases h
        exact hmember _
      · cases h
        exact .leaf trivial rfl
      · split at h
        · cases h
          exact .leaf trivial rfl
        · cases h
      · rcases Except.bind_eq_ok_iff.1 h with ⟨⟨inner, after⟩, hinner, hq⟩
        rcases Except.bind_eq_ok_iff.1 hq with ⟨after', _, hq⟩
        cases hq
        exact ih.level hinner
      · split at h
        · cases h
          exact .leaf trivial rfl
        · rcases Except.bind_eq_ok_iff.1 h with ⟨⟨inner, after⟩, hinner, hq⟩
          rcases Except.bind_eq_ok_iff.1 hq with ⟨after', _, hq⟩
          cases hq
          exact .intro trivial (by simpa [parts] using ih.level hinner)
      · exact ih.name h
      · cases h

omit ih in
/-- A name by itself makes a runnable query. -/
theorem runnable_buildName (name : String) : (buildName name).Runnable := by
  have hidentity : identity.Runnable := .leaf trivial rfl
  unfold buildName
  split
  · exact .leaf trivial rfl
  · split
    · exact .leaf trivial rfl
    · split
      · exact .leaf trivial rfl
      · split
        · rename_i f hf
          exact .leaf (arity_of_find? hf).symm rfl
        · exact .intro trivial (by simpa [parts] using hidentity)

omit ih in
/-- A call is only built with as many arguments as its function takes. -/
theorem runnable_buildCall {name : String} {arguments : List Query} {q : Query}
    (harguments : ∀ p ∈ arguments, p.Runnable) (h : buildCall name arguments = .ok q) :
    q.Runnable := by
  unfold buildCall at h
  split at h
  · split at h
    · cases h
      exact .intro trivial harguments
    · split at h
      · rename_i f hf
        cases h
        exact .intro (arity_of_find? hf).symm harguments
      · cases h
  · cases h

theorem name_succ {name : String} {offset : Nat} {ls rest : List Lexeme} {q : Query}
    (h : parseName stop (fuel + 1) name offset ls = .ok (q, rest)) : q.Runnable := by
  rw [parseName.eq_def] at h
  dsimp only at h
  split at h
  · cases h
    exact runnable_buildName name
  · split at h
    · cases h
    · split at h
      · rcases Except.bind_eq_ok_iff.1 h with ⟨⟨arguments, after⟩, harguments, hq⟩
        rcases Except.bind_eq_ok_iff.1 hq with ⟨q', hbuild, hq⟩
        cases hq
        exact runnable_buildCall (ih.arguments harguments) hbuild
      · cases h
        exact runnable_buildName name

theorem arguments_succ {ls rest : List Lexeme} {qs : List Query}
    (h : parseArguments stop (fuel + 1) ls = .ok (qs, rest)) : ∀ q ∈ qs, q.Runnable := by
  rw [parseArguments] at h
  rcases Except.bind_eq_ok_iff.1 h with ⟨⟨argument, after⟩, hargument, hq⟩
  have hpart := ih.level hargument
  dsimp only at hq
  split at hq
  · rcases Except.bind_eq_ok_iff.1 hq with ⟨⟨arguments, after⟩, harguments, hq⟩
    cases hq
    exact List.forall_mem_cons.2 ⟨hpart, ih.arguments harguments⟩
  · rcases Except.bind_eq_ok_iff.1 hq with ⟨after', _, hq⟩
    cases hq
    simpa using hpart

end GivesRunnable

/-- All functions of the parser give runnable queries, by induction on the fuel. -/
theorem givesRunnable (stop fuel : Nat) : GivesRunnable stop fuel := by
  induction fuel with
  | zero => constructor <;> nofun
  | succ fuel ih =>
      exact ⟨ih.level_succ, ih.rest_succ, ih.suffixed_succ, ih.suffixes_succ, ih.bracket_succ,
        ih.primary_succ, ih.name_succ, ih.arguments_succ⟩

/-- Every query that is read from a text can be run. -/
theorem runnable_of_read {source : String} {q : Query} (h : read source = .ok q) :
    q.Runnable := by
  rcases Except.bind_eq_ok_iff.1 h with ⟨ls, _, hls⟩
  unfold ofLexemes at hls
  split at hls
  · cases hls
  · rcases Except.bind_eq_ok_iff.1 hls with ⟨⟨q', rest⟩, hparse, hq⟩
    dsimp only at hq
    split at hq
    · cases hq
      exact (givesRunnable _ _).level hparse
    · cases hq

end Query
end Gleaner
