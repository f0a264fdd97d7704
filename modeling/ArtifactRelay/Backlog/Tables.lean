import ArtifactRelay.Error

/-!
# ArtifactRelay.Backlog.Tables

The names of the two tables of a database: the backlog of work items and the
results that the engine's side reports.  The names become part of statements, so
only plain identifiers pass `Tables.check`.
-/

namespace ArtifactRelay

/-- The names of the two tables. -/
structure Tables where
  backlog : String
  results : String
  deriving DecidableEq, Repr

namespace Tables

/-- The names that are taken when none are given. -/
def standard : Tables := ⟨"artifact_events", "analysis_results"⟩

/-- A character of a plain identifier. -/
def isNameChar (c : Char) : Bool :=
  c.isAlphanum || c == '_'

/-- A plain identifier: 1 to 63 letters, digits and underscores, no digit first. -/
def isName (name : String) : Bool :=
  let cs := name.toList
  cs.all isNameChar && !cs.isEmpty && decide (cs.length ≤ 63) && !cs.head?.any Char.isDigit

/-- Whether the names can be used. -/
def check (t : Tables) : Except Error Unit :=
  if !isName t.backlog then .error (.config (.invalidTableName t.backlog))
  else if !isName t.results then .error (.config (.invalidTableName t.results))
  else if t.backlog = t.results then .error (.config .tablesCoincide)
  else .ok ()

/-- Exactly two different plain identifiers pass. -/
theorem check_eq_ok_iff {t : Tables} :
    t.check = .ok () ↔
      isName t.backlog = true ∧ isName t.results = true ∧ t.backlog ≠ t.results := by
  unfold check
  by_cases hb : isName t.backlog = true <;> by_cases hr : isName t.results = true <;>
    by_cases he : t.backlog = t.results <;> simp [hb, hr, he]

end Tables

end ArtifactRelay
