import ArtifactRelay.WorkItem.Status

/-!
# ArtifactRelay.WorkItem.Outcome

What became of a claimed item.  An outcome decides the state that the item ends
in and the label under which it is counted.
-/

namespace ArtifactRelay

/-- What became of a claimed item. -/
inductive Outcome
  /-- Accepted by the engine. -/
  | forwarded (taskRef : Option Int) (response : String) (contentHash : Option String)
  /-- Never to be forwarded; with the hash it duplicates, if that is why. -/
  | dead (reason : String) (duplicateOf : Option String)
  /-- Failed for now; the item goes back to pending. -/
  | retry (reason : String)
  deriving DecidableEq, Repr

namespace Outcome

/-- The state in which an item ends by the outcome. -/
def target : Outcome → Status
  | forwarded .. => .forwarded
  | dead .. => .dead
  | retry .. => .pending

/-- The label under which the outcome is counted. -/
def label : Outcome → String
  | forwarded .. => "forwarded"
  | dead _ (some _) => "duplicate"
  | dead _ none => "dead"
  | retry .. => "retry"

/-- Every outcome is one that a claimed item may reach. -/
theorem canBecome_target (o : Outcome) : Status.claimed.canBecome o.target = true := by
  cases o <;> rfl

end Outcome

end ArtifactRelay
