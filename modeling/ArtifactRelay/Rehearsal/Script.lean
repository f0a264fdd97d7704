import ArtifactRelay.Artifact.FileTree.Change
import ArtifactRelay.Backlog.Overwrite
import ArtifactRelay.Backlog.Tables
import ArtifactRelay.Worker.Cycle

/-!
# ArtifactRelay.Rehearsal.Script

Scripts of rehearsals.  A rehearsal plays operations one after the other on one
database, one artifact directory and one engine, whose replies the script fixes
beforehand.  What other workers do while a submission is under way is written
into the reply that ends it (`Scripted.during`), so a script fixes every
interleaving that it wants to see.

* `Operation` — one step of a script;
* `Answer` — what a step answers;
* `Submission` — one submission of a worker, with the answers of what happened
  meanwhile.
-/

namespace ArtifactRelay.Rehearsal

open Time

/-- An operation of the backlog that a fault can be put on. -/
inductive Method
  | claim
  | registerHash
  | record
  deriving DecidableEq, Repr

/-- The reply to a submission, and what happens before it comes. -/
structure Scripted (α : Type) where
  during : List α
  result : Except Engine.Fault String

/-- The body of the reply that accepts a submission, when a script says nothing else. -/
def acceptance : String := "\x7b\"data\":\x7b\"task_ids\":[41]\x7d\x7d"

/-- One step of a script.  Operations on the backlog name the handle that they use. -/
inductive Operation
  | setClock (t : Instant)
  | advanceClock (d : Span)
  | enqueue (handle : String) (o : Observation)
  | claim (handle worker : String) (now : Option Instant) (lease : Span)
  | registerHash (handle : String) (id : Int) (hash : String) (now since : Option Instant)
  | record (handle : String) (id : Int) (worker : String) (outcome : Outcome)
      (retryAfter : Option Instant)
  | get (handle : String) (id : Int)
  | list (handle : String) (status : Option String) (limit : Int)
  | health (handle : String)
  | report (handle contentHash : String) (taskRef : Option Int) (reportedAt : Option Instant)
  | checkContent (handle : String) (id : Int) (content : Artifact.Content)
      (window : Dedup.Window)
  | recordOutcome (handle : String) (id : Int) (worker : String) (policy : RetryPolicy)
      (outcome : Outcome)
  | replies (replies : List (Scripted Operation))
  /-- A fault on an operation, whatever handle it uses. -/
  | fault (method : Method) (error : Error) (times : Option Nat)
  | putFile (name : Artifact.Name) (node : Artifact.Node)
  | removeFile (name : Artifact.Name)
  | openHandle (name : String) (tables : Tables)
  /-- Overwrites a column of a row of the tables that the script started with. -/
  | overwrite (id : Int) (column : String) (cell : Backlog.Cell)
  | process (handle : String) (id : Int) (worker : Worker)
  /-- One cycle of a worker, which may be told to stop before it starts. -/
  | cycle (handle : String) (worker : Worker) (isStopped : Bool)
  /-- Cycles until the worker is stopped, which happens after `idle` claims in vain; each of
  them moves the clock. -/
  | run (handle : String) (worker : Worker) (isStopped : Bool) (idle : Nat) (idleAdvance : Span)
  | shutdown

/-- A submission of a worker, with the answers of what happened meanwhile. -/
structure Submission (α : Type) where
  path : Artifact.Name
  displayName : String
  during : List α

/-- What a step answers. -/
inductive Answer
  | failed (e : Error)
  | done
  | clock (t : Instant)
  | item (i : WorkItem)
  | claimed (i : Option WorkItem)
  | duplicate (isDuplicate : Bool)
  | items (is : List WorkItem)
  | verdict (v : Dedup.Verdict)
  | recorded (o : Outcome) (i : WorkItem)
  | processed (o : Outcome) (submissions : List (Submission Answer))
  | cycled (ended : Except Error Nat) (submissions : List (Submission Answer))
  | stopped (worker : String) (submissions : List (Submission Answer))

mutual

/-- How many replies an operation scripts, those within replies included. -/
def Operation.replyCount : Operation → Nat
  | .replies list => replyCountAll list
  | _ => 0

/-- How many replies a list holds, those within them included. -/
def replyCountAll : List (Scripted Operation) → Nat
  | [] => 0
  | r :: rs => 1 + replyCountOf r + replyCountAll rs

/-- How many replies are scripted while a reply is waited for. -/
def replyCountOf : Scripted Operation → Nat
  | ⟨during, _⟩ => replyCountDuring during

/-- How many replies a list of operations scripts. -/
def replyCountDuring : List Operation → Nat
  | [] => 0
  | op :: ops => op.replyCount + replyCountDuring ops

end

end ArtifactRelay.Rehearsal
