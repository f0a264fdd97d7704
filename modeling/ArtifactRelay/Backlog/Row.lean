import ArtifactRelay.Backlog.Medium
import ArtifactRelay.WorkItem.Basic

/-!
# ArtifactRelay.Backlog.Row

One row of the backlog: a work item as a medium keeps it.  A row made by the
backlog always reads back; one that was changed behind its back may not, so the
state is kept by its name, instants by their stamps and numbers in cells.

* `isClaimable` — a worker may take the item at an instant;
* `isActive` — the item's content counts as forwarded or under way;
* `claim`, `register`, `conclude` — the three changes of a row;
* `read` — the work item of a row.
-/

namespace ArtifactRelay.Backlog

open Time

/-- A work item as a medium keeps it. -/
structure Row (σ : Type) where
  id : Int
  eventType : String
  sourceIp : String
  filenameHint : Option String
  storedNameHint : Option String
  loggedHash : Option String
  status : String
  leaseUntil : Option σ
  claimedBy : Option String
  attempts : Cell
  retryAfter : Option σ
  contentHash : Option String
  taskRef : Cell
  engineResponse : Option String
  duplicateOf : Option String
  lastError : Option String
  createdAt : σ
  updatedAt : σ

/-- An analysis record as a medium keeps it. -/
structure Report (σ : Type) where
  contentHash : String
  taskRef : Option Int
  reportedAt : σ

namespace Row

variable {σ : Type}

/-- The row of a fresh observation. -/
def ofObservation (id : Int) (now : σ) (o : Observation) : Row σ where
  id := id
  eventType := o.eventType
  sourceIp := o.sourceIp
  filenameHint := o.filenameHint
  storedNameHint := o.storedNameHint
  loggedHash := o.loggedHash
  status := Status.pending.name
  leaseUntil := none
  claimedBy := none
  attempts := .whole 0
  retryAfter := none
  contentHash := none
  taskRef := .null
  engineResponse := none
  duplicateOf := none
  lastError := none
  createdAt := now
  updatedAt := now

/-- Whether the row is in a state. -/
def isIn (r : Row σ) (s : Status) : Bool := r.status == s.name

/-- Whether a worker holds the row. -/
def isHeldBy (r : Row σ) (worker : String) : Bool :=
  r.isIn .claimed && r.claimedBy == some worker

/-- The row under a claim. -/
def claim (worker : String) (expiry now : σ) (r : Row σ) : Row σ :=
  { r with
    status := Status.claimed.name
    leaseUntil := some expiry
    claimedBy := some worker
    attempts := r.attempts.next
    retryAfter := none
    updatedAt := now }

/-- The row with a content hash; the first one stays. -/
def register (hash : String) (now : σ) (r : Row σ) : Row σ :=
  { r with
    contentHash := some (r.contentHash.getD hash)
    updatedAt := now }

/-- The row after its claim ended with an outcome. -/
def conclude (outcome : Outcome) (retryAfter : Option σ) (now : σ) (r : Row σ) : Row σ :=
  let free : Row σ :=
    { r with
      status := outcome.target.name
      leaseUntil := none
      claimedBy := none
      updatedAt := now }
  match outcome with
  | .forwarded taskRef response contentHash =>
    { free with
      retryAfter := none
      taskRef := taskRef.elim .null .whole
      engineResponse := some response
      contentHash := r.contentHash <|> contentHash
      lastError := none }
  | .dead reason duplicateOf =>
    { free with
      retryAfter := none
      lastError := some reason
      duplicateOf := duplicateOf }
  | .retry reason =>
    { free with
      retryAfter := retryAfter
      lastError := some reason }

section

variable (m : Medium) (r : Row m.Stamp)

/-- Whether a worker may take the row: an observed artifact that waits and has no backoff left,
or whose lease has ended. -/
def isClaimable (now : m.Stamp) : Bool :=
  r.eventType == artifactObserved &&
    ((r.isIn .pending && r.retryAfter.all (m.atMost · now)) ||
      (r.isIn .claimed && r.leaseUntil.any (m.below · now)))

/-- Whether the row's content was forwarded, or is under way with a lease that still runs. -/
def isActive (now : m.Stamp) : Bool :=
  r.isIn .forwarded || (r.isIn .claimed && r.leaseUntil.any (m.atMost now ·))

/-- Whether the row makes `hash` a duplicate for the row `id`: another row with that content,
active, and changed at or after `since`. -/
def duplicates (id : Int) (hash : String) (now : m.Stamp) (since : Option m.Stamp) : Bool :=
  r.contentHash == some hash && r.id != id && r.isActive m now &&
    since.all (m.atMost · r.updatedAt)

/-- The work item of a row. -/
def read : Except Error WorkItem := do
  let some status := Status.ofName? r.status | .error (m.unknownStatus r.status)
  let some attempts := m.count? r.attempts | .error m.refusal
  let leaseUntil ← m.instantOption r.leaseUntil
  let retryAfter ← m.instantOption r.retryAfter
  let createdAt ← m.instant r.createdAt
  let updatedAt ← m.instant r.updatedAt
  let taskRef ← m.number r.taskRef
  return {
    id := r.id
    eventType := r.eventType
    sourceIp := r.sourceIp
    filenameHint := r.filenameHint
    storedNameHint := r.storedNameHint
    loggedHash := r.loggedHash
    status := status
    leaseUntil := leaseUntil
    claimedBy := r.claimedBy
    attempts := attempts
    retryAfter := retryAfter
    contentHash := r.contentHash
    taskRef := taskRef
    engineResponse := r.engineResponse
    duplicateOf := r.duplicateOf
    lastError := r.lastError
    createdAt := createdAt
    updatedAt := updatedAt }

end

end Row

/-- Whether a report of `hash` was made at or after `since`. -/
def Report.duplicates (m : Medium) (r : Report m.Stamp) (hash : String)
    (since : Option m.Stamp) : Bool :=
  r.contentHash == hash && since.all (m.atMost · r.reportedAt)

end ArtifactRelay.Backlog
