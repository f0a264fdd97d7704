import ArtifactRelay.Backlog.Row

/-!
# ArtifactRelay.Backlog.Store

The backlog and the results beside it, and what may be asked of them.  Every
operation is one step: it answers, and it leaves the store that later operations
see.  An operation is first prepared, which may fail and then changes nothing;
once it is prepared it takes effect, and its answer is read from the changed rows.

* `enqueue` adds an observation as a pending item;
* `claimNext` hands the oldest claimable item to a worker, under a lease;
* `registerHash` sets the content hash of an item and tells whether the content
  is a duplicate;
* `record` ends a claim with an outcome, for the worker that holds it;
* `get` and `list` read items, `report` adds an analysis record.
-/

namespace ArtifactRelay.Backlog

open Text Time

/-- The backlog and the results beside it. -/
structure Store (m : Medium) where
  /-- The rows, in the order of their numbers. -/
  rows : List (Row m.Stamp)
  /-- The largest number ever given. -/
  lastId : Nat
  /-- The results; `none` if what goes by their name is no table of results. -/
  reports : Option (List (Report m.Stamp))

/-- The end of a lease that is taken at `now`. -/
def leaseEnd (now : Instant) (lease : Span) : Except Error Instant :=
  match now.add? lease with
  | some t => .ok t
  | none => .error (.config (.leaseOutOfRange lease))

/-- The fault of a write for an item that the worker does not hold. -/
def rejectedWrite (current : WorkItem) (worker : String) (target : Status) : Error :=
  if current.status.isTerminal then .invalidTransition current.status target
  else .leaseLost current.id worker

namespace Store

variable {m : Medium}

/-- A store without items and results. -/
def empty (m : Medium) : Store m := ⟨[], 0, some []⟩

/-- A prepared operation: the store it leaves and its answer.  What fails before leaves the
store as it was. -/
def perform {α : Type} (s : Store m) (prepared : Except Error (Except Error α × Store m)) :
    Except Error α × Store m :=
  match prepared with
  | .ok result => result
  | .error e => (.error e, s)

@[simp] theorem perform_ok {α : Type} (s : Store m) (result : Except Error α × Store m) :
    s.perform (.ok result) = result := rfl

@[simp] theorem perform_error {α : Type} (s : Store m) (e : Error) :
    s.perform (.error e : Except Error (Except Error α × Store m)) = (.error e, s) := rfl

/-- The number of the next item: above all that were given, and all that are there. -/
def nextId (s : Store m) : Nat := (s.rows.foldl (fun n r => max n r.id.toNat) s.lastId) + 1

/-- The row with a number. -/
def find? (s : Store m) (id : Int) : Option (Row m.Stamp) :=
  s.rows.find? (·.id == id)

/-- The store with the row of that number changed. -/
def modify (s : Store m) (id : Int) (f : Row m.Stamp → Row m.Stamp) : Store m :=
  { s with rows := s.rows.map fun r => if r.id = id then f r else r }

@[simp] theorem reports_modify (s : Store m) (id : Int) (f : Row m.Stamp → Row m.Stamp) :
    (s.modify id f).reports = s.reports := rfl

/-- The item with a number. -/
def get (s : Store m) (id : Int) : Except Error WorkItem :=
  match s.find? id with
  | some r => r.read m
  | none => .error (.noItem id)

/-- The items of a state, or of all, newest first; at most `limit` of them. -/
def list (s : Store m) (status : Option Status) (limit : Int) : Except Error (List WorkItem) := do
  m.require (0 ≤ limit || m.allowsNegativeLimit)
  let chosen := (s.rows.filter fun r => status.all r.isIn).reverse
  (if 0 ≤ limit then chosen.take limit.toNat else chosen).mapM (·.read m)

/-- Adds an observation, at the clock's `now`. -/
def enqueue (s : Store m) (o : Observation) (now : Instant) :
    Except Error WorkItem × Store m :=
  s.perform do
    m.requireText o.eventType
    m.requireText o.sourceIp
    m.requireTextOption o.filenameHint
    m.requireTextOption o.storedNameHint
    m.requireTextOption o.loggedHash
    let stamp ← m.stamp now
    m.require (s.nextId ≤ maxSigned64)
    let row := Row.ofObservation s.nextId stamp o
    return (row.read m, { s with rows := s.rows ++ [row], lastId := s.nextId })

/-- Claims the oldest claimable item for a worker, from `now` on for the time of the lease. -/
def claimNext (s : Store m) (worker : String) (now : Instant) (lease : Span) :
    Except Error (Option WorkItem) × Store m :=
  s.perform do
    let expiry ← m.stamp (← leaseEnd now lease)
    let stamp ← m.stamp now
    m.requireText worker
    match s.rows.find? (·.isClaimable m stamp) with
    | none => return (.ok none, s)
    | some row =>
      let claimed := row.claim worker expiry stamp
      m.require (m.keepsCount claimed.attempts)
      return ((claimed.read m).map some, s.modify row.id (·.claim worker expiry stamp))

/-- Sets the content hash of an item, if it has none yet, and tells whether the content is a
duplicate: of another item that is active at `now`, or of a report, counting what happened at
or after `since`. -/
def registerHash (s : Store m) (id : Int) (hash : String) (now : Instant)
    (since : Option Instant) : Except Error Bool × Store m :=
  s.perform do
    m.requireText hash
    let stamp ← m.stamp now
    let since ← m.stampOption since
    let changed := s.modify id (·.register hash stamp)
    let known := changed.rows.any (·.duplicates m id hash stamp since)
    match changed.reports with
    | some reports => return (.ok (known || reports.any (·.duplicates m hash since)), changed)
    | none =>
      m.require (known && m.asksInTurn)
      return (.ok true, changed)

/-- The texts that an outcome writes can be kept. -/
def requireOutcome (m : Medium) : Outcome → Except Error Unit
  | .forwarded _ response contentHash => do
    m.requireText response
    m.requireTextOption contentHash
  | .dead reason duplicateOf => do
    m.requireText reason
    m.requireTextOption duplicateOf
  | .retry reason => m.requireText reason

/-- Ends the claim of a worker on an item with an outcome, at the clock's `now`.  Only an item
that goes back to pending takes the end of its backoff. -/
def record (s : Store m) (id : Int) (worker : String) (outcome : Outcome)
    (retryAfter : Option Instant) (now : Instant) : Except Error WorkItem × Store m :=
  s.perform do
    m.requireText worker
    requireOutcome m outcome
    let stamp ← m.stamp now
    let retryAfter ← m.stampOption (if outcome.target = .pending then retryAfter else none)
    match s.find? id with
    | none => .error (.noItem id)
    | some row =>
      if row.isHeldBy worker then
        let concluded := row.conclude outcome retryAfter stamp
        return (concluded.read m, s.modify id (·.conclude outcome retryAfter stamp))
      else
        .error (rejectedWrite (← row.read m) worker outcome.target)

/-- Adds an analysis record to the results. -/
def report (s : Store m) (a : AnalysisRecord) : Except Error Unit × Store m :=
  s.perform do
    m.requireText a.contentHash
    let stamp ← m.stamp a.reportedAt
    match s.reports with
    | none => .error m.refusal
    | some reports =>
      return (.ok (), { s with reports := some (reports ++ [⟨a.contentHash, a.taskRef, stamp⟩]) })

/-- Proves that the store can be reached. -/
def healthCheck (_ : Store m) : Except Error Unit := .ok ()

end Store

end ArtifactRelay.Backlog
