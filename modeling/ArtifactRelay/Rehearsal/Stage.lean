import ArtifactRelay.Rehearsal.Script
import ArtifactRelay.Site

/-!
# ArtifactRelay.Rehearsal.Stage

What a rehearsal is played on: a clock, a database with handles on it, files, the
replies that the engine still has, the faults put on operations, and the workers
at work.  `Stage.answer` answers the requests of a worker; while a submission is
under way, the script goes on with what its reply says.
-/

namespace ArtifactRelay.Rehearsal

open Time Backlog Worker

/-- A worker at work. -/
structure Performance where
  isStopping : Bool
  /-- The claims in vain that are left before it is stopped; it is not stopped if missing. -/
  idleLeft : Option Nat
  /-- How far the clock moves with each claim in vain. -/
  idleAdvance : Span
  /-- What it has submitted. -/
  submitted : List (Submission Answer)

/-- A fault put on an operation, on whatever handle. -/
structure Fault where
  method : Method
  error : Error
  /-- How often it strikes; for ever if missing. -/
  times : Option Nat

/-- What a rehearsal is played on. -/
structure Stage where
  clock : Instant
  tree : Artifact.FileTree
  database : Database
  /-- Whether the database is reached by its handles alone, as one in memory is. -/
  isPrivate : Bool
  /-- The tables that the script started with. -/
  tables : Tables
  handles : List (String × Tables)
  replies : List (Scripted Operation)
  faults : List Fault
  /-- The workers at work, the latest first. -/
  performances : List Performance
  /-- Whether an operation could not be performed at all, so that the script breaks off. -/
  isBroken : Bool

namespace Stage

/-- The stage with its clock moved, as long as the calendar goes. -/
def advance (s : Stage) (d : Span) : Stage :=
  { s with clock := (s.clock.add? d).getD s.clock }

/-- Strikes with the fault on an operation, if there is one. -/
def strike (s : Stage) (method : Method) : Option Error × Stage :=
  match s.faults.find? (·.method == method) with
  | some ⟨_, error, none⟩ => (some error, s)
  | some ⟨_, error, some (n + 1)⟩ =>
    let faults := s.faults.map fun f => if f.method == method then { f with times := some n } else f
    (some error, { s with faults := faults })
  | _ => (none, s)

/-- The stage with a fault on an operation, in place of an earlier one. -/
def putFault (s : Stage) (fault : Fault) : Stage :=
  { s with faults := fault :: s.faults.filter (·.method != fault.method) }

/-- The fault of a handle that was never opened. -/
def noHandle (handle : String) : Error := .other (.stated ("no handle " ++ handle))

/-- Works on the store of a handle. -/
def withStore {α : Type} (s : Stage) (handle : String)
    (f : Store .embedded → Except Error α × Store .embedded) : Except Error α × Stage :=
  match s.handles.find? (·.1 == handle) with
  | none => (.error (noHandle handle), s)
  | some (_, tables) =>
    let (a, database) := s.database.withStore tables f
    (a, { s with database := database })

/-- Works on the store of a handle, unless a fault strikes. -/
def withStoreOr {α : Type} (s : Stage) (handle : String) (method : Method)
    (f : Store .embedded → Except Error α × Store .embedded) : Except Error α × Stage :=
  match s.strike method with
  | (some e, s) => (.error e, s)
  | (none, s) => s.withStore handle f

/-- Claims an item. -/
def claim (s : Stage) (handle worker : String) (now : Instant) (lease : Span) :
    Except Error (Option WorkItem) × Stage :=
  s.withStoreOr handle .claim (·.claimNext worker now lease)

/-- Registers a content hash. -/
def registerHash (s : Stage) (handle : String) (id : Int) (hash : String) (now : Instant)
    (since : Option Instant) : Except Error Bool × Stage :=
  s.withStoreOr handle .registerHash (·.registerHash id hash now since)

/-- Records an outcome. -/
def record (s : Stage) (handle : String) (id : Int) (worker : String) (outcome : Outcome)
    (retryAfter : Option Instant) : Except Error WorkItem × Stage :=
  let now := s.clock
  s.withStoreOr handle .record (·.record id worker outcome retryAfter now)

/-- Overwrites a column of a row of the tables that the script started with.  A database that its
handles alone reach cannot be overwritten. -/
def overwrite (s : Stage) (id : Int) (column : String) (cell : Cell) : Except Error Unit × Stage :=
  if s.isPrivate then (.error .storage, { s with isBroken := true })
  else
    let (a, database) := s.database.withStore s.tables (·.overwrite id column cell)
    (a, { s with database := database })

/-- Reads an item. -/
def get (s : Stage) (handle : String) (id : Int) : Except Error WorkItem :=
  (s.withStore handle fun store => (store.get id, store)).1

/-! ## Workers at work -/

/-- Whether the worker at work is to stop. -/
def isStopping (s : Stage) : Bool := s.performances.head?.any (·.isStopping)

/-- Changes the worker at work. -/
def changeWorker (s : Stage) (f : Performance → Performance) : Stage :=
  match s.performances with
  | [] => s
  | p :: ps => { s with performances := f p :: ps }

/-- Tells the worker at work to stop. -/
def stop (s : Stage) : Stage := s.changeWorker fun p => { p with isStopping := true }

/-- A claim in vain: the clock moves, and the worker may have waited long enough. -/
def idle (s : Stage) : Stage :=
  match s.performances with
  | { idleLeft := some n, idleAdvance, .. } :: _ =>
    let s := s.advance idleAdvance
    s.changeWorker fun p =>
      { p with idleLeft := some (n - 1), isStopping := p.isStopping || n ≤ 1 }
  | _ => s

/-- The next reply of the engine; with none left, it accepts and names a task. -/
def nextReply (s : Stage) : Scripted Operation × Stage :=
  match s.replies with
  | r :: rs => (r, { s with replies := rs })
  | [] => (⟨[], .ok acceptance⟩, s)

/-- What a reply of the engine means. -/
def acknowledge (result : Except Engine.Fault String) :
    Except Engine.Fault Engine.Acknowledgment :=
  match result with
  | .ok body => Engine.interpret 200 body
  | .error fault => .error fault

/-- Plays operations while a submission is under way. -/
abbrev Interlude := List Operation → Stage → List Answer × Stage

/-- Answers a request of the worker at work. -/
def answer (interlude : Interlude) (handle : String) :
    (r : Request) → Stage → r.Answer × Stage
  | .now, s => (s.clock, s)
  | .isStopping, s => (s.isStopping, s)
  | .claim worker now lease, s =>
    match s.claim handle worker now lease with
    | (.ok (some item), s) => (.ok (some item), s)
    | (inVain, s) => (inVain, s.idle)
  | .folder dir, s => (s.tree.folder? dir, s)
  | .registerHash id hash now since, s => s.registerHash handle id hash now since
  | .record id worker outcome retryAfter, s => s.record handle id worker outcome retryAfter
  | .submit path displayName, s =>
    let (reply, s) := s.nextReply
    let (answers, s) := interlude reply.during s
    let s := s.changeWorker fun p =>
      { p with submitted := p.submitted ++ [⟨path, displayName, answers⟩] }
    (acknowledge reply.result, s)

/-- Lets a worker work, and answers what it submitted. -/
def perform {α : Type} (s : Stage) (p : Performance) (work : Stage → α × Stage) :
    α × List (Submission Answer) × Stage :=
  let (a, s') := work { s with performances := p :: s.performances }
  let submitted := (s'.performances.head?.map (·.submitted)).getD []
  (a, submitted, { s' with performances := s'.performances.drop 1 })

end Stage

end ArtifactRelay.Rehearsal
