import ArtifactRelay.Rehearsal.Stage

/-!
# ArtifactRelay.Rehearsal.Play

Playing a script.  `play` takes the operations in their order and answers each; an
operation that fails does not end the script, but one that cannot be performed at all
breaks it off.  Operations within replies are played as deep as replies are nested,
which the number of replies of the script bounds.
-/

namespace ArtifactRelay.Rehearsal

open Time Backlog Worker

/-- The directory of the artifacts. -/
def uploads : String := "uploads"

/-- The most cycles that a worker is given until it is stopped. -/
def patience : Nat := 100000

namespace Stage

/-- The answer that a result gives. -/
def tell {α : Type} (f : α → Answer) : Except Error α → Answer
  | .ok a => f a
  | .error e => .failed e

/-- Cycles of a worker until it is stopped. -/
def cycles (answer : (r : Request) → Stage → r.Answer × Stage) (w : Worker) :
    (left : Nat) → Stage → Stage
  | 0, s => s
  | left + 1, s => if s.isStopping then s else cycles answer w left (w.cycle.run answer s).2

/-- The path of a name in the directory of the artifacts. -/
def uploadPath (name : Artifact.Name) : Artifact.Name := Artifact.pathIn uploads name

/-- Performs one operation. -/
def apply (interlude : Interlude) (op : Operation) (s : Stage) : Answer × Stage :=
  match op with
  | .setClock t => (.clock t, { s with clock := t })
  | .advanceClock d =>
    let s := s.advance d
    (.clock s.clock, s)
  | .enqueue handle o =>
    let (a, s) := s.withStore handle (·.enqueue o s.clock)
    (tell .item a, s)
  | .claim handle worker now lease =>
    let (a, s) := s.claim handle worker (now.getD s.clock) lease
    (tell .claimed a, s)
  | .registerHash handle id hash now since =>
    let (a, s) := s.registerHash handle id hash (now.getD s.clock) since
    (tell .duplicate a, s)
  | .record handle id worker outcome retryAfter =>
    let (a, s) := s.record handle id worker outcome retryAfter
    (tell .item a, s)
  | .get handle id => (tell .item (s.get handle id), s)
  | .list handle status limit =>
    match status, status.bind Status.ofName? with
    | some name, none => (.failed (.other (.unknownStatus name)), s)
    | _, status =>
      (tell .items (s.withStore handle fun store => (store.list status limit, store)).1, s)
  | .health handle =>
    (tell (fun _ => .done) (s.withStore handle fun store => (store.healthCheck, store)).1, s)
  | .report handle contentHash taskRef reportedAt =>
    let (a, s) := s.withStore handle (·.report ⟨contentHash, taskRef, reportedAt.getD s.clock⟩)
    (tell (fun _ => .done) a, s)
  | .checkContent handle id content window =>
    let (v, s) := (Worker.checkContent window id content).run (answer interlude handle) s
    (.verdict v, s)
  | .recordOutcome handle id worker policy outcome =>
    match s.get handle id with
    | .error e => (.failed e, s)
    | .ok item =>
      let work := Worker.recordOutcome policy worker item outcome
      let (a, s) := work.run (answer interlude handle) s
      (tell (fun (o, i) => .recorded o i) a, s)
  | .replies list => (.done, { s with replies := s.replies ++ list })
  | .fault method error times => (.done, s.putFault ⟨method, error, times⟩)
  | .putFile name node => (.done, { s with tree := s.tree.put (uploadPath name) node })
  | .removeFile name => (.done, { s with tree := s.tree.remove (uploadPath name) })
  | .openHandle name tables =>
    match s.database.openTables tables with
    | (.error e, database) => (.failed e, { s with database := database })
    | (.ok (), database) =>
      let handles := (name, tables) :: s.handles.filter (·.1 != name)
      (.done, { s with database := database, handles := handles })
  | .overwrite id column cell =>
    let (a, s) := s.overwrite id column cell
    (tell (fun _ => .done) a, s)
  | .process handle id worker =>
    match s.get handle id with
    | .error e => (.failed e, s)
    | .ok item =>
      let (o, submitted, s) := s.perform ⟨false, none, ⟨0⟩, []⟩
        ((worker.process item).run (answer interlude handle))
      (.processed o submitted, s)
  | .cycle handle worker isStopped =>
    let (ended, submitted, s) := s.perform ⟨isStopped, none, ⟨0⟩, []⟩
      (worker.cycle.run (answer interlude handle))
    (.cycled ended submitted, s)
  | .run handle worker isStopped idle idleAdvance =>
    let (_, submitted, s) := s.perform ⟨isStopped, some idle, idleAdvance, []⟩ fun s =>
      ((), cycles (answer interlude handle) worker patience s)
    (.stopped worker.name submitted, s)
  | .shutdown => (.done, s.stop)

/-- Performs operations in their order. -/
def performAll (interlude : Interlude) : Interlude
  | [], s => ([], s)
  | op :: ops, s =>
    let (a, s) := s.apply interlude op
    let (rest, s) := performAll interlude ops s
    (a :: rest, s)

/-- Plays operations, those within replies `depth` replies deep. -/
def playTo : (depth : Nat) → Interlude
  | 0 => performAll fun _ s => ([], s)
  | depth + 1 => performAll (playTo depth)

end Stage

/-- Where a backlog of a rehearsal is kept. -/
inductive Backend
  | memory
  | file (path : String)
  | server
  deriving DecidableEq, Repr

/-- Why a script is not played to its end. -/
inductive Stop
  /-- The backlog cannot be opened. -/
  | unopened (e : Error)
  /-- An operation could not be performed at all. -/
  | broken
  deriving DecidableEq, Repr

/-- Plays a script on a fresh session of a site; answers each operation. -/
def play (site : Site) (backend : Backend) (tables : Tables) (script : List Operation) :
    Except Stop (List Answer) × Site :=
  let url := match backend with
    | .memory => ":memory:"
    | .file path => path
    | .server => "postgres://localhost/"
  match site.openBacklog url tables with
  | (.error e, site) => (.error (.unopened e), site)
  | (.ok session, site) =>
    let stage : Stage := {
      clock := site.clock
      tree := site.tree
      database := session.stored.database
      isPrivate := session.place.isNone
      tables := tables
      handles := [("a", tables)]
      replies := []
      faults := []
      performances := []
      isBroken := false }
    let (answers, stage) := Stage.playTo (replyCountDuring script) script stage
    let site := { site with clock := stage.clock, tree := stage.tree }
    let stored := { session.stored with database := stage.database }
    (if stage.isBroken then .error .broken else .ok answers,
      site.keep { session with stored := stored })

end ArtifactRelay.Rehearsal
