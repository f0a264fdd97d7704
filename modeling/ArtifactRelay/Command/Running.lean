import ArtifactRelay.Command.Arguments
import ArtifactRelay.Command.Report
import ArtifactRelay.Settings.EnvFile
import ArtifactRelay.Settings.TelemetryAddress
import ArtifactRelay.Site
import ArtifactRelay.Worker.Cycle

/-!
# ArtifactRelay.Command.Running

What the commands do at a site.  Settings come from the environment and a file of
variables.  A file that cannot be loaded breaks the program off before all else; a
command line that is wrong is told before settings that are.  The
workers of `serve` take turns, one cycle each, until every item is forwarded or
retired.
-/

namespace ArtifactRelay.Command

open Backlog Worker

/-- How a command ended: its exit code, what it wrote, and the first line of its complaint. -/
structure Result where
  code : Nat
  output : String
  complaint : Option String
  deriving DecidableEq, Repr

/-- A command that did what it was told. -/
def succeeded (output : String) : Result := ⟨0, output, none⟩

/-- A command line that is no command. -/
def misused : Result := ⟨2, "", none⟩

/-- A program that broke off. -/
def brokenOff : Result := ⟨101, "", none⟩

/-- The first line of a text, without a carriage return at its end. -/
def firstLine (s : String) : String :=
  let cs := s.toList.takeWhile (· ≠ '\n')
  match cs.reverse with
  | '\r' :: rest => String.ofList rest.reverse
  | _ => String.ofList cs

/-- A command that failed. -/
def failed (message : String) : Result := ⟨1, "", some (firstLine ("Error: " ++ message))⟩

/-- The end of a command whose output may be an error. -/
def ofOutput : Except Error String → Result
  | .ok output => succeeded output
  | .error e => failed e.message

/-! ## Serving -/

/-- What the workers of a service work on. -/
structure Service where
  site : Site
  session : Session

namespace Service

/-- Changes the store. -/
def change {α : Type} (s : Service) (f : Store .embedded → Except Error α × Store .embedded) :
    Except Error α × Service :=
  let (a, session) := s.session.change f
  (a, { s with session := session })

/-- What opening an artifact gives. -/
def openArtifact (tree : Artifact.FileTree) (path : Artifact.Name) : Engine.Opened :=
  match tree.find? path with
  | some (.file content _) => .content content
  | some _ => .unreadable
  | none => .missing

/-- Answers a request of a worker; `exchange` carries uploads to the engine. -/
def answer (engine : Engine.Settings) (exchange : Engine.Upload → Engine.Reply) :
    (r : Request) → Service → r.Answer × Service
  | .now, s => (s.site.clock, s)
  | .isStopping, s => (false, s)
  | .claim worker now lease, s => s.change (·.claimNext worker now lease)
  | .folder dir, s => (s.site.tree.folder? dir, s)
  | .registerHash id hash now since, s => s.change (·.registerHash id hash now since)
  | .record id worker outcome retryAfter, s =>
    s.change (·.record id worker outcome retryAfter s.site.clock)
  | .submit path displayName, s =>
    (Engine.submit engine (openArtifact s.site.tree path) displayName exchange, s)

/-- Whether every item is forwarded or retired. -/
def isFinished (s : Service) : Bool :=
  s.session.store.rows.all fun r => !r.isIn .pending && !r.isIn .claimed

/-- One cycle of each worker. -/
def round (answer : (r : Request) → Service → r.Answer × Service) (workers : List Worker)
    (s : Service) : Service :=
  workers.foldl (fun s w => (w.cycle.run answer s).2) s

/-- Rounds until every item is forwarded or retired. -/
def rounds (answer : (r : Request) → Service → r.Answer × Service) (workers : List Worker) :
    (left : Nat) → Service → Service
  | 0, s => s
  | left + 1, s => if s.isFinished then s else rounds answer workers left (round answer workers s)

end Service

/-- The workers of a service; each of several has its number after the common name. -/
def workersOf (settings : Settings) (count : Nat) : List Worker :=
  (List.range count).map fun n => {
    name := if count = 1 then settings.workerId else settings.workerId ++ "/" ++ toString n
    dir := settings.uploadsDir
    settings := settings.worker }

/-- The most rounds of a service. -/
def maxRounds : Nat := 10000

/-- Forwards artifacts until every item is forwarded or retired. -/
def runService (settings : Settings) (workers : Option Nat)
    (exchange : Engine.Upload → Engine.Reply) (site : Site) : Result × Site :=
  if settings.telemetryEndpoint.any (!Settings.TelemetryAddress.isAddress ·) then
    (failed (Error.other .telemetryEndpoint).message, site)
  else
    match site.openBacklog settings.backlogUrl settings.tables with
    | (.error e, site) => (failed e.message, site)
    | (.ok session, site) =>
      let count := max 1 (workers.getD settings.workers)
      let service := Service.rounds (Service.answer settings.engine exchange)
        (workersOf settings count) maxRounds ⟨site, session⟩
      (succeeded "", service.site.keep service.session)

/-! ## The other commands -/

/-- Opens the backlog and works on it. -/
def withBacklog (settings : Settings) (site : Site) (f : Session → Result × Session) :
    Result × Site :=
  match site.openBacklog settings.backlogUrl settings.tables with
  | (.error e, site) => (failed e.message, site)
  | (.ok session, site) =>
    let (result, session) := f session
    (result, site.keep session)

/-- The list of items of a state. -/
def listItems (status : Option String) (limit : Int) (store : Store .embedded) : Result :=
  match status, status.bind Status.ofName? with
  | some name, none => failed ("invalid status: " ++ name)
  | _, status => ofOutput ((store.list status limit).map table)

/-- What is written when an item was recorded. -/
def enqueued (item : WorkItem) : String :=
  line ("Enqueued: " ++ toString item.id ++ " (status: " ++ item.status.name ++ ")")

/-- Performs a command. -/
def perform (settings : Settings) (exchange : Engine.Upload → Engine.Reply) (site : Site) :
    Command → Result × Site
  | .serve workers => runService settings workers exchange site
  | .list status limit =>
    withBacklog settings site fun session => (listItems status limit session.store, session)
  | .showItem id =>
    withBacklog settings site fun session =>
      (ofOutput ((session.store.get id).map details), session)
  | .enqueue filename storedName sha256 sourceIp =>
    withBacklog settings site fun session =>
      let observation := Observation.ofSensor sourceIp (some filename) storedName sha256
      let (item, session) := session.change (·.enqueue observation site.clock)
      (ofOutput (item.map enqueued), session)

/-- What the program is started with. -/
structure Start where
  arguments : List String
  environment : Settings.EnvFile.Environment
  /-- The text of the file of variables, if there is one. -/
  envFile : Option String
  processId : Nat

/-- The variables that settings are read from; `none` if the file of variables cannot be
loaded. -/
def Start.loadEnvironment (start : Start) : Option Settings.EnvFile.Environment :=
  match start.envFile with
  | some text => Settings.EnvFile.load text start.environment
  | none => some start.environment

/-- Runs the program. -/
def run (start : Start) (exchange : Engine.Upload → Engine.Reply) (site : Site) :
    Result × Site :=
  match start.loadEnvironment with
  | none => (brokenOff, site)
  | some environment =>
    match parse start.arguments with
    | .error .help => (succeeded "", site)
    | .error .wrong => (misused, site)
    | .ok command =>
      match Settings.load (Settings.EnvFile.value? environment) start.processId with
      | .error e => (failed e.message, site)
      | .ok settings => perform settings exchange site command

end ArtifactRelay.Command
