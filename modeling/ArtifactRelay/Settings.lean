import ArtifactRelay.Backlog.Tables
import ArtifactRelay.Binary64.Reading
import ArtifactRelay.Dedup
import ArtifactRelay.Engine.Upload
import ArtifactRelay.Retry

/-!
# ArtifactRelay.Settings

The settings of the program, from named variables.  Every setting may be missing;
a blank one counts as missing.  Texts are taken as they are, numbers are trimmed,
and the first setting that cannot be used is the fault of all of them.  The
bounds keep every sum of an instant and a setting within the calendar.
-/

namespace ArtifactRelay

open Text Time

/-- How a worker claims, compares and repeats. -/
structure WorkerSettings where
  /-- How long a worker sleeps when there is nothing to do. -/
  pollInterval : Delay
  /-- The most items of one cycle. -/
  batch : Nat
  /-- The most files that a scan of the artifact directory looks at. -/
  scanRecent : Nat
  dedupWindow : Dedup.Window
  lease : Span
  retry : RetryPolicy
  deriving DecidableEq, Repr

/-- The settings that are taken when none are given. -/
def WorkerSettings.standard : WorkerSettings where
  pollInterval := .ofSeconds 2
  batch := 10
  scanRecent := 200
  dedupWindow := some (.ofMinutes 60)
  lease := .ofMinutes 10
  retry := ⟨some 10, .zero, .ofSeconds 3600⟩

/-- The settings of the program. -/
structure Settings where
  backlogUrl : String
  tables : Tables
  uploadsDir : String
  engine : Engine.Settings
  worker : WorkerSettings
  /-- The number of workers. -/
  workers : Nat
  workerId : String
  /-- Where telemetry is sent, if anywhere. -/
  telemetryEndpoint : Option String
  logLevel : String
  deriving DecidableEq, Repr

namespace Settings

/-- A source of named variables. -/
abbrev Variables := String → Option String

/-- The variable of a name, unless it is blank. -/
def Variables.get (vars : Variables) (name : String) : Option String :=
  (vars name).filter fun v => !isBlankText v

/-- The text of a setting. -/
def Variables.text (vars : Variables) (name standard : String) : String :=
  (vars.get name).getD standard

/-- The value of a setting as `read` has it. -/
def Variables.number {α : Type} (vars : Variables) (read : String → Except NumberFault α)
    (name : String) (standard : α) : Except Error α :=
  match vars.get name with
  | none => .ok standard
  | some raw => (read (trim raw)).mapError fun fault => .config (.notWhole name raw fault)

/-- A decimal setting. -/
def Variables.decimal (vars : Variables) (name : String) (standard : Extended) :
    Except Error Extended :=
  match vars.get name with
  | none => .ok standard
  | some raw =>
    match Extended.ofText? (trim raw) with
    | some x => .ok x
    | none => .error (.config (.notDecimal name raw))

/-- A number that has to be at most `limit`. -/
def atMost (name : String) (limit value : Int) : Except Error Unit :=
  if value ≤ limit then .ok () else .error (.config (.aboveLimit name limit value))

/-- A number that has to be positive. -/
def positive (name : String) (value : Int) : Except Error Unit :=
  if 0 < value then .ok () else .error (.config (.notPositive name value))

/-- The longest poll interval, in seconds. -/
def maxPollSeconds : Nat := 3600

/-- The longest lease: 7 days, in minutes. -/
def maxLeaseMinutes : Int := 7 * 24 * 60

/-- The longest window: 10 years of 366 days, in minutes. -/
def maxDedupMinutes : Int := 10 * 366 * 24 * 60

/-- The longest backoff: 30 days, in seconds. -/
def maxBackoffSeconds : Nat := 30 * 24 * 3600

/-- The poll interval of a number of seconds, rounded to nanoseconds. -/
def pollInterval (seconds : Extended) : Except Error Delay :=
  match seconds with
  | .finite x =>
    let (num, den) := x.fraction
    if (x.isZero ∨ !x.negative) ∧ num ≤ maxPollSeconds * den then
      .ok ⟨roundHalfEven (num * 1000000000) den⟩
    else .error (.config (.pollOutOfRange seconds.text))
  | _ => .error (.config (.pollOutOfRange seconds.text))

/-- The settings of the engine. -/
def loadEngine (vars : Variables) : Except Error Engine.Settings := do
  let timeout ← vars.number (readNat max64) "ENGINE_TIMEOUT_SECS" 120
  return {
    url := vars.text "ENGINE_URL" "http://127.0.0.1:8000/apiv2"
    timeout := .ofSeconds timeout
    apiToken := vars.get "ENGINE_API_TOKEN"
    tags := vars.text "ENGINE_TAGS" ""
    priority := vars.text "ENGINE_PRIORITY" ""
    machine := vars.text "ENGINE_MACHINE" ""
    options := vars.text "ENGINE_OPTIONS" "" }

/-- The settings of a worker. -/
def loadWorker (vars : Variables) : Except Error WorkerSettings := do
  let poll ← vars.decimal "POLL_SECS" (.ofDecimal false 2 0)
  let pollInterval ← pollInterval poll
  let dedup ← vars.number (readInt maxSigned64) "DEDUP_MINUTES" 60
  let lease ← vars.number (readInt maxSigned64) "LEASE_MINUTES" 10
  let maxAttempts ← vars.number (readNat max32) "MAX_ATTEMPTS" 10
  let backoff ← vars.number (readNat max64) "RETRY_BACKOFF_SECS" 0
  let backoffMax ← vars.number (readNat max64) "RETRY_BACKOFF_MAX_SECS" 3600
  if 0 < dedup then atMost "DEDUP_MINUTES" maxDedupMinutes dedup
  let batch ← vars.number (readNat max64) "BATCH" 10
  positive "BATCH" batch
  let scanRecent ← vars.number (readNat max64) "SCAN_RECENT" 200
  positive "LEASE_MINUTES" lease
  atMost "LEASE_MINUTES" maxLeaseMinutes lease
  atMost "RETRY_BACKOFF_SECS" maxBackoffSeconds backoff
  atMost "RETRY_BACKOFF_MAX_SECS" maxBackoffSeconds backoffMax
  return {
    pollInterval := pollInterval
    batch := batch
    scanRecent := scanRecent
    dedupWindow := if 0 < dedup then some (.ofMinutes dedup) else none
    lease := .ofMinutes lease
    retry := {
      maxAttempts := if 0 < maxAttempts then some maxAttempts else none
      backoff := .ofSeconds backoff
      backoffMax := .ofSeconds backoffMax } }

/-- The settings of the program; `processId` is part of a worker's standard name. -/
def load (vars : Variables) (processId : Nat) : Except Error Settings := do
  let tables : Tables :=
    ⟨vars.text "BACKLOG_TABLE" Tables.standard.backlog,
      vars.text "RESULTS_TABLE" Tables.standard.results⟩
  tables.check
  let engine ← loadEngine vars
  let worker ← loadWorker vars
  let workers ← vars.number (readNat max64) "WORKERS" 1
  positive "WORKERS" workers
  return {
    backlogUrl := vars.text "BACKLOG_URL" "sqlite:forwarder.db"
    tables := tables
    uploadsDir := vars.text "UPLOADS_DIR" "/var/lib/nodepot/uploads"
    engine := engine
    worker := worker
    workers := workers
    workerId :=
      vars.text "WORKER_ID" (vars.text "HOSTNAME" "forwarder" ++ "-" ++ toString processId)
    telemetryEndpoint := vars.get "OTEL_ENDPOINT"
    logLevel := vars.text "LOG_LEVEL" "info" }

end Settings

end ArtifactRelay
