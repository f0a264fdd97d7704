import ArtifactRelay.Command.Running
import Std.Time.DateTime.Timestamp

/-!
# ArtifactRelay.Main

The program on the command line.  This outermost layer reads the clock, the
environment and the file of variables, and writes what a command answers.  It
reaches neither an engine nor stored files: the site of a command starts out
empty, and what it holds ends with the command.
-/

open ArtifactRelay

/-- The variables that settings are read from. -/
def variableNames : List String := [
  "BACKLOG_URL", "BACKLOG_TABLE", "RESULTS_TABLE", "UPLOADS_DIR", "ENGINE_URL",
  "ENGINE_TIMEOUT_SECS", "ENGINE_API_TOKEN", "ENGINE_TAGS", "ENGINE_PRIORITY", "ENGINE_MACHINE",
  "ENGINE_OPTIONS", "POLL_SECS", "DEDUP_MINUTES", "LEASE_MINUTES", "MAX_ATTEMPTS",
  "RETRY_BACKOFF_SECS", "RETRY_BACKOFF_MAX_SECS", "BATCH", "SCAN_RECENT", "WORKERS", "WORKER_ID",
  "HOSTNAME", "OTEL_ENDPOINT", "LOG_LEVEL"]

/-- The variables that are set. -/
def readEnvironment : IO Settings.EnvFile.Environment :=
  variableNames.filterMapM fun name => do
    return (← IO.getEnv name).map fun value => (name, value)

/-- The text of a file, if it can be read. -/
def readFile? (path : String) : IO (Option String) := do
  try
    return some (← IO.FS.readFile path)
  catch _ => return none

/-- The time on the clock. -/
def readClock : IO Time.Instant := do
  let now ← Std.Time.Timestamp.now
  return (Time.Instant.ofNanos? now.toNanosecondsSinceUnixEpoch.val).getD .epoch

/-- The number of this process, as the system shows it. -/
def readProcessId : IO Nat := do
  let status ← readFile? "/proc/self/stat"
  let digits := (status.getD "").toList.takeWhile Char.isDigit
  return (String.ofList digits).toNat?.getD 0

/-- Runs the program. -/
def main (arguments : List String) : IO UInt32 := do
  let start : Command.Start := {
    arguments := arguments
    environment := ← readEnvironment
    envFile := ← readFile? ".env"
    processId := ← readProcessId }
  let site : Site := ⟨← readClock, .empty, []⟩
  let (result, _) := Command.run start (fun _ => .broken "no connection") site
  IO.print result.output
  if let some complaint := result.complaint then IO.eprintln complaint
  return result.code.toUInt32
