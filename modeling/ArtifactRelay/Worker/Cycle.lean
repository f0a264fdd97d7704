import ArtifactRelay.Artifact.Resolution
import ArtifactRelay.Settings
import ArtifactRelay.Worker.Program

/-!
# ArtifactRelay.Worker.Cycle

The work of one worker: it claims an item, finds and identifies the artifact,
asks whether the content is a duplicate, submits it, and records what became of
it.  A cycle does this for a bounded number of items, one after the other, and
ends early when there is nothing to claim or an item was not finished: an item
that goes back to pending may be claimable at once, and would use up its attempts
in one cycle.

A claim that was lost before its outcome was written is no fault: the item belongs
to whoever has it now, and the outcome is dropped.
-/

namespace ArtifactRelay

/-- A worker: its name, the directory of its artifacts, and how it works. -/
structure Worker where
  name : String
  dir : String
  settings : WorkerSettings

namespace Worker

open Program (request)

/-- Registers the content of an item and says whether it is a duplicate. -/
def checkContent (window : Dedup.Window) (id : Int) (content : Artifact.Content) :
    Program Dedup.Verdict :=
  match content.hash? with
  | none => return .unchecked
  | some hash => do
    let now ← request .now
    let answer ← request (.registerHash id hash now (window.since now))
    return .ofAnswer hash answer

/-- Records what became of an item, after the retry policy; answers the recorded outcome and the
item as it is then. -/
def recordOutcome (policy : RetryPolicy) (worker : String) (item : WorkItem)
    (outcome : Outcome) : Program (Except Error (Outcome × WorkItem)) := do
  let outcome := policy.resolve item.attempts outcome
  let retryAfter ← match outcome with
    | .retry _ => do
      let now ← request .now
      pure (policy.retryAfter item.attempts now)
    | _ => pure (.ok none)
  match retryAfter with
  | .error e => return .error e
  | .ok retryAfter =>
    let answer ← request (.record item.id worker outcome retryAfter)
    return answer.map fun updated => (outcome, updated)

/-- The artifact of an item in a directory: its name and what identifies it. -/
def locate (scanRecent : Nat) (folder : Option Artifact.Folder) (item : WorkItem) :
    Option (Artifact.Name × Artifact.Content) := do
  let folder ← folder
  let located ← Artifact.Folder.resolve folder scanRecent item
  let bytes := (folder.find? located.name).bind (·.content?)
  some (located.name, Artifact.identify bytes item)

/-- The outcome of a submission. -/
def outcomeOf (content : Artifact.Content) :
    Except Engine.Fault Engine.Acknowledgment → Outcome
  | .ok ack => .forwarded ack.taskRef ack.raw content.hash?
  | .error fault => .retry fault.message

/-- Decides what becomes of a claimed item.  Nothing but the content hash is written. -/
def process (w : Worker) (item : WorkItem) : Program Outcome := do
  let folder ← request (.folder w.dir)
  match locate w.settings.scanRecent folder item with
  | none => return .dead ("artifact not found in " ++ w.dir) none
  | some (name, content) =>
    match ← checkContent w.settings.dedupWindow item.id content with
    | .duplicate hash =>
      return .dead
        ("duplicate content " ++ hash ++ " within " ++ w.settings.dedupWindow.text) (some hash)
    | _ =>
      let answer ← request (.submit (Artifact.pathIn w.dir name) item.displayName)
      return outcomeOf content answer

/-- Processes a claimed item and records what became of it.  An outcome whose claim was lost is
dropped, and counts as a retry. -/
def handle (w : Worker) (item : WorkItem) : Program (Except Error Outcome) := do
  let outcome ← w.process item
  match ← recordOutcome w.settings.retry w.name item outcome with
  | .ok (recorded, _) => return .ok recorded
  | .error (.leaseLost ..) | .error (.invalidTransition ..) => return .ok (.retry "lease lost")
  | .error e => return .error e

/-- The rest of a cycle: at most `left` items more, after `ended` items that were forwarded or
retired. -/
def cycleFrom (w : Worker) : (left ended : Nat) → Program (Except Error Nat)
  | 0, ended => return .ok ended
  | left + 1, ended => do
    let isStopping : Bool ← request .isStopping
    if isStopping then return .ok ended
    else
      let now ← request .now
      match ← request (.claim w.name now w.settings.lease) with
      | .error e => return .error e
      | .ok none => return .ok ended
      | .ok (some item) =>
        match ← w.handle item with
        | .error e => return .error e
        | .ok outcome =>
          if outcome.target.isTerminal then w.cycleFrom left (ended + 1) else return .ok ended

/-- One cycle; answers how many items were forwarded or retired. -/
def cycle (w : Worker) : Program (Except Error Nat) :=
  w.cycleFrom w.settings.batch 0

end Worker

end ArtifactRelay
