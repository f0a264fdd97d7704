import ArtifactRelay.Text.Blank
import ArtifactRelay.Time.Instant
import ArtifactRelay.WorkItem.Outcome

/-!
# ArtifactRelay.WorkItem.Basic

Work items: one artifact that a sensor observed, and how far it got.  A sensor
records an `Observation`; the backlog makes a `WorkItem` of it.  Items of any
event type but `artifactObserved` are invisible to workers.

Addresses are recorded without the prefix of IPv4 addresses mapped to IPv6, and
logged hashes without blanks around them and in lower case.
-/

namespace ArtifactRelay

open Text Time

/-- The event type of an artifact dropped on a monitored host. -/
def artifactObserved : String := "file_upload"

/-- One observed artifact and its processing state. -/
structure WorkItem where
  /-- Given by the backlog; later items have larger numbers. -/
  id : Int
  eventType : String
  sourceIp : String
  filenameHint : Option String
  storedNameHint : Option String
  loggedHash : Option String
  status : Status
  /-- The end of the lease of a claimed item. -/
  leaseUntil : Option Instant
  /-- The worker that holds the lease. -/
  claimedBy : Option String
  /-- How often the item was claimed. -/
  attempts : Nat
  /-- A pending item is not claimed before this instant. -/
  retryAfter : Option Instant
  contentHash : Option String
  taskRef : Option Int
  engineResponse : Option String
  /-- The hash that the item duplicated, if it was retired for that. -/
  duplicateOf : Option String
  lastError : Option String
  createdAt : Instant
  updatedAt : Instant
  deriving DecidableEq

namespace WorkItem

/-- The name under which the artifact is submitted. -/
def displayName (item : WorkItem) : String :=
  match item.filenameHint with
  | some hint => if isBlankText hint then "upload.bin" else trim hint
  | none => "upload.bin"

/-- Whether a live lease is held at `now`; it is live up to its end, included. -/
def isLeasedAt (item : WorkItem) (now : Instant) : Bool :=
  item.status == .claimed && item.leaseUntil.any (fun t => decide (now ≤ t))

end WorkItem

/-! ## Observations -/

/-- The prefix of an IPv4 address mapped to IPv6. -/
def mappedPrefix : String := "::ffff:"

/-- What follows the last occurrence of `mark` in `cs`; `found` if there is none. -/
def afterLast (mark found : List Char) : List Char → List Char
  | [] => found
  | c :: cs =>
    afterLast mark (if mark.isPrefixOf (c :: cs) then (c :: cs).drop mark.length else found) cs

/-- An address as it is recorded: what follows the last mapping prefix in the trimmed text,
and `unknown` for a text of blanks. -/
def normalizeAddress (address : String) : String :=
  if isBlankText address then "unknown"
  else
    let cs := trimList address.toList
    String.ofList (afterLast mappedPrefix.toList cs cs)

/-- An event as a sensor records it. -/
structure Observation where
  eventType : String
  sourceIp : String
  filenameHint : Option String
  storedNameHint : Option String
  loggedHash : Option String
  deriving DecidableEq, Repr

/-- The observation of an artifact from what a sensor knows. -/
def Observation.ofSensor (address : String) (filename storedName loggedHash : Option String) :
    Observation where
  eventType := artifactObserved
  sourceIp := normalizeAddress address
  filenameHint := filename
  storedNameHint := storedName
  loggedHash := loggedHash.map fun h => asciiLower (trim h)

/-! ## Results -/

/-- An analysis that the engine's side reported for a content. -/
structure AnalysisRecord where
  contentHash : String
  taskRef : Option Int
  reportedAt : Instant
  deriving DecidableEq

end ArtifactRelay
