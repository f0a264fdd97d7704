import ArtifactRelay.Json.Record
import ArtifactRelay.Time.Reading
import ArtifactRelay.WorkItem.Basic

/-!
# ArtifactRelay.WorkItem.Reading

Work items and analysis records read from JSON.
-/

namespace ArtifactRelay

open Json (Document)
open Json.Document (required optional)

/-- An instant written as a text. -/
def Json.Document.instant? (d : Document) : Option Time.Instant :=
  d.text?.bind Time.Instant.ofText?

/-- A state: its name, or an object with that one field and no value. -/
def Json.Document.status? : Document → Option Status
  | .string (some s) => Status.ofName? s
  | .object [(some s, .null)] => Status.ofName? s
  | _ => none

/-- The names of the fields of a work item. -/
def WorkItem.fieldNames : List String := [
  "id", "event_type", "source_ip", "filename_hint", "stored_name_hint", "logged_hash", "status",
  "lease_until", "claimed_by", "attempts", "retry_after", "content_hash", "task_ref",
  "engine_response", "duplicate_of", "last_error", "created_at", "updated_at"]

/-- The work item that a document holds. -/
def WorkItem.ofDocument? (d : Document) : Option WorkItem := do
  let [id, eventType, sourceIp, filenameHint, storedNameHint, loggedHash, status, leaseUntil,
    claimedBy, attempts, retryAfter, contentHash, taskRef, engineResponse, duplicateOf, lastError,
    createdAt, updatedAt] ← d.record? fieldNames | none
  some {
    id := ← required (·.signed64?) id
    eventType := ← required (·.text?) eventType
    sourceIp := ← required (·.text?) sourceIp
    filenameHint := ← optional (·.text?) filenameHint
    storedNameHint := ← optional (·.text?) storedNameHint
    loggedHash := ← optional (·.text?) loggedHash
    status := ← required (·.status?) status
    leaseUntil := ← optional (·.instant?) leaseUntil
    claimedBy := ← optional (·.text?) claimedBy
    attempts := ← required (·.count32?) attempts
    retryAfter := ← optional (·.instant?) retryAfter
    contentHash := ← optional (·.text?) contentHash
    taskRef := ← optional (·.signed64?) taskRef
    engineResponse := ← optional (·.text?) engineResponse
    duplicateOf := ← optional (·.text?) duplicateOf
    lastError := ← optional (·.text?) lastError
    createdAt := ← required (·.instant?) createdAt
    updatedAt := ← required (·.instant?) updatedAt }

/-- The work item that a text denotes. -/
def WorkItem.ofText? (s : String) : Option WorkItem :=
  (Document.ofText? s).bind ofDocument?

/-- The names of the fields of an analysis record. -/
def AnalysisRecord.fieldNames : List String := ["content_hash", "task_ref", "reported_at"]

/-- The analysis record that a document holds. -/
def AnalysisRecord.ofDocument? (d : Document) : Option AnalysisRecord := do
  let [contentHash, taskRef, reportedAt] ← d.record? fieldNames | none
  some {
    contentHash := ← required (·.text?) contentHash
    taskRef := ← optional (·.signed64?) taskRef
    reportedAt := ← required (·.instant?) reportedAt }

/-- The analysis record that a text denotes. -/
def AnalysisRecord.ofText? (s : String) : Option AnalysisRecord :=
  (Document.ofText? s).bind ofDocument?

end ArtifactRelay
