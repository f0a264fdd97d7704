import ArtifactRelay.Json.Reading
import ArtifactRelay.Json.Written
import ArtifactRelay.Text.Digits
import ArtifactRelay.Time.Written
import ArtifactRelay.WorkItem.Basic

/-!
# ArtifactRelay.Command.Report

Work items for a reader: a table of many (`table`) and the details of one
(`details`).  Columns are as wide as their titles or their longest values; a text
that is longer is cut in the table and whole in the details.
-/

namespace ArtifactRelay.Command

open Text

/-- A line with its end. -/
def line (s : String) : String := s ++ "\n"

/-- One line of the table. -/
def tableRow (id status attempts filename hash updated : String) : String :=
  line (padRight 8 id ++ "  " ++ padRight 10 status ++ "  " ++ padRight 4 attempts ++ "  " ++
    padRight 30 filename ++ "  " ++ padRight 16 hash ++ "  " ++ updated)

/-- The first `n` characters. -/
def cut (n : Nat) (s : String) : String := String.ofList (s.toList.take n)

/-- The line of an item. -/
def itemRow (item : WorkItem) : String :=
  tableRow (toString item.id) item.status.name (toString item.attempts)
    (cut 30 item.displayName) (cut 16 (item.contentHash.getD "-")) item.updatedAt.toMinute

/-- The table of items. -/
def table (items : List WorkItem) : String :=
  if items.isEmpty then line "No work items found."
  else
    tableRow "ID" "STATUS" "TRY" "FILENAME" "HASH" "UPDATED" ++
      line (String.ofList (List.replicate 100 '-')) ++
      String.join (items.map itemRow) ++
      line "" ++ line (toString items.length ++ " item(s)")

/-- A title and a value. -/
def detail (title value : String) : String :=
  line (padRight 14 (title ++ ":") ++ value)

/-- A title and a value, if there is one. -/
def optionalDetail (title : String) (value : Option String) : String :=
  match value with
  | some value => detail title value
  | none => ""

/-- The engine's answer: indented if it is JSON, else as it is. -/
def responseText (response : String) : String :=
  match Json.ofText? response with
  | some json => json.pretty
  | none => response

/-- The details of an item. -/
def details (item : WorkItem) : String :=
  detail "ID" (toString item.id) ++
    detail "Status" item.status.name ++
    detail "Source IP" item.sourceIp ++
    detail "Filename" (item.filenameHint.getD "-") ++
    detail "Stored Name" (item.storedNameHint.getD "-") ++
    detail "Logged Hash" (item.loggedHash.getD "-") ++
    detail "Content Hash" (item.contentHash.getD "-") ++
    detail "Attempts" (toString item.attempts) ++
    detail "Created" item.createdAt.toReadable ++
    detail "Updated" item.updatedAt.toReadable ++
    optionalDetail "Lease Until" (item.leaseUntil.map (·.toReadable)) ++
    optionalDetail "Claimed By" item.claimedBy ++
    optionalDetail "Retry After" (item.retryAfter.map (·.toReadable)) ++
    optionalDetail "Task" (item.taskRef.map toString) ++
    optionalDetail "Duplicate Of" item.duplicateOf ++
    optionalDetail "Last Error" item.lastError ++
    (match item.engineResponse with
      | some response => line "---" ++ line (responseText response)
      | none => "")

end ArtifactRelay.Command
