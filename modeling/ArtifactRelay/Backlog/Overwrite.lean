import ArtifactRelay.Backlog.Store
import ArtifactRelay.Text.Blank

/-!
# ArtifactRelay.Backlog.Overwrite

Rows of an embedded database that are changed behind the backlog's back.  A column
takes any value, whatever the backlog's rules say, in the form in which it keeps
one: texts or numbers.  A column that needs a value does not take a missing one,
and the number of an item stays a whole number that no other item has.

`Store.overwrite` overwrites one column of one row.
-/

namespace ArtifactRelay.Backlog

open Text

/-- A row of an embedded database. -/
abbrev EmbeddedRow := Row Medium.embedded.Stamp

/-- How a column of a name is overwritten, `none` if there is no such column.  What the column
does not take gives no row.  The number of an item is left out here. -/
def overwriting? : String → Option (Cell → EmbeddedRow → Option EmbeddedRow)
  | "event_type" => some fun c r => c.forTexts.map fun s => { r with eventType := s }
  | "source_ip" => some fun c r => c.forTexts.map fun s => { r with sourceIp := s }
  | "filename_hint" => some fun c r => some { r with filenameHint := c.forTexts }
  | "stored_name_hint" => some fun c r => some { r with storedNameHint := c.forTexts }
  | "logged_hash" => some fun c r => some { r with loggedHash := c.forTexts }
  | "status" => some fun c r => c.forTexts.map fun s => { r with status := s }
  | "lease_until" => some fun c r => some { r with leaseUntil := c.forTexts }
  | "claimed_by" => some fun c r => some { r with claimedBy := c.forTexts }
  | "attempts" => some fun c r =>
    if c = .null then none else some { r with attempts := c.forNumbers }
  | "retry_after" => some fun c r => some { r with retryAfter := c.forTexts }
  | "content_hash" => some fun c r => some { r with contentHash := c.forTexts }
  | "task_ref" => some fun c r => some { r with taskRef := c.forNumbers }
  | "engine_response" => some fun c r => some { r with engineResponse := c.forTexts }
  | "duplicate_of" => some fun c r => some { r with duplicateOf := c.forTexts }
  | "last_error" => some fun c r => some { r with lastError := c.forTexts }
  | "created_at" => some fun c r => c.forTexts.map fun s => { r with createdAt := s }
  | "updated_at" => some fun c r => c.forTexts.map fun s => { r with updatedAt := s }
  | _ => none

namespace Store

/-- The store with a row put where its number says. -/
def putRow (s : Store .embedded) (r : EmbeddedRow) : Store .embedded :=
  { s with
    rows := s.rows.takeWhile (·.id < r.id) ++ r :: s.rows.dropWhile (·.id < r.id) }

/-- The store with another number for a row; `none` if the cell is no number that is free. -/
def renumber (s : Store .embedded) (r : EmbeddedRow) (c : Cell) : Option (Store .embedded) := do
  let id ← c.forNumbers.whole?
  let others : Store .embedded := { s with rows := s.rows.filter (·.id != r.id) }
  if (others.find? id).isSome then none else some (others.putRow { r with id := id })

/-- The names of the number of an item. -/
def idColumns : List String := ["id", "rowid", "oid", "_rowid_"]

/-- Overwrites a column of the row of a number, if there is one.  Columns are named in any
case. -/
def overwrite (s : Store .embedded) (id : Int) (column : String) (c : Cell) :
    Except Error Unit × Store .embedded :=
  let column := asciiLower column
  let change? : Option (EmbeddedRow → Option (Store .embedded)) :=
    if idColumns.contains column then some (s.renumber · c)
    else
      (overwriting? column).map fun f r => (f c r).map fun changed => s.modify id fun _ => changed
  match change?, s.find? id with
  | none, _ => (.error .storage, s)
  | some _, none => (.ok (), s)
  | some change, some r =>
    match change r with
    | some s => (.ok (), s)
    | none => (.error .storage, s)

end Store

end ArtifactRelay.Backlog
