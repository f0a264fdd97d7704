import ArtifactRelay.Backlog.Database
import ArtifactRelay.Backlog.FileAddress

/-!
# ArtifactRelay.Backlog.StoredDatabase

Databases kept in files.  A database may be logged: changes go to a log beside its
file first.  Every backlog that can keep such a log makes its database a logged one,
and one that cannot keep it cannot open a logged database.

`openAt` opens a stored database as its address says.  It may be opened for reading
alone; then nothing can be made, so all the tables have to be there.
-/

namespace ArtifactRelay.Backlog

/-- A database in a file. -/
structure StoredDatabase where
  database : Database
  isLogged : Bool

namespace StoredDatabase

/-- The database of an empty file. -/
def empty : StoredDatabase := ⟨.empty, false⟩

/-- Opens a pair of tables for reading; all that they need has to be there. -/
def openToRead (d : StoredDatabase) (t : Tables) : Except Error Unit :=
  match d.database.openTables t with
  | (.ok (), database) =>
    if database.relations.length = d.database.relations.length then .ok () else .error .storage
  | (.error e, _) => .error e

/-- Opens a pair of tables, making what is missing. -/
def openToWrite (d : StoredDatabase) (t : Tables) : Except Error Unit × StoredDatabase :=
  let (result, database) := d.database.openTables t
  (result, { d with database := database })

/-- Whether an address opens a database for reading alone. -/
def isForReading (a : FileAddress) : Bool := a.isFrozen || a.access == .reading

/-- Opens a pair of tables as an address says. -/
def openAt (d : StoredDatabase) (a : FileAddress) (t : Tables) :
    Except Error Unit × StoredDatabase :=
  if a.isFrozen then (d.openToRead t, d)
  else if a.access = .reading then
    if a.canLog = d.isLogged ∧ !(a.canLog && a.hasFixedIndex) then (d.openToRead t, d)
    else (.error .storage, d)
  else if a.canLog then
    let d := { d with isLogged := true }
    if a.keeping = .shared ∧ a.hasFixedIndex then (.error .storage, d) else d.openToWrite t
  else if d.isLogged then (.error .storage, d)
  else d.openToWrite t

end StoredDatabase

end ArtifactRelay.Backlog
