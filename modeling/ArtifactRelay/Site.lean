import ArtifactRelay.Backlog.FilePlace
import ArtifactRelay.Backlog.Location
import ArtifactRelay.Backlog.StoredDatabase

/-!
# ArtifactRelay.Site

The place where the program runs: its clock, the files around its working directory
and the databases kept in some of them.  No database server can be reached from
here, and a file can be a database if it is empty or holds one already.

A `Session` is an opened backlog: its database, and the pair of tables in it.
-/

namespace ArtifactRelay

open Artifact Backlog Time

/-- Where the program runs. -/
structure Site where
  clock : Instant
  tree : FileTree
  /-- The databases kept in files, each at the place of its file. -/
  databases : List (List Name × StoredDatabase)

/-- An opened backlog. -/
structure Session where
  stored : StoredDatabase
  tables : Tables
  /-- The place of the database, if it is kept in a file. -/
  place : Option (List Name)
  /-- Whether the database is opened for reading alone. -/
  isReadOnly : Bool

namespace Session

/-- The store of the session. -/
def store (s : Session) : Store .embedded := s.stored.database.store s.tables

/-- Changes the store of the session, unless it is opened for reading alone. -/
def change {α : Type} (s : Session)
    (f : Store .embedded → Except Error α × Store .embedded) : Except Error α × Session :=
  if s.isReadOnly then (.error .storage, s)
  else
    let (a, database) := s.stored.database.withStore s.tables f
    (a, { s with stored := { s.stored with database := database } })

end Session

namespace Site

/-- The longest name of a database file.  A name has at most 255 bytes, and while the database
is made, a file stands beside it whose name is 8 bytes longer. -/
def longestName : Nat := 247

/-- The place of the file of a database, `none` if there can be none. -/
def databasePlace? (site : Site) (a : FileAddress) : Option (List Name) := do
  let place ← filePlace? site.tree a.path
  if a.permissionsOf?.any fun path => (site.tree.find? path).isNone then none
  else
    match site.tree.at? place with
    | none => if a.access = .creating then some place else none
    | some (.file content _) => if content.isEmpty then some place else none
    | some _ => none

/-- The site with an empty file at a place, unless something is there. -/
def ensureFile (site : Site) (place : List Name) : Site :=
  if (site.tree.at? place).isSome then site
  else
    { site with
      tree := site.tree.insert place (.file ByteArray.empty site.clock.seconds)
      databases := site.databases.filter (·.1 != place) }

/-- The database at a place; an empty one if there is none yet. -/
def databaseAt (site : Site) (place : List Name) : StoredDatabase :=
  ((site.databases.find? (·.1 == place)).map (·.2)).getD .empty

/-- The site with a database at a place. -/
def putDatabase (site : Site) (place : List Name) (d : StoredDatabase) : Site :=
  { site with databases := (place, d) :: site.databases.filter (·.1 != place) }

/-- Opens a backlog in memory. -/
def openInMemory (tables : Tables) : Except Error Session :=
  let (result, stored) := StoredDatabase.empty.openToWrite tables
  result.map fun _ => ⟨stored, tables, none, false⟩

/-- Opens the backlog in the file of an address. -/
def openInFile (site : Site) (a : FileAddress) (tables : Tables) : Except Error Session × Site :=
  match site.databasePlace? a with
  | none => (.error .storage, site)
  | some place =>
    let site := site.ensureFile place
    if place.getLast?.any fun name => decide (longestName < name.length) then
      (.error .storage, site)
    else
      let (result, stored) := (site.databaseAt place).openAt a tables
      (result.map fun _ => ⟨stored, tables, some place, StoredDatabase.isForReading a⟩,
        site.putDatabase place stored)

/-- Opens the backlog at an address. -/
def openAddress (site : Site) (a : FileAddress) (tables : Tables) : Except Error Session × Site :=
  if a.isInMemory then
    (if a.canBeInMemory then openInMemory tables else .error .storage, site)
  else site.openInFile a tables

/-- Opens the backlog at a location. -/
def openBacklog (site : Site) (url : String) (tables : Tables) : Except Error Session × Site :=
  match tables.check, Location.ofText url with
  | .error e, _ => (.error e, site)
  | .ok (), .error e => (.error e, site)
  | .ok (), .ok (.server _) => (.error .database, site)
  | .ok (), .ok .memory => (openInMemory tables, site)
  | .ok (), .ok (.file path) =>
    match FileAddress.ofPath? path with
    | none => (.error .storage, site)
    | some a => site.openAddress a tables

/-- The site after a session: a database in a file keeps what the session did. -/
def keep (site : Site) (s : Session) : Site :=
  match s.place with
  | some place => site.putDatabase place s.stored
  | none => site

/-- The names of the entries of the working directory, sorted. -/
def entryNames (site : Site) : List Name :=
  let names := site.tree.nodes.filterMap fun (place, _) =>
    match place with
    | [name] => some name
    | _ => none
  names.mergeSort fun a b => decide (a ≤ b)

end Site

end ArtifactRelay
