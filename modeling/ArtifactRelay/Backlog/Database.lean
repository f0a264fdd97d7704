import ArtifactRelay.Backlog.Store
import ArtifactRelay.Backlog.Tables
import ArtifactRelay.Text.Blank

/-!
# ArtifactRelay.Backlog.Database

A database in a file, which holds any number of tables, and the stores that pairs
of its tables make.  Such a database compares names without regard to the case of
letters, keeps some names for itself, and takes a table that exists as it is, and an
index too, whatever columns it was made on.  So two names that pass `Tables.check` may
still mean one table, and a pair of tables may be opened whose second is no table of
results.

* `openTables` makes what is missing for a pair of names;
* `store` is the store of such a pair, and `withStore` works on it.
-/

namespace ArtifactRelay.Backlog

open Text

/-- What a database holds under a name. -/
inductive Relation
  /-- A table of work items, and the largest number ever given in it. -/
  | backlog (rows : List (Row Medium.embedded.Stamp)) (lastId : Nat)
  | results (reports : List (Report Medium.embedded.Stamp))
  | index

/-- A database in a file: what it holds, by names in lower case. -/
structure Database where
  relations : List (String × Relation)

/-- The words of the query language that no table can be named by, in lower case. -/
def reservedWords : List String := [
  "add", "all", "alter", "and", "as", "autoincrement", "between", "case", "check", "collate",
  "commit", "constraint", "create", "default", "deferrable", "delete", "distinct", "drop", "else",
  "escape", "except", "exists", "foreign", "from", "group", "having", "if", "in", "index", "insert",
  "intersect", "into", "is", "isnull", "join", "limit", "not", "nothing", "notnull", "null", "on",
  "or", "order", "primary", "references", "returning", "select", "set", "table", "then", "to",
  "transaction", "union", "unique", "update", "using", "values", "when", "where"]

/-- How the names of the database's own tables start. -/
def ownTables : String := "sqlite_"

/-- Whether a name, in lower case, is kept from tables. -/
def isReserved (name : String) : Bool :=
  reservedWords.contains name || ownTables.toList.isPrefixOf name.toList

namespace Database

/-- A database that holds nothing. -/
def empty : Database := ⟨[]⟩

/-- What stands under a name, in lower case. -/
def find? (d : Database) (name : String) : Option (Relation) :=
  (d.relations.find? (·.1 == name)).map (·.2)

/-- The database with something new under a name. -/
def insert (d : Database) (name : String) (r : Relation) : Database :=
  ⟨(name, r) :: d.relations.filter (·.1 != name)⟩

/-- The index that finds claimable items. -/
def claimIndex (table : String) : String := "idx_" ++ table ++ "_claimable"

/-- The index that finds contents. -/
def hashIndex (table : String) : String := "idx_" ++ table ++ "_hash"

/-- Makes a table unless there is one of that name; `none` if the name cannot be used. -/
def ensureTable (d : Database) (name : String) (fresh : Relation) : Option (Database) :=
  if isReserved name then none
  else
    match d.find? name with
    | none => some (d.insert name fresh)
    | some .index => none
    | some _ => some d

/-- Makes an index on a table unless there is one of that name; `none` if a table has the name,
or if `suits` says that the table lacks the columns. -/
def ensureIndex (d : Database) (name table : String) (suits : Relation → Bool) :
    Option (Database) :=
  match d.find? name with
  | some .index => some d
  | some _ => none
  | none => if (d.find? table).any suits then some (d.insert name .index) else none

/-- Whether a table has the columns of work items. -/
def hasItems : Relation → Bool
  | .backlog .. => true
  | _ => false

/-- Whether a table has a column of content hashes. -/
def hasHashes : Relation → Bool
  | .index => false
  | _ => true

/-- Whether a table has the columns of analysis records. -/
def hasReports : Relation → Bool
  | .results _ => true
  | _ => false

/-- The steps that make the tables and indexes of a pair of names. -/
def openingSteps (t : Tables) : List (Database → Option (Database)) :=
  let b := asciiLower t.backlog
  let r := asciiLower t.results
  [fun d => d.ensureTable b (.backlog [] 0),
    fun d => d.ensureIndex (claimIndex b) b hasItems,
    fun d => d.ensureIndex (hashIndex b) b hasHashes,
    fun d => d.ensureTable r (.results []),
    fun d => d.ensureIndex (hashIndex r) r hasReports]

/-- Takes steps as long as they succeed; answers whether all did. -/
def advance (d : Database) : List (Database → Option (Database)) → Bool × Database
  | [] => (true, d)
  | step :: steps =>
    match step d with
    | some d => advance d steps
    | none => (false, d)

/-- Makes what is missing for a pair of names; what was made before a step fails stays. -/
def openTables (d : Database) (t : Tables) : Except Error Unit × Database :=
  match t.check with
  | .error e => (.error e, d)
  | .ok () =>
    let (done, d) := d.advance (openingSteps t)
    (if done then .ok () else .error .storage, d)

/-- The store of a pair of tables. -/
def store (d : Database) (t : Tables) : Store .embedded :=
  let reports := match d.find? (asciiLower t.results) with
    | some (.results reports) => some reports
    | _ => none
  match d.find? (asciiLower t.backlog) with
  | some (.backlog rows lastId) => ⟨rows, lastId, reports⟩
  | _ => ⟨[], 0, reports⟩

/-- The database after the store of a pair of tables has changed. -/
def putStore (d : Database) (t : Tables) (s : Store .embedded) : Database :=
  let d := d.insert (asciiLower t.backlog) (.backlog s.rows s.lastId)
  match s.reports with
  | some reports => d.insert (asciiLower t.results) (.results reports)
  | none => d

/-- Works on the store of a pair of tables. -/
def withStore {α : Type} (d : Database) (t : Tables) (f : Store .embedded → α × Store .embedded) :
    α × Database :=
  let (a, s) := f (d.store t)
  (a, d.putStore t s)

end Database

end ArtifactRelay.Backlog
