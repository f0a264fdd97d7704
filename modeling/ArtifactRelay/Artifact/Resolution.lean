import ArtifactRelay.Artifact.Content
import ArtifactRelay.Text.Alphanumeric

/-!
# ArtifactRelay.Artifact.Resolution

Which entry of the artifact directory belongs to a work item.  Four strategies
are tried in order, and the first that finds an entry decides:

1. the entry under the name that the sensor stored the artifact by;
2. the entry under the logged hash, then under that hash with `.bin`;
3. of the files changed last, the latest whose name holds the stub of the
   file name that the sensor reported;
4. of the same files, the latest whose content has the logged hash.

Names are hints from outside, so only their last component is used.  The two
scans look at a bounded number of files.
-/

namespace ArtifactRelay.Artifact

open Text

/-- How an artifact was found. -/
inductive Strategy
  | storedName
  | hashName
  | filenameScan
  | hashScan
  deriving DecidableEq, Repr

/-- A found artifact: the name of its entry and how it was found. -/
structure Located where
  name : Name
  strategy : Strategy
  deriving DecidableEq, Repr

/-- The longest stub. -/
def stubLength : Nat := 50

/-- A character that a stub keeps. -/
def isStubChar (c : Char) : Bool :=
  isAlphanumeric c || c == '.' || c == '_' || c == '-'

/-- The stub of a file name: its first characters, what is neither alphanumeric nor one of
`._-` replaced by `_`. -/
def sanitizeStub (name : String) : String :=
  String.ofList ((name.toList.map fun c => if isStubChar c then c else '_').take stubLength)

/-- The trimmed text, if anything is left of it. -/
def nonBlank (s : String) : Option String :=
  if isBlankText s then none else some (trim s)

/-- The hash by which the directory is searched: the logged one, trimmed and in lower case. -/
def searchHash (item : WorkItem) : Option String :=
  (item.loggedHash.bind nonBlank).map asciiLower

/-- The stub by which the directory is searched. -/
def searchStub (item : WorkItem) : Option String :=
  (item.filenameHint.bind nonBlank).map sanitizeStub

/-- Whether `part` stands somewhere in `cs`. -/
def holds (part : List Char) : List Char → Bool
  | [] => part.isEmpty
  | c :: cs => part.isPrefixOf (c :: cs) || holds part cs

/-- Whether a name is a text that holds a stub. -/
def nameHolds (stub : String) (name : Name) : Bool :=
  (utf8? name).any fun s => holds stub.toList s.toList

namespace Folder

variable (folder : Folder)

/-- The entry that a hint names, if something is found under it. -/
def direct (hint : String) : Option Name := do
  let name ← finalComponent? (utf8 (trim hint))
  let entry ← folder.find? name
  if entry.leadsSomewhere then some name else none

/-- The regular files, the last changed ones first, at most `limit` of them. -/
def recent (limit : Nat) : List Entry :=
  ((folder.filter (·.modified?.isSome)).mergeSort fun a b =>
    decide (b.modified?.getD 0 ≤ a.modified?.getD 0)).take limit

/-- The entry by the name of its storage. -/
def byStoredName (item : WorkItem) : Option Name :=
  item.storedNameHint.bind folder.direct

/-- The entry named by the logged hash. -/
def byHashName (item : WorkItem) : Option Name :=
  (searchHash item).bind fun hash => folder.direct hash <|> folder.direct (hash ++ ".bin")

/-- The latest file whose name holds the stub. -/
def byFilename (limit : Nat) (item : WorkItem) : Option Name :=
  (searchStub item).bind fun stub =>
    ((folder.recent limit).find? fun e => nameHolds stub e.name).map (·.name)

/-- The latest file whose content has the logged hash. -/
def byContent (limit : Nat) (item : WorkItem) : Option Name :=
  (searchHash item).bind fun hash =>
    ((folder.recent limit).find? fun e => e.content?.any (Sha256.hex · == hash)).map (·.name)

/-- The entry of an item's artifact. -/
def resolve (limit : Nat) (item : WorkItem) : Option Located :=
  match folder.byStoredName item with
  | some name => some ⟨name, .storedName⟩
  | none =>
    match folder.byHashName item with
    | some name => some ⟨name, .hashName⟩
    | none =>
      match folder.byFilename limit item with
      | some name => some ⟨name, .filenameScan⟩
      | none => (folder.byContent limit item).map (⟨·, .hashScan⟩)

end Folder

end ArtifactRelay.Artifact
