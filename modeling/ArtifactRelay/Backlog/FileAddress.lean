import ArtifactRelay.Artifact.Folder
import ArtifactRelay.Text.Blank
import ArtifactRelay.Text.Digits

/-!
# ArtifactRelay.Backlog.FileAddress

The database that a file path means.  A path that starts with `file:` is an
address: an authority, empty or `localhost`, may stand before its path, what
follows `?` are options, and what follows `#` does not count.  In an address `%`
and two hexadecimal digits mean a byte.  Any other path means itself.

The options say what may be done with the database (`mode`) and how its file is
kept from other programs (`vfs` and others).  A database is kept in memory alone
if one of the two says so, or if its path is empty or `:memory:`.
-/

namespace ArtifactRelay.Backlog

open Artifact Text

/-- What may be done with a database. -/
inductive Access
  /-- It may be read. -/
  | reading
  /-- It may be changed. -/
  | writing
  /-- It may be changed, and made if there is none. -/
  | creating
  /-- It is made in memory. -/
  | memory
  deriving DecidableEq, Repr

namespace Access

/-- The access that a mode asks for. -/
def ofMode? (mode : Name) : Option Access :=
  if mode = utf8 "ro" then some reading
  else if mode = utf8 "rw" then some writing
  else if mode = utf8 "rwc" then some creating
  else if mode = utf8 "memory" then some memory
  else none

/-- How much an access allows. -/
def rank : Access → Nat
  | reading => 0
  | writing => 1
  | creating => 2
  | memory => 3

/-- Whether a mode may ask for `wanted` after `given` was asked for: memory always, and
otherwise nothing more than before. -/
def allows (given wanted : Access) : Bool :=
  wanted == memory || decide (wanted.rank ≤ given.rank)

end Access

/-- How the file of a database is kept from other programs. -/
inductive Keeping
  /-- By locks, so that programs share it. -/
  | shared
  /-- By a lock that one program holds. -/
  | exclusive
  /-- By nothing, or by a second file. -/
  | plain
  /-- There is no file. -/
  | memory
  deriving DecidableEq, Repr

/-- The keeping of a name. -/
def Keeping.ofName? (name : Name) : Option Keeping :=
  if name = utf8 "unix" then some shared
  else if name = utf8 "unix-excl" then some exclusive
  else if name = utf8 "unix-none" ∨ name = utf8 "unix-dotfile" then some plain
  else if name = utf8 "memdb" then some memory
  else none

/-- A database by the path of its file. -/
structure FileAddress where
  path : Name
  access : Access
  keeping : Keeping
  /-- All options, by name, in their order. -/
  options : List (Name × Name)
  deriving DecidableEq, Repr

namespace FileAddress

/-! ## Reading an address -/

/-- The bytes of a part of an address; a byte of zero ends it. -/
def unescape : List Char → Name
  | '%' :: a :: b :: cs =>
    match hexValue a, hexValue b with
    | some 0, some 0 => []
    | some x, some y => (x * 16 + y).toUInt8 :: unescape cs
    | _, _ => utf8 "%" ++ unescape (a :: b :: cs)
  | c :: cs => utf8 (String.singleton c) ++ unescape cs
  | [] => []

/-- What stands before the first `mark`, and what follows it. -/
def cutAt (mark : Char) (cs : List Char) : List Char × List Char :=
  (cs.takeWhile (· ≠ mark), (cs.dropWhile (· ≠ mark)).drop 1)

/-- An address without its authority, which ends at the next slash; `none` if another host is
named. -/
def dropAuthority : List Char → Option (List Char)
  | '/' :: '/' :: cs =>
    let host := String.ofList (cs.takeWhile (· ≠ '/'))
    if host = "" ∨ host = "localhost" then some (cs.dropWhile (· ≠ '/')) else none
  | cs => some cs

/-- The options of a query, by name.  An option without a name is skipped. -/
def readOptions (query : List Char) : List (Name × Name) :=
  ((String.ofList query).splitOn "&").filterMap fun option =>
    let (name, value) := cutAt '=' option.toList
    let name := unescape name
    if name.isEmpty then none else some (name, unescape value)

/-- The address with the meaning of one of its options.  An option that is not known here means
nothing. -/
def heed (a : FileAddress) : Name × Name → Option FileAddress
  | (name, value) =>
    if name = utf8 "mode" then
      (Access.ofMode? value).bind fun wanted =>
        if a.access.allows wanted then some { a with access := wanted } else none
    else if name = utf8 "cache" then
      if value = utf8 "shared" ∨ value = utf8 "private" then some a else none
    else some a

/-- The keeping that the last option for it names. -/
def readKeeping (options : List (Name × Name)) : Option Keeping :=
  match options.reverse.find? (·.1 == utf8 "vfs") with
  | some (_, name) => Keeping.ofName? name
  | none => some .shared

/-- The database that the rest of an address means. -/
def ofRest? (cs : List Char) : Option FileAddress := do
  let cs ← dropAuthority cs
  let (path, query) := cutAt '?' (cs.takeWhile (· ≠ '#'))
  let options := readOptions query
  let keeping ← readKeeping options
  options.foldlM heed ⟨unescape path, .creating, keeping, options⟩

/-- The database that a path means; `none` if it is no good address.  No path holds a zero
character. -/
def ofPath? (path : String) : Option FileAddress :=
  if path.toList.contains '\x00' then none
  else
    match path.toList with
    | 'f' :: 'i' :: 'l' :: 'e' :: ':' :: cs => ofRest? cs
    | _ => some ⟨utf8 path, .creating, .shared, []⟩

/-! ## Options -/

/-- The value of an option; the first one counts. -/
def option? (a : FileAddress) (name : String) : Option Name :=
  (a.options.find? (·.1 == utf8 name)).map (·.2)

/-- The number that digits at the start of a text denote; zero past 31 bits. -/
def leadingNumber (value : Name) : Nat :=
  let n := value.foldl (fun n b => n * 10 + (b.toNat - 48)) 0
  if n < 2147483648 then n else 0

/-- Whether a value means that an option is on: it is a number whose last byte is not zero, or
one of three words in any case. -/
def isOn (value : Name) : Bool :=
  let isDigit (b : UInt8) : Bool := 48 ≤ b && b ≤ 57
  let digits := value.takeWhile isDigit
  if digits.isEmpty then
    ["on", "yes", "true"].any fun word => (utf8? value).map asciiLower == some word
  else leadingNumber digits % 256 != 0

/-- Whether an option is on. -/
def isSet (a : FileAddress) (name : String) : Bool := (a.option? name).any isOn

/-- Whether the file is taken as one that nobody changes. -/
def isFrozen (a : FileAddress) : Bool := a.isSet "immutable"

/-- Whether the index of a log beside the file may not be written. -/
def hasFixedIndex (a : FileAddress) : Bool := a.isSet "readonly_shm"

/-- Whether a log can be kept beside the file: its index needs the locks. -/
def canLog (a : FileAddress) : Bool :=
  (a.keeping == .shared || a.keeping == .exclusive) && !a.isSet "nolock"

/-- The path of a file whose permissions a new file gets. -/
def permissionsOf? (a : FileAddress) : Option Name := a.option? "modeof"

/-- Whether no file is named. -/
def isUnnamed (a : FileAddress) : Bool :=
  a.access == .memory || a.path.isEmpty || a.path == utf8 ":memory:"

/-- Whether the database is kept in memory alone. -/
def isInMemory (a : FileAddress) : Bool := a.isUnnamed || a.keeping == .memory

/-- Whether a database can be made in memory: it must be possible to write it, and a name in
memory cannot be frozen. -/
def canBeInMemory (a : FileAddress) : Bool :=
  a.access != .reading && (a.isUnnamed || !a.isFrozen)

end FileAddress

end ArtifactRelay.Backlog
