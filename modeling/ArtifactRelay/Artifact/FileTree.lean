import ArtifactRelay.Artifact.Folder

/-!
# ArtifactRelay.Artifact.FileTree

Files, directories and links around a working directory, and what a path leads to.
A path is followed component by component; a link stands for the path it holds,
and after `maxLinks` links the path leads nowhere.  A path from the root leads
nowhere too.

A place is given by the names that lead to it from the working directory.  The
directories above the working directory are there, at the places `..`, `../..` and
so on, but nothing else is known of what they hold.

A path may lead to a place where nothing stands yet, if all that is missing is its
last component: `place?` answers the place, and `find?` what stands there.
-/

namespace ArtifactRelay.Artifact

/-- What stands at a place of the tree. -/
inductive Node
  | file (content : ByteArray) (modified : Int)
  | folder
  | link (target : Name)

/-- The nodes around the working directory, each at its place. -/
structure FileTree where
  nodes : List (List Name × Node)

namespace FileTree

/-- A tree without nodes. -/
def empty : FileTree := ⟨[]⟩

/-- The node at a place; the working directory and those above it are directories. -/
def at? (tree : FileTree) (place : List Name) : Option Node :=
  if place.all (· == parent) then some .folder else (tree.nodes.find? (·.1 == place)).map (·.2)

/-- The place of the directory that a directory is in. -/
def above (place : List Name) : List Name :=
  match place.getLast? with
  | some name => if name = parent then place ++ [parent] else place.dropLast
  | none => [parent]

/-- Whether there is a directory at a place. -/
def hasFolderAt (tree : FileTree) (place : List Name) : Bool :=
  match tree.at? place with
  | some .folder => true
  | _ => false

/-! ## Following a path -/

/-- The most links that one path may lead through. -/
def maxLinks : Nat := 40

/-- The most bytes of a path. -/
def longestPath : Nat := 4095

/-- Whether a path can lead anywhere: it is not empty, not too long and starts in the working
directory. -/
def isPath (path : Name) : Bool :=
  !path.isEmpty && path.head? != some slash && !path.contains 0 &&
    decide (path.length ≤ longestPath)

/-- The place that a path leads to, from a directory on. -/
def follow (tree : FileTree) (links : Nat) (start : List Name) : List Name → Option (List Name)
  | [] => some start
  | c :: rest =>
    if isVoid c then follow tree links start rest
    else if c = parent then follow tree links (above start) rest
    else
      match tree.at? (start ++ [c]) with
      | none | some (.file ..) => if rest.isEmpty then some (start ++ [c]) else none
      | some .folder => follow tree links (start ++ [c]) rest
      | some (.link target) =>
        match links with
        | 0 => none
        | links + 1 =>
          if isPath target then follow tree links start (components target ++ rest) else none
  termination_by path => (links, path.length)

/-- The place that a path leads to, from the working directory on. -/
def place? (tree : FileTree) (path : Name) : Option (List Name) :=
  if isPath path then tree.follow maxLinks [] (components path) else none

/-- What a path leads to. -/
def find? (tree : FileTree) (path : Name) : Option Node :=
  (tree.place? path).bind tree.at?

/-- What reading a path gives. -/
def content? (tree : FileTree) (path : Name) : Option ByteArray :=
  match tree.find? path with
  | some (.file content _) => some content
  | _ => none

/-- The place of the entry that a path names: a link at the end of the path is not followed. -/
def entryPlace? (tree : FileTree) (path : Name) : Option (List Name) :=
  match (components path).reverse with
  | name :: above =>
    if isPath path && isEntryName name then do
      let place ← tree.follow maxLinks [] above.reverse
      if tree.hasFolderAt place then some (place ++ [name]) else none
    else tree.place? path
  | [] => none

/-! ## Directories -/

/-- What stands under a name of the directory at `place`. -/
def kindOf (tree : FileTree) (place : List Name) : Node → Kind
  | .file content modified => .file (some content) modified
  | .folder => .folder
  | .link target =>
    if isPath target then
      match (tree.follow (maxLinks - 1) place (components target)).bind tree.at? with
      | some (.file content _) => .linkToFile (some content)
      | some .folder => .linkToFolder
      | _ => .brokenLink
    else .brokenLink

/-- The entry of a node in the directory at `place`, if it stands directly there. -/
def entryIn (tree : FileTree) (place : List Name) : List Name × Node → Option Entry
  | (names, node) =>
    match names.reverse with
    | name :: above => if above.reverse = place then some ⟨name, tree.kindOf place node⟩ else none
    | [] => none

/-- The directory that a path leads to. -/
def folder? (tree : FileTree) (path : String) : Option Folder := do
  let place ← tree.place? (utf8 path)
  if tree.hasFolderAt place then some (tree.nodes.filterMap (tree.entryIn place)) else none

end FileTree

end ArtifactRelay.Artifact
