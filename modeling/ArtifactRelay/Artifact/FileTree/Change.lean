import ArtifactRelay.Artifact.FileTree

/-!
# ArtifactRelay.Artifact.FileTree.Change

Changes of the files around a working directory.  `put` puts a node where a path
leads, `remove` takes away the entry that a path names.  What cannot be done
leaves the tree as it is; only the directories made on the way to one that cannot
be made stay.
-/

namespace ArtifactRelay.Artifact.FileTree

/-- The tree without what stands at a place and below it. -/
def erase (tree : FileTree) (place : List Name) : FileTree :=
  ⟨tree.nodes.filter fun (names, _) => !place.isPrefixOf names⟩

/-- The tree with a node at a place. -/
def insert (tree : FileTree) (place : List Name) (node : Node) : FileTree :=
  ⟨tree.nodes.filter (·.1 != place) ++ [(place, node)]⟩

/-- The most bytes of the name of an entry. -/
def longestName : Nat := 255

/-- Whether an entry can be made at a place, as far as its name goes. -/
def canName (place : List Name) : Bool :=
  place.getLast?.any fun name => isEntryName name && decide (name.length ≤ longestName)

/-- Writes a file, links followed; a directory is not overwritten. -/
def write (tree : FileTree) (path : Name) (content : ByteArray) (modified : Int) : FileTree :=
  match tree.place? path with
  | some place =>
    if canName place && !tree.hasFolderAt place then tree.insert place (.file content modified)
    else tree
  | none => tree

/-- Makes the directories that are missing on the way along a path, from a directory on. -/
def makeFoldersFrom (tree : FileTree) (start : List Name) : List Name → FileTree
  | [] => tree
  | c :: rest =>
    if isVoid c then makeFoldersFrom tree start rest
    else if c = parent then makeFoldersFrom tree (above start) rest
    else
      let place := start ++ [c]
      match tree.at? place with
      | none =>
        if canName place then makeFoldersFrom (tree.insert place .folder) place rest else tree
      | some .folder => makeFoldersFrom tree place rest
      | some (.file ..) => tree
      | some (.link _) =>
        match tree.follow maxLinks start [c] with
        | some place => if tree.hasFolderAt place then makeFoldersFrom tree place rest else tree
        | none => tree

/-- Makes the directory of a path, and those above it that are missing. -/
def makeFolders (tree : FileTree) (path : Name) : FileTree :=
  if isPath path then tree.makeFoldersFrom [] (components path) else tree

/-- Makes a link; what else stands there gives way unless it is a directory, and it gives way
before the path is followed to the place of the link. -/
def makeLink (tree : FileTree) (path target : Name) : FileTree :=
  match tree.entryPlace? path with
  | some place =>
    if tree.hasFolderAt place then tree
    else
      let tree := tree.erase place
      match tree.entryPlace? path with
      | some place =>
        if canName place && !target.isEmpty then tree.insert place (.link target) else tree
      | none => tree
  | none => tree

/-- Puts a node where a path leads. -/
def put (tree : FileTree) (path : Name) : Node → FileTree
  | .file content modified => tree.write path content modified
  | .folder => tree.makeFolders path
  | .link target => tree.makeLink path target

/-- The tree without what stands below a place. -/
def clear (tree : FileTree) (place : List Name) : FileTree :=
  ⟨tree.nodes.filter fun (names, _) => names == place || !place.isPrefixOf names⟩

/-- Removes the entry that a path names, a directory with all that is below it.  A directory that
the path reaches by `.`, by `..` or through a link at its end is emptied, and stays. -/
def remove (tree : FileTree) (path : Name) : FileTree :=
  let bare := (path.reverse.dropWhile (· == slash)).reverse
  match tree.entryPlace? path with
  | some place =>
    if tree.entryPlace? bare = some place && (components bare).getLast?.any isEntryName then
      tree.erase place
    else tree.clear place
  | none => tree

end ArtifactRelay.Artifact.FileTree
