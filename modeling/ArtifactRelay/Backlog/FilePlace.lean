import ArtifactRelay.Artifact.FileTree.Change

/-!
# ArtifactRelay.Backlog.FilePlace

The place of the file that a database path names.  Such a path is taken word by
word before anything is opened: `..` takes back the component before it, whether
or not something stands there, a slash at the end does not count, and a link is
replaced by the path it holds.  So a path may lead over directories that do not
exist, as long as none of them is left in the end.
-/

namespace ArtifactRelay.Backlog

open Artifact

/-- The most links that a database path may lead through. -/
def maxFileLinks : Nat := 201

/-- The most bytes of the path of a database, the working directory left out. -/
def longestFilePath : Nat := 470

/-- The length of the path of a place. -/
def pathLength (place : List Name) : Nat :=
  place.foldl (fun length name => length + name.length + 1) 0

/-- Whether it can be seen what stands under a name at a place. -/
def canLookUp (tree : FileTree) (place : List Name) (name : Name) : Bool :=
  match tree.at? place with
  | some .folder => decide (name.length ≤ FileTree.longestName)
  | some _ => false
  | none => true

/-- The place that a path names, from a place on. -/
def filePlaceFrom (tree : FileTree) (links : Nat) (start : List Name) :
    List Name → Option (List Name)
  | [] => some start
  | c :: rest =>
    if isVoid c then filePlaceFrom tree links start rest
    else if c = parent then filePlaceFrom tree links (FileTree.above start) rest
    else if longestFilePath < pathLength (start ++ [c]) || !canLookUp tree start c then none
    else
      match tree.at? (start ++ [c]) with
      | some (.link target) =>
        match links with
        | 0 => none
        | links + 1 =>
          if FileTree.isPath target then filePlaceFrom tree links start (components target ++ rest)
          else none
      | _ => filePlaceFrom tree links (start ++ [c]) rest
  termination_by path => (links, path.length)

/-- The place of the file that a database path names, if there is a directory for it. -/
def filePlace? (tree : FileTree) (path : Name) : Option (List Name) := do
  if path.head? = some slash then none
  else
    let place ← filePlaceFrom tree maxFileLinks [] (components path)
    if FileTree.canName place && tree.hasFolderAt place.dropLast then some place else none

end ArtifactRelay.Backlog
