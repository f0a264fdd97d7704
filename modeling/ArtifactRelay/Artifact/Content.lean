import ArtifactRelay.Artifact.Folder
import ArtifactRelay.Artifact.Sha256
import ArtifactRelay.WorkItem.Basic

/-!
# ArtifactRelay.Artifact.Content

What identifies the content of an artifact.  The hash of the bytes counts; if
they cannot be read, the hash that the sensor logged stands in; else the content
is unknown, and nothing can be said about duplicates of it.
-/

namespace ArtifactRelay.Artifact

open Text

/-- What identifies a content. -/
inductive Content
  /-- The hash of the bytes. -/
  | computed (hash : String)
  /-- The hash that the sensor logged, of bytes that cannot be read. -/
  | logged (hash : String)
  | unknown
  deriving DecidableEq, Repr

namespace Content

/-- The hash, if one is known. -/
def hash? : Content → Option String
  | computed hash | logged hash => some hash
  | unknown => none

/-- The hash, or the word `unknown`. -/
def text (c : Content) : String := c.hash?.getD "unknown"

end Content

/-- The identity of bytes that were read, or could not be read, for an item.  A logged hash
counts in lower case, and if it is not empty. -/
def identify (bytes : Option ByteArray) (item : WorkItem) : Content :=
  match bytes with
  | some bytes => .computed (Sha256.hex bytes)
  | none =>
    match item.loggedHash with
    | some hash => if hash.isEmpty then .unknown else .logged (asciiLower hash)
    | none => .unknown

end ArtifactRelay.Artifact
