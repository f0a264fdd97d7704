import ArtifactRelay.Artifact.Content
import ArtifactRelay.Error

/-!
# ArtifactRelay.Dedup

Duplicates by content.  A content that was forwarded, is under way or was
analysed within the window is not forwarded again.  Where nothing can be said,
because the content is unknown or the backlog does not answer, it is forwarded.
-/

namespace ArtifactRelay.Dedup

open Time

/-- How far back duplicates count; over all time if missing. -/
abbrev Window := Option Span

/-- The earliest instant that still counts at `now`.  A window that reaches past the start of
the calendar covers all time. -/
def Window.since (window : Window) (now : Instant) : Option Instant :=
  Option.bind window now.sub?

/-- The window in words. -/
def Window.text : Window → String
  | some window => toString window.minutes ++ "m"
  | none => "all time"

/-- What is known about a content. -/
inductive Verdict
  | unique
  | duplicate (hash : String)
  /-- The content is unknown, or the backlog did not answer. -/
  | unchecked
  deriving DecidableEq, Repr

/-- The verdict on a hash by the answer to its registration. -/
def Verdict.ofAnswer (hash : String) : Except Error Bool → Verdict
  | .ok true => .duplicate hash
  | .ok false => .unique
  | .error _ => .unchecked

end ArtifactRelay.Dedup
