import ArtifactRelay.Error
import ArtifactRelay.Text.Digits
import ArtifactRelay.Time.Instant
import ArtifactRelay.WorkItem.Outcome

/-!
# ArtifactRelay.Retry

What follows a failed attempt.  An item that has used up its attempts is retired;
any other waits for a backoff that doubles with every attempt up to a largest one.
-/

namespace ArtifactRelay

open Time

/-- How failed attempts are repeated. -/
structure RetryPolicy where
  /-- The number of attempts after which a failure retires the item; unbounded if missing. -/
  maxAttempts : Option Nat
  /-- The backoff after the first attempt; no backoff at all if it is zero. -/
  backoff : Delay
  /-- The largest backoff. -/
  backoffMax : Delay
  deriving DecidableEq, Repr

namespace RetryPolicy

/-- Whether so many attempts are all that the policy allows. -/
def isExhausted (p : RetryPolicy) (attempts : Nat) : Bool :=
  p.maxAttempts.any (· ≤ attempts)

/-- The outcome that is recorded for an item after so many attempts. -/
def resolve (p : RetryPolicy) (attempts : Nat) : Outcome → Outcome
  | .retry reason =>
    if p.isExhausted attempts then
      .dead ("retry limit reached after " ++ toString attempts ++ " attempts: " ++ reason) none
    else .retry reason
  | outcome => outcome

/-- The largest number of times that a backoff is doubled. -/
def maxDoublings : Nat := 31

/-- The backoff after so many attempts. -/
def delay (p : RetryPolicy) (attempts : Nat) : Delay :=
  ((p.backoff.times? (pow2 (min (attempts - 1) maxDoublings))).getD p.backoffMax).min p.backoffMax

/-- The instant before which an item is not claimed again, if there is a backoff. -/
def retryAfter (p : RetryPolicy) (attempts : Nat) (now : Instant) :
    Except Error (Option Instant) :=
  if p.backoff = .zero then .ok none
  else
    match (p.delay attempts).toSpan?.bind now.add? with
    | some t => .ok (some t)
    | none => .error (.config (.backoffOutOfRange (p.delay attempts)))

end RetryPolicy

end ArtifactRelay
