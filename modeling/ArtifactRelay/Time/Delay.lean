import ArtifactRelay.Time.Span

/-!
# ArtifactRelay.Time.Delay

Lengths of time that are never negative: timeouts, poll intervals and backoffs.
A delay is a number of nanoseconds whose whole seconds fit 64 bits.  Its text
chooses the largest unit that leaves a whole part, and writes no trailing zeros.
-/

namespace ArtifactRelay.Time

/-- A length of time from now on. -/
structure Delay where
  nanos : Nat
  deriving DecidableEq, Repr

namespace Delay

/-- One more than the largest number of whole seconds of a delay. -/
def secondsBound : Nat := 18446744073709551616

/-- A delay of whole seconds and nanoseconds. -/
def ofParts (seconds nanos : Nat) : Delay := ⟨seconds * 1000000000 + nanos⟩

/-- A delay of whole seconds. -/
def ofSeconds (seconds : Nat) : Delay := ofParts seconds 0

/-- No delay. -/
def zero : Delay := ⟨0⟩

/-- The whole seconds. -/
def seconds (d : Delay) : Nat := d.nanos / 1000000000

/-- The nanoseconds beyond the whole seconds. -/
def subsecond (d : Delay) : Nat := d.nanos % 1000000000

/-- The delay repeated `k` times, `none` if its seconds outgrow 64 bits. -/
def times? (d : Delay) (k : Nat) : Option Delay :=
  if d.nanos * k / 1000000000 < secondsBound then some ⟨d.nanos * k⟩ else none

/-- The shorter of two delays. -/
def min (a b : Delay) : Delay := if a.nanos ≤ b.nanos then a else b

/-- The span of a delay, `none` beyond the longest span. -/
def toSpan? (d : Delay) : Option Span :=
  if (d.nanos : Int) ≤ Span.limit.nanos then some ⟨d.nanos⟩ else none

/-- The text of a delay: `10000000000000.5s`, `1.5ms`, `2µs`, `7ns`. -/
def text (d : Delay) : String :=
  let n := d.nanos
  let shown (unit digits : Nat) (suffix : String) : String :=
    let frac := fractionDigits digits (n % unit)
    toString (n / unit) ++ (if frac.isEmpty then "" else "." ++ frac) ++ suffix
  if 1000000000 ≤ n then shown 1000000000 9 "s"
  else if 1000000 ≤ n then shown 1000000 6 "ms"
  else if 1000 ≤ n then shown 1000 3 "µs"
  else shown 1 0 "ns"

end Delay

end ArtifactRelay.Time
