/-!
# ArtifactRelay.Time.Span

Signed lengths of time, in nanoseconds.  Leases and windows are spans; a span
that comes from outside is a whole number of milliseconds within `Span.limit`.
The text of a span is the ISO 8601 form in seconds.
-/

namespace ArtifactRelay.Time

/-- A signed length of time. -/
structure Span where
  nanos : Int
  deriving DecidableEq, Repr

namespace Span

/-- A span of whole milliseconds. -/
def ofMillis (n : Int) : Span := ⟨n * 1000000⟩

/-- A span of whole seconds. -/
def ofSeconds (n : Int) : Span := ⟨n * 1000000000⟩

/-- A span of whole minutes. -/
def ofMinutes (n : Int) : Span := ⟨n * 60000000000⟩

/-- The longest span: the largest signed 64-bit number of milliseconds. -/
def limit : Span := ofMillis 9223372036854775807

/-- The same length into the other direction. -/
def neg (d : Span) : Span := ⟨-d.nanos⟩

/-- The whole minutes of a span, cut towards zero. -/
def minutes (d : Span) : Int := d.nanos.tdiv 60000000000

/-- The whole seconds of a span, cut towards zero. -/
def seconds (d : Span) : Int := d.nanos.tdiv 1000000000

end Span

/-- `n` as a decimal fraction of `width` digits, without trailing zeros and without the
point; empty if `n` is 0. -/
def fractionDigits : (width : Nat) → (n : Nat) → String
  | 0, _ => ""
  | width + 1, n =>
    if n % 10 == 0 then fractionDigits width (n / 10)
    else
      let digits := toString n
      String.ofList (List.replicate (width + 1 - digits.length) '0') ++ digits

/-- The ISO 8601 text of a span: `PT90S`, `-PT0.5S`, and `P0D` for no time at all. -/
def Span.text (d : Span) : String :=
  if d.nanos == 0 then "P0D"
  else
    let n := d.nanos.natAbs
    let sign := if d.nanos < 0 then "-" else ""
    let frac := fractionDigits 9 (n % 1000000000)
    sign ++ "PT" ++ toString (n / 1000000000) ++ (if frac.isEmpty then "" else "." ++ frac) ++ "S"

end ArtifactRelay.Time
