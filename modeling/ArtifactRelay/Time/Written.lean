import ArtifactRelay.Text.Digits
import ArtifactRelay.Time.Instant

/-!
# ArtifactRelay.Time.Written

Instants written out in UTC.  Years 0 to 9999 have four digits, any other year a
sign and at least four; every other field has its fixed width, so that within
those years two written instants of one precision have one length and their
order as texts is their order in time.

* `Instant.toMicros` — microseconds, cut towards the past, with a final `Z`;
* `Instant.toShortest` — 0, 3, 6 or 9 fraction digits, the fewest that lose
  nothing, with a final `Z`;
* `Instant.toReadable` — date and time apart, with the zone `UTC`;
* `Instant.toMinute` — date, hour and minute.
-/

namespace ArtifactRelay.Time

open Text

/-- The digits of a year. -/
def yearDigits (y : Int) : List Char :=
  if 0 ≤ y ∧ y ≤ 9999 then fixedDigits 4 y.toNat
  else
    let digits := (toString y.natAbs).toList
    (if y < 0 then '-' else '+') :: (List.replicate (4 - digits.length) '0' ++ digits)

namespace Instant

/-- The day of an instant. -/
def date (t : Instant) : Date := dateOfDay (t.seconds / 86400)

/-- The second of the day. -/
def secondOfDay (t : Instant) : Nat := (t.seconds % 86400).toNat

/-- The second as a clock shows it: 60 in a leap second. -/
def clockSecond (t : Instant) : Nat :=
  t.secondOfDay % 60 + t.nanos / 1000000000

/-- The nanoseconds of the second that a clock shows. -/
def clockNanos (t : Instant) : Nat := t.nanos % 1000000000

/-- Year, month and day with hyphens between them. -/
def dateDigits (t : Instant) : List Char :=
  let d := t.date
  yearDigits d.year ++ '-' :: fixedDigits 2 d.month ++ '-' :: fixedDigits 2 d.day

/-- Hour and minute with a colon between them. -/
def minuteDigits (t : Instant) : List Char :=
  fixedDigits 2 (t.secondOfDay / 3600) ++ ':' :: fixedDigits 2 (t.secondOfDay / 60 % 60)

/-- Hour, minute and second with colons between them. -/
def timeDigits (t : Instant) : List Char :=
  t.minuteDigits ++ ':' :: fixedDigits 2 t.clockSecond

/-- The point and the fewest of 0, 3, 6 or 9 digits that lose nothing. -/
def fractionPart (t : Instant) : List Char :=
  let n := t.clockNanos
  if n = 0 then []
  else if n % 1000000 = 0 then '.' :: fixedDigits 3 (n / 1000000)
  else if n % 1000 = 0 then '.' :: fixedDigits 6 (n / 1000)
  else '.' :: fixedDigits 9 n

/-- The instant with microseconds, cut towards the past. -/
def toMicros (t : Instant) : String :=
  String.ofList (t.dateDigits ++ 'T' :: t.timeDigits ++
    '.' :: fixedDigits 6 (t.clockNanos / 1000) ++ ['Z'])

/-- The instant with the fewest fraction digits that lose nothing. -/
def toShortest (t : Instant) : String :=
  String.ofList (t.dateDigits ++ 'T' :: t.timeDigits ++ t.fractionPart ++ ['Z'])

/-- The instant for a reader: `2023-11-14 22:13:20.500 UTC`. -/
def toReadable (t : Instant) : String :=
  String.ofList (t.dateDigits ++ ' ' :: t.timeDigits ++ t.fractionPart) ++ " UTC"

/-- The instant to the minute: `2023-11-14 22:13`. -/
def toMinute (t : Instant) : String :=
  String.ofList (t.dateDigits ++ ' ' :: t.minuteDigits)

end Instant

end ArtifactRelay.Time
