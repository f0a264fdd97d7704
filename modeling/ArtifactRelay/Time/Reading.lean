import ArtifactRelay.Text.Blank
import ArtifactRelay.Text.Digits
import ArtifactRelay.Time.Instant

/-!
# ArtifactRelay.Time.Reading

Reading an instant from text.  The form is date, `T` (or `t`, or a blank), time
and zone.  A reader is generous where no doubt arises: blanks may stand before a
number and around the hyphens, the colons and the zone, numbers may have fewer
digits than usual, and a year with a sign as many as it likes.  The zone is
`Z`, `UTC` in any case, or a signed offset of hours and minutes; the instant is
the local time less the offset, and it has to lie within the calendar.

Each reader takes characters and answers what it has read with the rest.
-/

namespace ArtifactRelay.Time

open Text

namespace Reading

/-- The characters after leading blanks. -/
def skipBlanks (cs : List Char) : List Char := cs.dropWhile isBlank

/-- A run of one to `most` digits. -/
def digits (most : Nat) (cs : List Char) : Option (List Char × List Char) :=
  let ds := (cs.take most).takeWhile isDigit
  if ds.isEmpty then none else some (ds, cs.drop ds.length)

/-- A number of one to `most` digits, after blanks. -/
def number (most : Nat) (cs : List Char) : Option (Nat × List Char) :=
  (digits most (skipBlanks cs)).map fun (ds, rest) => (valueOf 0 ds, rest)

/-- The character `c`, after blanks. -/
def mark (c : Char) (cs : List Char) : Option (List Char) :=
  match skipBlanks cs with
  | d :: rest => if d = c then some rest else none
  | [] => none

/-- A year: up to four digits, or a sign and any number of them. -/
def year (cs : List Char) : Option (Int × List Char) :=
  match skipBlanks cs with
  | '-' :: rest => (digits rest.length rest).map fun (ds, r) => (-(valueOf 0 ds : Int), r)
  | '+' :: rest => (digits rest.length rest).map fun (ds, r) => ((valueOf 0 ds : Int), r)
  | rest => (digits 4 rest).map fun (ds, r) => ((valueOf 0 ds : Int), r)

/-- Year, month and day of an existing date. -/
def date (cs : List Char) : Option (Date × List Char) := do
  let (y, cs) ← year cs
  let cs ← mark '-' cs
  let (m, cs) ← number 2 cs
  let cs ← mark '-' cs
  let (d, cs) ← number 2 cs
  let date : Date := ⟨y, m, d⟩
  if date.isValid then some (date, cs) else none

/-- The nanoseconds of a fraction: nine digits count, further ones are dropped. -/
def fraction (cs : List Char) : Option (Nat × List Char) :=
  match cs with
  | '.' :: rest => do
    let (ds, _) ← digits 9 rest
    some (valueOf 0 ds * pow10 (9 - ds.length), rest.dropWhile isDigit)
  | _ => some (0, cs)

/-- Second of the day and nanoseconds; second 60 is a leap second. -/
def time (cs : List Char) : Option ((Nat × Nat) × List Char) := do
  let (h, cs) ← number 2 cs
  let cs ← mark ':' cs
  let (m, cs) ← number 2 cs
  let cs ← mark ':' cs
  let (s, cs) ← number 2 cs
  let (n, cs) ← fraction cs
  if h ≤ 23 ∧ m ≤ 59 ∧ s ≤ 60 then
    some (if s = 60 then (h * 3600 + m * 60 + 59, 1000000000 + n)
      else (h * 3600 + m * 60 + s, n), cs)
  else none

/-- Two digits. -/
def twoDigits (cs : List Char) : Option (Nat × List Char) :=
  match cs with
  | a :: b :: rest =>
    match digitValue a, digitValue b with
    | some x, some y => some (x * 10 + y, rest)
    | _, _ => none
  | _ => none

/-- A zone, as seconds east of UTC. -/
def zone (cs : List Char) : Option (Int × List Char) :=
  match cs with
  | 'Z' :: rest | 'z' :: rest => some (0, rest)
  | sign :: rest =>
    if (cs.take 3).map Char.toUpper = ['U', 'T', 'C'] then some (0, cs.drop 3)
    else if sign = '+' ∨ sign = '-' ∨ sign = '−' then do
      let (h, rest) ← twoDigits rest
      let (m, rest) ← twoDigits (rest.dropWhile fun c => c == ':' || isBlank c)
      if m ≤ 59 ∧ h ≤ 23 then
        let offset : Int := (h * 3600 + m * 60 : Nat)
        some (if sign = '+' then offset else -offset, rest)
      else none
    else none
  | [] => none

end Reading

open Reading in
/-- The instant that a text denotes. -/
def Instant.ofText? (s : String) : Option Instant := do
  let (date, cs) ← date s.toList
  let cs ← match cs with
    | 'T' :: rest | 't' :: rest | ' ' :: rest => some rest
    | _ => none
  let ((second, nanos), cs) ← time cs
  let (offset, cs) ← zone (skipBlanks cs)
  let start := dayNumber date * 86400
  if (skipBlanks cs).isEmpty ∧ earliestSecond ≤ start ∧ start ≤ latestSecond then
    Instant.ofParts? (start + second - offset) nanos
  else none

end ArtifactRelay.Time
