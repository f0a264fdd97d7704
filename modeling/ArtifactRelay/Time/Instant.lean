import ArtifactRelay.Time.Calendar
import ArtifactRelay.Time.Span

/-!
# ArtifactRelay.Time.Instant

Instants in UTC, in nanoseconds, from the first day of year -262143 to the last
of year 262142.  An instant is the number of its second since 1970-01-01 and the
nanoseconds of that second; a leap second is the second before it, which is the
last of a minute, with nanoseconds from 10^9 on, so instants are ordered by these
two numbers.

Adding a span answers `none` when the result leaves the calendar.
-/

namespace ArtifactRelay.Time

/-- The first second of the calendar. -/
def earliestSecond : Int := dayNumber ⟨-262143, 1, 1⟩ * 86400

/-- The last second of the calendar. -/
def latestSecond : Int := dayNumber ⟨262142, 12, 31⟩ * 86400 + 86399

/-- A point in time, within the calendar. -/
structure Instant where
  /-- Whole seconds since 1970-01-01T00:00:00Z. -/
  seconds : Int
  /-- Nanoseconds of the second; from 10^9 on they belong to a leap second. -/
  nanos : Nat
  earliest_le : earliestSecond ≤ seconds
  le_latest : seconds ≤ latestSecond
  nanos_lt : nanos < 2000000000
  /-- A leap second follows the last second of a minute. -/
  leap : nanos < 1000000000 ∨ seconds % 60 = 59
  deriving DecidableEq

namespace Instant

/-- The instant of a second and its nanoseconds, if the calendar has it. -/
def ofParts? (seconds : Int) (nanos : Nat) : Option Instant :=
  if h : earliestSecond ≤ seconds ∧ seconds ≤ latestSecond ∧ nanos < 2000000000 ∧
      (nanos < 1000000000 ∨ seconds % 60 = 59) then
    some ⟨seconds, nanos, h.1, h.2.1, h.2.2.1, h.2.2.2⟩
  else none

/-- Only the instant of these two numbers is answered. -/
theorem ofParts?_eq_some_iff {seconds : Int} {nanos : Nat} {t : Instant} :
    ofParts? seconds nanos = some t ↔ t.seconds = seconds ∧ t.nanos = nanos := by
  unfold ofParts?
  constructor
  · intro h
    split at h
    · cases h; exact ⟨rfl, rfl⟩
    · cases h
  · rintro ⟨rfl, rfl⟩
    rw [dif_pos ⟨t.earliest_le, t.le_latest, t.nanos_lt, t.leap⟩]

/-- 1970-01-01T00:00:00Z. -/
def epoch : Instant := ⟨0, 0, by decide, by decide, by decide, by decide⟩

instance : Inhabited Instant := ⟨epoch⟩

instance : LT Instant :=
  ⟨fun a b => a.seconds < b.seconds ∨ (a.seconds = b.seconds ∧ a.nanos < b.nanos)⟩

instance : LE Instant :=
  ⟨fun a b => a.seconds < b.seconds ∨ (a.seconds = b.seconds ∧ a.nanos ≤ b.nanos)⟩

theorem lt_def {a b : Instant} :
    a < b ↔ a.seconds < b.seconds ∨ (a.seconds = b.seconds ∧ a.nanos < b.nanos) := Iff.rfl

theorem le_def {a b : Instant} :
    a ≤ b ↔ a.seconds < b.seconds ∨ (a.seconds = b.seconds ∧ a.nanos ≤ b.nanos) := Iff.rfl

instance : DecidableRel (α := Instant) (· < ·) := fun _ _ =>
  inferInstanceAs (Decidable (_ ∨ _))

instance : DecidableRel (α := Instant) (· ≤ ·) := fun _ _ =>
  inferInstanceAs (Decidable (_ ∨ _))

theorem not_lt {a b : Instant} : ¬ a < b ↔ b ≤ a := by
  simp only [lt_def, le_def]; omega

/-- The instant `n` nanoseconds after 1970-01-01T00:00:00Z, leap seconds not counted. -/
def ofNanos? (n : Int) : Option Instant :=
  ofParts? (n / 1000000000) (n % 1000000000).toNat

/-- The nanoseconds since 1970-01-01T00:00:00Z, leap seconds not counted. -/
def toNanos (t : Instant) : Int := t.seconds * 1000000000 + t.nanos

/-- The instant a span later.  Within a leap second a step of less than a second may stay
in it; any other step leaves it first, forwards from its own second, backwards from the
next. -/
def add? (t : Instant) (d : Span) : Option Instant :=
  let whole := d.nanos.tdiv 1000000000
  let part := d.nanos.tmod 1000000000
  if t.nanos < 1000000000 then
    ofNanos? (t.toNanos + d.nanos)
  else if 0 < whole ∨ (0 < part ∧ 2000000000 ≤ t.nanos + part) then
    ofNanos? (t.toNanos - 1000000000 + d.nanos)
  else if whole < 0 then
    ofNanos? (t.toNanos + d.nanos)
  else
    ofParts? t.seconds (t.nanos + part).toNat

/-- The instant a span earlier. -/
def sub? (t : Instant) (d : Span) : Option Instant :=
  t.add? d.neg

end Instant

end ArtifactRelay.Time
