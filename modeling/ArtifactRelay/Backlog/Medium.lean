import ArtifactRelay.Backlog.Cell
import ArtifactRelay.Error
import ArtifactRelay.Text.Order
import ArtifactRelay.Time.Reading
import ArtifactRelay.Time.Written

/-!
# ArtifactRelay.Backlog.Medium

What a kind of database decides for itself.  The backlog's rules are the same on
every medium; a `Medium` says how instants are kept and compared, which values it
refuses, and what comes back from a row that holds something else than the
backlog wrote.

* `Medium.embedded` — a database in a file.  Instants are kept as texts cut to
  microseconds and compared as texts, so years before 0 and after 9999 are out of
  their order.  Nothing is refused; what cannot be read back is a fault.
* `Medium.server` — a database server.  Instants are kept as microseconds from
  2000 on, cut towards that year, and compared as numbers.  Texts with a zero
  character, instants before the server's calendar, claims past the largest
  signed number of 32 bits and negative limits are refused.  The server's calendar
  is longer than that of instants: it keeps the second after the last one, which a
  leap second there is counted as, and reading that back stops the program.
-/

namespace ArtifactRelay.Backlog

open Time

/-- What a kind of database decides for itself. -/
structure Medium where
  /-- An instant as it is kept. -/
  Stamp : Type
  /-- The stamp of an instant, `none` if the instant is refused. -/
  stamp? : Instant → Option Stamp
  /-- The instant of a stamp, `none` if it cannot be read. -/
  instant? : Stamp → Option Instant
  /-- Whether a stamp is at most another one. -/
  atMost : Stamp → Stamp → Bool
  /-- Whether a stamp is below another one. -/
  below : Stamp → Stamp → Bool
  /-- Whether a text can be kept. -/
  keepsText : String → Bool
  /-- Whether a count of claims can be kept. -/
  keepsCount : Cell → Bool
  /-- The number of claims of a count, `none` if it cannot be read. -/
  count? : Cell → Option Nat
  /-- Whether a list may be limited by a negative number, which means no limit. -/
  allowsNegativeLimit : Bool
  /-- Whether the results are looked at only if the backlog has no duplicate. -/
  asksInTurn : Bool
  /-- The fault of a refused statement. -/
  refusal : Error
  /-- What becomes of reading a stamp that is of no instant. -/
  unreadable : Error
  /-- The fault of a row with an unknown state. -/
  unknownStatus : String → Error

namespace Medium

/-- A database in a file. -/
@[reducible] def embedded : Medium where
  Stamp := String
  stamp? t := some t.toMicros
  instant? := Instant.ofText?
  atMost a b := !Text.precedes b a
  below a b := Text.precedes a b
  keepsText _ := true
  keepsCount _ := true
  count? c := c.whole?.bind fun n => if 0 ≤ n ∧ n ≤ 4294967295 then some n.toNat else none
  allowsNegativeLimit := true
  asksInTurn := true
  refusal := .storage
  unreadable := .storage
  unknownStatus _ := .storage

/-- 2000-01-01T00:00:00Z, in nanoseconds since 1970. -/
def serverEpoch : Int := 946684800000000000

/-- The start of the server's calendar, 4714-11-24 BC, in microseconds from 2000 on. -/
def serverStart : Int := -211813488000000000

/-- The microseconds from 2000 on, cut towards that year. -/
def serverMicros (t : Instant) : Int := (t.toNanos - serverEpoch).tdiv 1000

/-- A database server. -/
@[reducible] def server : Medium where
  Stamp := Int
  stamp? t := if serverStart ≤ serverMicros t then some (serverMicros t) else none
  instant? n := Instant.ofNanos? (serverEpoch + n * 1000)
  atMost a b := decide (a ≤ b)
  below a b := decide (a < b)
  keepsText s := s.toList.all (· ≠ '\x00')
  keepsCount c := c.whole?.any fun n => decide (n ≤ 2147483647)
  count? c := c.whole?.map Int.toNat
  allowsNegativeLimit := false
  asksInTurn := false
  refusal := .database
  unreadable := .interrupted
  unknownStatus name := .other (.unknownStatus name)

variable (m : Medium)

/-- The stamp of an instant, or the refusal. -/
def stamp (t : Instant) : Except Error m.Stamp :=
  match m.stamp? t with
  | some s => .ok s
  | none => .error m.refusal

/-- The stamp of an instant, if there is one. -/
def stampOption : Option Instant → Except Error (Option m.Stamp)
  | some t => (m.stamp t).map some
  | none => .ok none

/-- Refuses what cannot be kept. -/
def require (kept : Bool) : Except Error Unit :=
  if kept then .ok () else .error m.refusal

/-- Refuses a text that cannot be kept. -/
def requireText (s : String) : Except Error Unit := m.require (m.keepsText s)

/-- Refuses a text that is there and cannot be kept. -/
def requireTextOption (s : Option String) : Except Error Unit := m.require (s.all m.keepsText)

/-- The instant of a stamp, if it is of one. -/
def instant (s : m.Stamp) : Except Error Instant :=
  match m.instant? s with
  | some t => .ok t
  | none => .error m.unreadable

/-- The number in a cell that may be empty, or the refusal. -/
def number : Cell → Except Error (Option Int)
  | .null => .ok none
  | .whole n => .ok (some n)
  | _ => .error m.refusal

/-- The instant of a stamp that may be missing. -/
def instantOption : Option m.Stamp → Except Error (Option Instant)
  | some s => (m.instant s).map some
  | none => .ok none

end Medium

end ArtifactRelay.Backlog
