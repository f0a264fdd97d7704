/-!
# ArtifactRelay.WorkItem.Status

The lifecycle of a work item.  A pending item waits for a worker, a claimed one
belongs to one worker until its lease ends, a forwarded one was accepted by the
engine, and a dead one will never be.  The last two are terminal: nothing follows
them (`not_canBecome_of_isTerminal`).
-/

namespace ArtifactRelay

/-- Lifecycle state of a work item. -/
inductive Status
  | pending
  | claimed
  | forwarded
  | dead
  deriving DecidableEq, Repr

namespace Status

/-- All states, in the order of the lifecycle. -/
def all : List Status := [pending, claimed, forwarded, dead]

/-- The name under which a state is stored and shown. -/
def name : Status → String
  | pending => "pending"
  | claimed => "claimed"
  | forwarded => "forwarded"
  | dead => "dead"

/-- The state with a given name. -/
def ofName? : String → Option Status
  | "pending" => some pending
  | "claimed" => some claimed
  | "forwarded" => some forwarded
  | "dead" => some dead
  | _ => none

@[simp] theorem ofName?_name (s : Status) : ofName? s.name = some s := by
  cases s <;> rfl

/-- Only the name of a state is read as the state. -/
theorem name_of_ofName? {name : String} {s : Status} (h : ofName? name = some s) :
    s.name = name := by
  unfold ofName? at h
  split at h <;> cases h <;> rfl

theorem name_injective {s t : Status} (h : s.name = t.name) : s = t :=
  Option.some.inj (by rw [← ofName?_name s, h, ofName?_name])

/-- A state that an item never leaves. -/
def isTerminal : Status → Bool
  | forwarded | dead => true
  | pending | claimed => false

/-- Whether an item in state `s` may move to state `t`.  A claimed item may be claimed anew,
by a worker that takes over a stale lease. -/
def canBecome (s t : Status) : Bool :=
  match s, t with
  | pending, claimed => true
  | claimed, _ => true
  | _, _ => false

/-- Nothing follows a terminal state. -/
theorem not_canBecome_of_isTerminal {s : Status} (h : s.isTerminal = true) (t : Status) :
    s.canBecome t = false := by
  cases s <;> first | rfl | cases h

end Status

end ArtifactRelay
