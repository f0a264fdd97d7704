import ArtifactRelay.Backlog.Store

/-!
# ArtifactRelay.Backlog.Call

Runs of a store.  A `Call` is one operation with its arguments; calls of any
workers follow each other in any order and at any instants, and the stores that
they lead to from the empty one are the reachable stores.
-/

namespace ArtifactRelay.Backlog

open Time

/-- An operation with its arguments. -/
inductive Call
  | enqueue (o : Observation) (now : Instant)
  | claim (worker : String) (now : Instant) (lease : Span)
  | registerHash (id : Int) (hash : String) (now : Instant) (since : Option Instant)
  | record (id : Int) (worker : String) (outcome : Outcome) (retryAfter : Option Instant)
      (now : Instant)
  | report (a : AnalysisRecord)

namespace Store

variable {m : Medium}

/-- The store after a call, whatever the call answers. -/
def after (s : Store m) : Call → Store m
  | .enqueue o now => (s.enqueue o now).2
  | .claim worker now lease => (s.claimNext worker now lease).2
  | .registerHash id hash now since => (s.registerHash id hash now since).2
  | .record id worker outcome retryAfter now => (s.record id worker outcome retryAfter now).2
  | .report a => (s.report a).2

/-- The store after calls, one after the other. -/
def afterAll (s : Store m) (calls : List Call) : Store m := calls.foldl after s

@[simp] theorem afterAll_nil (s : Store m) : s.afterAll [] = s := rfl

@[simp] theorem afterAll_cons (s : Store m) (c : Call) (calls : List Call) :
    s.afterAll (c :: calls) = (s.after c).afterAll calls := rfl

/-- A store that calls lead to from the empty one. -/
def IsReachable (s : Store m) : Prop := ∃ calls, s = (Store.empty m).afterAll calls

/-- What every call keeps holds of every reachable store, if it holds of the empty one. -/
theorem IsReachable.induction {p : Store m → Prop} (empty : p (Store.empty m))
    (step : ∀ s c, p s → p (s.after c)) {s : Store m} (h : s.IsReachable) : p s := by
  obtain ⟨calls, rfl⟩ := h
  have run : ∀ s, p s → p (s.afterAll calls) := by
    induction calls with
    | nil => exact fun _ hs => hs
    | cons c calls ih => exact fun s hs => ih _ (step s c hs)
  exact run _ empty

end Store

end ArtifactRelay.Backlog
