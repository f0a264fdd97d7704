import ArtifactRelay.Proofs.Backlog.Losing
import ArtifactRelay.Proofs.Worker.Draining

/-!
# ArtifactRelay.Proofs.Worker.Chronicle

A cycle of one worker among others.  A `Chronicle` is the store with all that happened on
it: what the worker asked and was answered, and the calls that others made before each
of its requests (`Chronicle.answer`).  What a worker claimed, finished, put back and lost
is read off its exchanges.

Most of what happens is neither a claim nor a record of the worker (`Chronicle.Drifts`).
That enters nothing on its account, leaves what is finished as it is, and takes an item
from the worker only if somebody else claims it.
-/

namespace ArtifactRelay

open Backlog Time Worker

/-! ## Chronicles -/

/-- What surrounds a worker when it asks: first others call, then the request is answered. -/
structure Interlude extends World where
  /-- What others called on the backlog since the last request. -/
  calls : List Call

/-- The interlude is one of others: nobody calls by the name of the worker, and an outage is not
answered as the loss of an item. -/
structure Interlude.IsApart (x : Interlude) (name : String) : Prop where
  calls : ∀ c ∈ x.calls, c.worker? ≠ some name
  outage : ∀ e ∈ x.outage, e.isLoss = false

/-- Something that happened on a backlog: a call of somebody else, or an exchange of the
worker. -/
inductive Act
  | other (c : Call)
  | own (e : Exchange)

/-- An act, with the store that it found. -/
structure Deed (m : Medium) where
  found : Store m
  act : Act

/-- A store, and all that has happened on it so far. -/
structure Chronicle (m : Medium) where
  store : Store m
  deeds : List (Deed m)

namespace Exchange

/-- The item that the worker was handed. -/
def claimed? : Exchange → Option WorkItem
  | ⟨.claim .., answer⟩ => (answer : Except Error (Option WorkItem)).toOption.join
  | _ => none

/-- The outcome that was written, and the number of its item. -/
def written? : Exchange → Option (Int × Outcome)
  | ⟨.record id _ o _, answer⟩ =>
    if (answer : Except Error WorkItem).isOk then some (id, o) else none
  | _ => none

/-- The outcome, if it was forwarded or dead, and the number of its item. -/
def finished? (e : Exchange) : Option (Int × Outcome) :=
  e.written?.filter (·.2.target.isTerminal)

/-- The number of the item that went back to pending. -/
def returned? (e : Exchange) : Option Int :=
  (e.written?.filter fun x => !x.2.target.isTerminal).map (·.1)

/-- The number of the item whose outcome was dropped, because it was lost. -/
def discarded? : Exchange → Option Int
  | ⟨.record id _ _ _, answer⟩ =>
    match (answer : Except Error WorkItem) with
    | .error e => if e.isLoss then some id else none
    | .ok _ => none
  | _ => none

/-- The worker asked for an item. -/
def asked? : Exchange → Option Unit
  | ⟨.claim .., _⟩ => some ()
  | _ => none

/-- The worker neither asked for an item nor recorded an outcome. -/
structure IsQuiet (e : Exchange) : Prop where
  claimed : e.claimed? = none
  finished : e.finished? = none
  returned : e.returned? = none
  discarded : e.discarded? = none
  asked : e.asked? = none

end Exchange

/-- A request that neither asks for an item nor records an outcome. -/
def Worker.Request.isQuiet : Request → Bool
  | .claim .. | .record .. => false
  | _ => true

theorem Exchange.isQuiet_of_request {r : Request} (h : r.isQuiet = true) (answer : r.Answer) :
    IsQuiet ⟨r, answer⟩ := by
  cases r with
  | claim | record => cases h
  | _ => exact ⟨rfl, rfl, rfl, rfl, rfl⟩

namespace Deed

variable {m : Medium}

def own? (d : Deed m) : Option Exchange :=
  match d.act with
  | .own e => some e
  | .other _ => none

/-- Somebody else takes the item. -/
def IsTakeover (d : Deed m) (id : Int) (name : String) : Prop :=
  ∃ v now lease, d.act = .other (.claim v now lease) ∧ v ≠ name ∧ d.found.Takes id v now lease

end Deed

namespace Chronicle

variable {m : Medium}

/-- What the worker asked and was answered. -/
def exchanges (t : Chronicle m) : List Exchange := t.deeds.filterMap Deed.own?

/-- Something of each exchange that has it. -/
def pick {α : Type} (f : Exchange → Option α) (t : Chronicle m) : List α := t.exchanges.filterMap f

/-- The items that the worker was handed. -/
def claimed (t : Chronicle m) : List WorkItem := t.pick Exchange.claimed?

/-- The items that the worker forwarded or retired, with their outcomes. -/
def finished (t : Chronicle m) : List (Int × Outcome) := t.pick Exchange.finished?

/-- The items that the worker put back. -/
def returned (t : Chronicle m) : List Int := t.pick Exchange.returned?

/-- The items whose outcomes were dropped. -/
def discarded (t : Chronicle m) : List Int := t.pick Exchange.discarded?

/-- How often the worker asked for an item. -/
def asks (t : Chronicle m) : Nat := (t.pick Exchange.asked?).length

/-- Somebody else calls. -/
def overhear (t : Chronicle m) (c : Call) : Chronicle m :=
  ⟨t.store.after c, t.deeds ++ [⟨t.store, .other c⟩]⟩

/-- The worker is answered, and the store is another one then. -/
def exchange (t : Chronicle m) (e : Exchange) (s : Store m) : Chronicle m :=
  ⟨s, t.deeds ++ [⟨t.store, .own e⟩]⟩

/-- What a request answers and leaves, after others have called. -/
def answer (around : Nat → Interlude) (r : Request) (t : Chronicle m) : r.Answer × Chronicle m :=
  let x := around t.exchanges.length
  let heard := x.calls.foldl overhear t
  let (a, s) := x.answer r heard.store
  (a, heard.exchange ⟨r, a⟩ s)

theorem isNumbered_overhear {t : Chronicle m} (h : t.store.IsNumbered) (calls : List Call) :
    (calls.foldl overhear t).store.IsNumbered := by
  induction calls generalizing t with
  | nil => exact h
  | cons c calls ih => exact ih (Store.isNumbered_after h c)

theorem isNumbered_answer {t : Chronicle m} (h : t.store.IsNumbered) (around : Nat → Interlude)
    (r : Request) : (answer around r t).2.store.IsNumbered := by
  let x := around t.exchanges.length
  let heard := x.calls.foldl overhear t
  have hheard : heard.store.IsNumbered := isNumbered_overhear h x.calls
  show (x.answer r heard.store).2.IsNumbered
  rcases x.answer_store r heard.store with hsame | ⟨c, -, hcall⟩
  · rwa [hsame]
  · rw [hcall]
    exact Store.isNumbered_after hheard c

section

variable {α : Type} (t : Chronicle m) (f : Exchange → Option α)

@[simp] theorem pick_overhear (c : Call) : (t.overhear c).pick f = t.pick f := by
  simp [pick, exchanges, overhear, Deed.own?]

@[simp] theorem pick_exchange (e : Exchange) (s : Store m) :
    (t.exchange e s).pick f = t.pick f ++ (f e).toList := by
  simp only [pick, exchanges, exchange, Deed.own?, List.filterMap_append, List.filterMap_cons,
    List.filterMap_nil]
  cases f e <;> rfl

theorem pick_exchange_none {e : Exchange} (h : f e = none) (s : Store m) :
    (t.exchange e s).pick f = t.pick f := by
  rw [pick_exchange, h, Option.toList_none, List.append_nil]

theorem pick_exchange_some {e : Exchange} {a : α} (h : f e = some a) (s : Store m) :
    (t.exchange e s).pick f = t.pick f ++ [a] := by
  rw [pick_exchange, h, Option.toList_some]

end

/-- Only forwarded and dead items are finished. -/
theorem isTerminal_of_mem_finished {t : Chronicle m} {x : Int × Outcome} (h : x ∈ t.finished) :
    x.2.target.isTerminal = true := by
  obtain ⟨e, -, he⟩ := List.mem_filterMap.mp h
  exact (Option.filter_eq_some_iff.mp he).2

/-! ## What goes on around an item -/

/-- Something happens besides the claims and the records of the worker: somebody else calls, or
the worker asks something else. -/
inductive Drifts (name : String) (t : Chronicle m) : Chronicle m → Prop
  | other {c : Call} (hc : c.worker? ≠ some name) : Drifts name t (t.overhear c)
  | same {e : Exchange} (he : e.IsQuiet) : Drifts name t (t.exchange e t.store)
  | call {e : Exchange} (he : e.IsQuiet) {c : Call} (hc : c.worker? = none) :
    Drifts name t (t.exchange e (t.store.after c))

namespace Drifts

variable {name : String} {t t' : Chronicle m}

/-- An exchange that is quiet writes no more than a hash. -/
theorem of_answer (name : String) (t : Chronicle m) (x : World) {r : Request}
    (hr : r.isQuiet = true) :
    t.Drifts name (t.exchange ⟨r, (x.answer r t.store).1⟩ (x.answer r t.store).2) := by
  have hquiet := Exchange.isQuiet_of_request hr (x.answer r t.store).1
  rcases x.answer_store r t.store with h | ⟨c, hc, h⟩
  · rw [h]
    exact .same hquiet
  · rw [h]
    refine .call hquiet ?_
    cases r with
    | registerHash => cases hc; rfl
    | claim | record => cases hr
    | _ => cases hc

theorem isNumbered (h : t.Drifts name t') (hs : t.store.IsNumbered) : t'.store.IsNumbered := by
  cases h with
  | same => exact hs
  | other | call => exact Store.isNumbered_after hs _

theorem pick {α : Type} {f : Exchange → Option α} (h : t.Drifts name t')
    (hf : ∀ e : Exchange, e.IsQuiet → f e = none) : t'.pick f = t.pick f := by
  cases h with
  | other => exact pick_overhear ..
  | same he | call he => exact pick_exchange_none _ _ (hf _ he) _

theorem hasStatus (h : t.Drifts name t') (hs : t.store.IsNumbered) {id : Int} {status : Status}
    (hterminal : status.isTerminal = true) (hin : t.store.HasStatus id status) :
    t'.store.HasStatus id status := by
  cases h with
  | same => exact hin
  | other | call => exact Store.hasStatus_after hs _ hterminal hin

/-- What the worker held it holds, or somebody else has taken it. -/
theorem isHeld (h : t.Drifts name t') (hs : t.store.IsNumbered) {id : Int}
    (hheld : t.store.IsHeld id name) :
    ∃ d, t'.deeds = t.deeds ++ [d] ∧ (t'.store.IsHeld id name ∨ d.IsTakeover id name) := by
  obtain ⟨r, hr, hheld⟩ := hheld
  cases h with
  | same => exact ⟨_, rfl, .inl ⟨r, hr, hheld⟩⟩
  | other hc =>
    refine ⟨_, rfl, (Store.isHeldBy_after hs hc hr hheld).imp_right ?_⟩
    rintro ⟨v, now, lease, rfl, hv, htakes⟩
    exact ⟨v, now, lease, rfl, hv, htakes⟩
  | call he hc =>
    refine ⟨_, rfl, .inl ?_⟩
    rcases Store.isHeldBy_after hs (by rw [hc]; exact nofun) hr hheld with h | ⟨_, _, _, rfl, -, -⟩
    · exact h
    · cases hc

theorem exists_deed (h : t.Drifts name t') : ∃ d, t'.deeds = t.deeds ++ [d] := by
  cases h <;> exact ⟨_, rfl⟩

end Drifts

end Chronicle

end ArtifactRelay
