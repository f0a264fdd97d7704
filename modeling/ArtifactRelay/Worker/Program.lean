import ArtifactRelay.Artifact.Folder
import ArtifactRelay.Engine.Upload
import ArtifactRelay.Error
import ArtifactRelay.Time.Instant
import ArtifactRelay.WorkItem.Basic

/-!
# ArtifactRelay.Worker.Program

What a worker does, apart from who answers it.  A `Program` either is done or asks
a `Request` and goes on with the answer; it asks finitely often, whatever the
answers are.  Everything outside a worker is behind a request: the clock, the
shutdown signal, the backlog, the artifact directory and the engine.  So a run of
several workers is an interleaving of the requests of their programs.
-/

namespace ArtifactRelay.Worker

open Time

/-- What a worker asks of the world around it. -/
inductive Request
  /-- The time on the clock. -/
  | now
  /-- Whether the worker is to stop. -/
  | isStopping
  | claim (worker : String) (now : Instant) (lease : Span)
  /-- The artifact directory, if there is one. -/
  | folder (dir : String)
  | registerHash (id : Int) (hash : String) (now : Instant) (since : Option Instant)
  | submit (path : Artifact.Name) (displayName : String)
  | record (id : Int) (worker : String) (outcome : Outcome) (retryAfter : Option Instant)

/-- The kind of answer that a request has. -/
def Request.Answer : Request → Type
  | now => Instant
  | isStopping => Bool
  | claim .. => Except Error (Option WorkItem)
  | folder _ => Option Artifact.Folder
  | registerHash .. => Except Error Bool
  | submit .. => Except Engine.Fault Engine.Acknowledgment
  | record .. => Except Error WorkItem

/-- A program that ends with a value of `α`. -/
inductive Program (α : Type)
  | done (a : α)
  | ask (r : Request) (next : r.Answer → Program α)

namespace Program

/-- Goes on with another program. -/
def bind {α β : Type} : Program α → (α → Program β) → Program β
  | done a, f => f a
  | ask r next, f => ask r fun answer => (next answer).bind f

instance : Monad Program where
  pure := done
  bind := bind

@[simp] theorem pure_eq {α : Type} (a : α) : (pure a : Program α) = done a := rfl

@[simp] theorem done_bind {α β : Type} (a : α) (f : α → Program β) : done a >>= f = f a := rfl

@[simp] theorem ask_bind {α β : Type} (r : Request) (next : r.Answer → Program α)
    (f : α → Program β) : ask r next >>= f = ask r fun answer => next answer >>= f := rfl

theorem bind_assoc {α β γ : Type} (p : Program α) (f : α → Program β) (g : β → Program γ) :
    p >>= f >>= g = p >>= fun a => f a >>= g := by
  induction p with
  | done a => rfl
  | ask r next ih => simp only [ask_bind]; congr; funext answer; exact ih answer

/-- The program that asks once. -/
def request (r : Request) : Program r.Answer := ask r done

@[simp] theorem request_bind {β : Type} (r : Request) (f : r.Answer → Program β) :
    request r >>= f = ask r f := rfl

/-- Runs a program, each request answered from a state. -/
def run {α σ : Type} (answer : (r : Request) → σ → r.Answer × σ) : Program α → σ → α × σ
  | done a, s => (a, s)
  | ask r next, s =>
    let (x, s) := answer r s
    (next x).run answer s

theorem run_bind {α β σ : Type} (answer : (r : Request) → σ → r.Answer × σ) (p : Program α)
    (f : α → Program β) (s : σ) :
    (p >>= f).run answer s = (f (p.run answer s).1).run answer (p.run answer s).2 := by
  induction p generalizing s with
  | done a => rfl
  | ask r next ih => exact ih _ _

end Program

end ArtifactRelay.Worker
