import ArtifactRelay.Proofs.Backlog.Agreement

/-!
# ArtifactRelay.Proofs.Backlog.Atomicity

A call that answers an error of its own has changed nothing (`after_eq_of_error`).  What fails
while a call is prepared leaves the store as it was by construction.  A call that has taken effect
answers from the row that it wrote, so what is left to show is that this row reads back: its count
is within what a count can be.

Not all calls answer.  A server keeps one instant that it cannot tell any more, a leap second after
the end of the calendar; a call that writes it takes effect and stops the program, and so does one
that reads the item.
-/

namespace ArtifactRelay.Backlog

open Text Time

/-- The answer is this error. -/
def Reply.IsError (e : Error) : Reply → Prop
  | item answer => answer = .error e
  | claimed answer => answer = .error e
  | duplicate answer => answer = .error e
  | items answer => answer = .error e
  | done answer => answer = .error e

namespace Store

variable {m : Medium}

/-- Every item may be claimed once more. -/
def HasRoom (s : Store m) : Prop :=
  ∀ r ∈ s.rows, ∀ n : Nat, r.attempts = .counted n → m.HasRoom n

/-- An item that may be claimed once more reads back. -/
theorem HasRoom.not_isOvercounted {s : Store m} (h : s.HasRoom) (id : Int) :
    ¬ s.IsOvercounted id := by
  rintro ⟨-, r, n, hr, hn, hlt⟩
  exact absurd (h r (mem_of_find? hr) n hn).read (Nat.not_lt.mpr (Nat.le_of_lt hlt))

/-- Whatever was called, a call that answers an error of its own leaves the backlog and the results
exactly as they were, if no item was claimed too often before.  Any other call that fails is on a
server, and stopped at an instant after the end of the calendar. -/
theorem after_eq_of_error (hm : m.IsBackend) {s : Store m} (hs : s.IsReachable)
    (hroom : s.HasRoom) {c : Call} {e : Error} (h : (s.answer c).IsError e) :
    (e.isOwn = true → s.after c = s) ∧
      (e.isOwn = false → ∃ id, (s.after c).IsUntold id) := by
  have hclean : FailsCleanly s (s.after c) e := by
    cases c with
    | enqueue o now => exact enqueue_of_error hm hs h
    | claim worker now lease =>
      exact claimNext_of_error hm hs (fun r hr n hn => (hroom r hr n hn).read) h
    | registerHash id hash now since => exact registerHash_of_error hm h
    | record id worker o retryAfter now =>
      exact record_of_error hm hs (hroom.not_isOvercounted id) h
    | report a => exact report_of_error hm h
  rcases hclean with ⟨hown, hsame⟩ | ⟨rfl, huntold⟩
  · exact ⟨fun _ => hsame, fun hnot => absurd (hown.symm.trans hnot) nofun⟩
  · exact ⟨nofun, fun _ => huntold⟩

/-- A worker that lost its lease is told so, and nothing changes. -/
theorem after_eq_of_error_lost :
    let s := (empty .server).afterAll [.enqueue seen (clock 0),
      .claim "a" (clock 0) (.ofSeconds 60), .claim "b" (clock 61) (.ofSeconds 60)]
    let late := Call.record 1 "a" (.retry "refused") none (clock 62)
    (s.answer late).IsError (.leaseLost 1 "a") ∧ s.after late = s := by
  intro s late
  have hs : s.IsReachable := ⟨_, rfl⟩
  have hlost : (s.answer late).IsError (.leaseLost 1 "a") := by rfl
  have hcount : ∀ r ∈ s.rows, r.attempts = .counted 2 := by decide
  have hroom : s.HasRoom := fun r hr n hn => Medium.hasRoom_of_lt (hcount r hr) (by decide) hn
  exact ⟨hlost, (after_eq_of_error (.inr rfl) hs hroom hlost).1 rfl⟩

/-- A claim at the leap second after the end of the calendar takes the item and does not answer. -/
example :
    let s := (empty .server).afterAll [.enqueue seen (clock 0)]
    let claim := Call.claim "a" pastCalendar (.ofSeconds 0)
    (s.answer claim).IsError .interrupted ∧
      ∀ r ∈ (s.after claim).rows, r.isHeldBy "a" = true := by
  exact ⟨by rfl, by decide⟩

end Store

end ArtifactRelay.Backlog
