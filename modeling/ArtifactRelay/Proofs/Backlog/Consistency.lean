import ArtifactRelay.Proofs.Backlog.Exclusivity

/-!
# ArtifactRelay.Proofs.Backlog.Consistency

The fields of a row fit together, whatever was called.  A lease and a holder belong to
a claimed row and to no other, a response to a forwarded one, an error to one whose
last attempt failed; and the count of a row is the number of the claims that took it.

No field of a row can be followed alone: that a claim is counted is what keeps the
error of a failed row from a fresh one, and that only a holder records is what keeps a
response from a row that is not forwarded.  So the fields are kept together
(`Row.IsConsistent`), beside the number of claims so far: one lemma for each change of
a row, one for a call, one for a run.
-/

namespace ArtifactRelay

open Text Time

/-- The fields of an item fit its state, after so many claims. -/
structure WorkItem.IsConsistent (item : WorkItem) (claims : Nat) : Prop where
  attempts : item.attempts = claims
  leaseUntil : item.status = .claimed ↔ item.leaseUntil.isSome = true
  claimedBy : item.status = .claimed ↔ item.claimedBy.isSome = true
  retryAfter : item.retryAfter.isSome = true → item.status = .pending ∧ 1 ≤ claims
  engineResponse : item.status = .forwarded ↔ item.engineResponse.isSome = true
  taskRef : item.taskRef.isSome = true → item.status = .forwarded
  lastError_forwarded : item.status = .forwarded → item.lastError = none
  lastError_dead : item.status = .dead → item.lastError.isSome = true
  lastError_failed : item.status = .pending → 1 ≤ claims → item.lastError.isSome = true
  lastError_fresh : claims = 0 → item.lastError = none
  duplicateOf : item.duplicateOf.isSome = true → item.status = .dead
  fresh : claims = 0 → item.status = .pending
  foreign : item.eventType ≠ artifactObserved → item.status = .pending ∧ claims = 0

namespace Backlog

namespace Row

/-- The fields of a row fit its state, after so many claims. -/
structure IsConsistent {σ : Type} (r : Row σ) (claims : Nat) : Prop where
  attempts : r.attempts = .counted claims
  leaseUntil : r.isIn .claimed = true ↔ r.leaseUntil.isSome = true
  claimedBy : r.isIn .claimed = true ↔ r.claimedBy.isSome = true
  retryAfter : r.retryAfter.isSome = true → r.isIn .pending = true ∧ 1 ≤ claims
  engineResponse : r.isIn .forwarded = true ↔ r.engineResponse.isSome = true
  taskRef : r.taskRef ≠ .null → r.isIn .forwarded = true
  lastError_forwarded : r.isIn .forwarded = true → r.lastError = none
  lastError_dead : r.isIn .dead = true → r.lastError.isSome = true
  lastError_failed : r.isIn .pending = true → 1 ≤ claims → r.lastError.isSome = true
  lastError_fresh : claims = 0 → r.lastError = none
  duplicateOf : r.duplicateOf.isSome = true → r.isIn .dead = true
  fresh : claims = 0 → r.isIn .pending = true
  foreign : r.eventType ≠ artifactObserved → r.isIn .pending = true ∧ claims = 0

section

variable {σ : Type} {r : Row σ} {n : Nat}

theorem isConsistent_ofObservation (id : Int) (now : σ) (o : Observation) :
    (ofObservation id now o).IsConsistent 0 := by
  constructor <;> simp [ofObservation, isIn, Status.name]

/-- A row that waits or is claimed has no response, no task and no duplicate. -/
theorem IsConsistent.eq_none (h : r.IsConsistent n)
    (hopen : r.isIn .pending = true ∨ r.isIn .claimed = true) :
    r.engineResponse = none ∧ r.taskRef = .null ∧ r.duplicateOf = none := by
  have hother : ∀ s, s = .forwarded ∨ s = .dead → ¬ r.isIn s = true := by
    rintro s hs hin
    rcases hopen with hr | hr <;> cases eq_of_isIn hin hr <;> rcases hs with hs | hs <;> cases hs
  refine ⟨?_, ?_, ?_⟩
  · refine Option.not_isSome_iff_eq_none.mp fun hsome => ?_
    exact hother .forwarded (.inl rfl) (h.engineResponse.mpr hsome)
  · exact Classical.not_not.mp fun hne => hother .forwarded (.inl rfl) (h.taskRef hne)
  · refine Option.not_isSome_iff_eq_none.mp fun hsome => ?_
    exact hother .dead (.inr rfl) (h.duplicateOf hsome)

theorem IsConsistent.claim (h : r.IsConsistent n) (worker : String) (expiry now : σ)
    (hobserved : r.eventType = artifactObserved)
    (hopen : r.isIn .pending = true ∨ r.isIn .claimed = true) :
    (r.claim worker expiry now).IsConsistent (n + 1) := by
  obtain ⟨hresponse, htask, hduplicate⟩ := h.eq_none hopen
  constructor <;>
    simp [Row.claim, isIn, Status.name, h.attempts, hresponse, htask, hduplicate, hobserved]

theorem IsConsistent.register (h : r.IsConsistent n) (hash : String) (now : σ) :
    (r.register hash now).IsConsistent n := by
  cases h
  constructor <;> assumption

theorem IsConsistent.conclude (h : r.IsConsistent n) (hr : r.isIn .claimed = true) (o : Outcome)
    (retryAfter : Option σ) (now : σ) : (r.conclude o retryAfter now).IsConsistent n := by
  obtain ⟨hresponse, htask, hduplicate⟩ := h.eq_none (.inr hr)
  -- only a row that was claimed, and so counted and observed, is concluded
  have hclaimed : ∀ s, s ≠ .claimed → ¬ r.isIn s = true := fun s hs hin => hs (eq_of_isIn hin hr)
  have hcount : n ≠ 0 := fun hn => hclaimed .pending nofun (h.fresh hn)
  have hpos : 1 ≤ n := by omega
  have hobserved : r.eventType = artifactObserved :=
    Classical.not_not.mp fun hne => hcount (h.foreign hne).2
  cases o <;> constructor <;>
    simp [Row.conclude, isIn, Outcome.target, Status.name, h.attempts, hresponse, htask,
      hduplicate, hcount, hpos, hobserved]

end

/-- What a consistent row reads back as is consistent. -/
theorem IsConsistent.item {m : Medium} (hm : m.IsBackend) {r : Row m.Stamp} {n : Nat}
    (h : r.IsConsistent n) {item : WorkItem} (hreads : r.Reads m item) :
    item.IsConsistent n where
  attempts := by
    have hcount := hreads.attempts
    rw [h.attempts] at hcount
    exact (Medium.eq_of_count?_counted hm hcount).1
  leaseUntil := by
    rw [hreads.status_eq_iff, isSome_of_instantOption hreads.leaseUntil]
    exact h.leaseUntil
  claimedBy := by
    rw [hreads.status_eq_iff, hreads.claimedBy]
    exact h.claimedBy
  retryAfter := by
    rw [hreads.status_eq_iff, isSome_of_instantOption hreads.retryAfter]
    exact h.retryAfter
  engineResponse := by
    rw [hreads.status_eq_iff, hreads.engineResponse]
    exact h.engineResponse
  taskRef hsome := by
    obtain ⟨task, htask⟩ := Option.isSome_iff_exists.mp hsome
    have hnumber := hreads.taskRef
    rw [htask] at hnumber
    exact hreads.status_eq_iff.mpr (h.taskRef (ne_null_of_number hnumber))
  lastError_forwarded := by
    rw [hreads.status_eq_iff, hreads.lastError]
    exact h.lastError_forwarded
  lastError_dead := by
    rw [hreads.status_eq_iff, hreads.lastError]
    exact h.lastError_dead
  lastError_failed := by
    rw [hreads.status_eq_iff, hreads.lastError]
    exact h.lastError_failed
  lastError_fresh := by
    rw [hreads.lastError]
    exact h.lastError_fresh
  duplicateOf := by
    rw [hreads.status_eq_iff, hreads.duplicateOf]
    exact h.duplicateOf
  fresh := by
    rw [hreads.status_eq_iff]
    exact h.fresh
  foreign := by
    rw [hreads.status_eq_iff, hreads.eventType]
    exact h.foreign

end Row

namespace Store

variable {m : Medium}

/-! ## Claims that took an item -/

/-- The call is a claim that takes the item. -/
def IsTakenBy (s : Store m) (id : Int) : Call → Prop
  | .claim worker now lease => s.Takes id worker now lease
  | _ => False

/-- A call that leaves a row as it was did not take it. -/
theorem not_isTakenBy_of_eq {s : Store m} {id : Int} {c : Call}
    (h : (s.after c).find? id = s.find? id) : ¬ s.IsTakenBy id c := by
  cases c with
  | claim worker now lease => exact fun htakes => htakes h
  | _ => exact fun hnever => hnever

/-- A claim that does not take a row leaves it as it was.  Only a count that cannot go up any more
makes such a claim, by the worker that holds the row already. -/
theorem eq_of_not_isTakenBy {s : Store m} {id : Int} {r r' : Row m.Stamp} {worker : String}
    {now : Instant} {lease : Span} (hr : s.find? id = some r)
    (hr' : (s.after (.claim worker now lease)).find? id = some r')
    (h : ¬ s.IsTakenBy id (.claim worker now lease)) : r' = r := by
  have hsame : (s.after (.claim worker now lease)).find? id = s.find? id := Classical.not_not.mp h
  exact Option.some.inj (hr'.symm.trans (hsame.trans hr))

open Classical in
/-- How many claims of a run take an item. -/
noncomputable def takings (id : Int) : Store m → List Call → Nat
  | _, [] => 0
  | s, c :: calls => (if s.IsTakenBy id c then 1 else 0) + takings id (s.after c) calls

/-- No more claims take an item than there are calls. -/
theorem takings_le_length (id : Int) (s : Store m) (calls : List Call) :
    s.takings id calls ≤ calls.length := by
  induction calls generalizing s with
  | nil => exact Nat.le_refl 0
  | cons c calls ih =>
    have hrest := ih (s.after c)
    rw [takings, List.length_cons]
    split <;> omega

/-! ## Consistent stores -/

/-- Every row is consistent after so many claims, and none are counted where no row is. -/
structure IsConsistent (s : Store m) (claims : Int → Nat) : Prop where
  rows : ∀ id r, s.find? id = some r → r.IsConsistent (claims id)
  absent : ∀ id, s.find? id = none → claims id = 0

open Classical in
/-- A call leaves consistent rows, and counts itself if it is a claim that took one. -/
theorem isConsistent_after {s : Store m} (hs : s.IsNumbered) {claims : Int → Nat}
    (h : s.IsConsistent claims) (c : Call) :
    (s.after c).IsConsistent fun id => claims id + (if s.IsTakenBy id c then 1 else 0) where
  rows id r' hr' := by
    cases hr : s.find? id with
    | none =>
      obtain ⟨o, now, stamp, rfl, -, -, rfl⟩ := find?_after_of_none hr hr'
      simpa [IsTakenBy, h.absent id hr] using
        Row.isConsistent_ofObservation id stamp o
    | some r =>
      have hrow := h.rows id r hr
      obtain ⟨q, hq, hchange⟩ := find?_after hs c hr
      cases hr'.symm.trans hq
      cases hchange with
      | same =>
        rw [if_neg (not_isTakenBy_of_eq (hr'.trans hr.symm))]
        exact hrow
      | claim _ _ _ _ hclaimable =>
        split
        · exact hrow.claim _ _ _ (Row.eventType_of_isClaimable hclaimable)
            ((Row.isClaimable_cases hclaimable).imp_right And.left)
        · rename_i hnot
          rw [eq_of_not_isTakenBy hr hr' hnot]
          exact hrow
      | register =>
        simpa [IsTakenBy] using hrow.register _ _
      | conclude _ _ hheld =>
        simpa [IsTakenBy] using
          hrow.conclude (Row.isIn_of_isHeldBy hheld) _ _ _
  absent id hnone := by
    have hbefore : s.find? id = none := by
      cases hr : s.find? id with
      | none => rfl
      | some r =>
        obtain ⟨q, hq, -⟩ := find?_after hs c hr
        cases hnone.symm.trans hq
    rw [if_neg (not_isTakenBy_of_eq (hnone.trans hbefore.symm)), h.absent id hbefore]

/-- A run leaves consistent rows, and counts the claims that took them. -/
theorem isConsistent_afterAll {s : Store m} (hs : s.IsNumbered) {claims : Int → Nat}
    (h : s.IsConsistent claims) (calls : List Call) :
    (s.afterAll calls).IsConsistent fun id => claims id + s.takings id calls := by
  induction calls generalizing s claims with
  | nil => exact h
  | cons c calls ih =>
    have hrest := ih (isNumbered_after hs c) (isConsistent_after hs h c)
    simpa only [afterAll_cons, takings, Nat.add_assoc] using hrest

theorem isConsistent_empty (m : Medium) : (empty m).IsConsistent fun _ => 0 where
  rows _ _ hr := nomatch hr
  absent _ _ := rfl

/-- Every row of a reachable store is consistent. -/
theorem exists_isConsistent {s : Store m} (h : s.IsReachable) {id : Int} {r : Row m.Stamp}
    (hr : s.find? id = some r) : ∃ n, r.IsConsistent n := by
  obtain ⟨calls, rfl⟩ := h
  exact ⟨_, (isConsistent_afterAll (s := empty m) List.Pairwise.nil
    (isConsistent_empty m) calls).rows id r hr⟩

/-- Whatever is called from the empty backlog on, in any order, by any workers and at any
instants, the fields of every row fit its state and the number of claims that took it; and so do
the fields of the item that it reads back as. -/
theorem rows_consistent (hm : m.IsBackend) (calls : List Call) {r : Row m.Stamp}
    (hr : r ∈ ((empty m).afterAll calls).rows) :
    r.IsConsistent ((empty m).takings r.id calls) ∧
      ∀ item, ((empty m).afterAll calls).get r.id = .ok item →
        item.IsConsistent ((empty m).takings item.id calls) := by
  have hnumbered : ((empty m).afterAll calls).IsNumbered := isNumbered_of_isReachable ⟨calls, rfl⟩
  have hfind := find?_of_mem hnumbered hr
  have hconsistent :=
    isConsistent_afterAll (s := empty m) List.Pairwise.nil (isConsistent_empty m) calls
  have hrow := hconsistent.rows _ _ hfind
  rw [Nat.zero_add] at hrow
  refine ⟨hrow, fun item hitem => ?_⟩
  rw [get, hfind] at hitem
  have hreads := Row.reads_of_read hitem
  rw [hreads.id]
  exact hrow.item hm hreads

/-- A file that was claimed again after its first attempt failed: two claims took it. -/
theorem rows_consistent_second_claim :
    let calls : List Call := [.enqueue seen (clock 0), .claim "a" (clock 0) (.ofSeconds 60),
      .record 1 "a" (.retry "refused") none (clock 1), .claim "b" (clock 2) (.ofSeconds 60)]
    ∃ r ∈ ((empty .server).afterAll calls).rows, r.attempts = .whole 2 ∧
      r.IsConsistent ((empty .server).takings r.id calls) ∧
      ∀ item, ((empty .server).afterAll calls).get r.id = .ok item →
        item.IsConsistent ((empty .server).takings item.id calls) := by
  intro calls
  have hrow : ∃ r ∈ ((empty .server).afterAll calls).rows, r.attempts = .whole 2 := by decide
  obtain ⟨r, hr, hcount⟩ := hrow
  exact ⟨r, hr, hcount, rows_consistent (.inr rfl) calls hr⟩

end Store

end Backlog

end ArtifactRelay
