import ArtifactRelay.Proofs.Backlog.Consistency

/-!
# ArtifactRelay.Proofs.Backlog.Lifecycle

The backlog makes the moves that `Status.canBecome` declares, and no others.  The
operations never ask `canBecome`: which states follow each other is decided a second
time by what they require of a row before they change it.

An operation handles an item if it claims or concludes it.  What is handled makes a
declared move, and one of those that belong to the operation (`Call.Makes`); what is
not handled stays in its state (`moves_or_stays`).  The other way round each declared
move is made in some run (`moves_exemplar`).
-/

namespace ArtifactRelay.Backlog

open Text Time

/-- The moves that belong to a call: a claim takes an item that waits or was claimed, a record
leads the item that it names to where its outcome ends. -/
def Call.Makes (id : Int) : Call → Status → Status → Prop
  | claim .., before, status => (before = .pending ∨ before = .claimed) ∧ status = .claimed
  | record key _ o _ _, before, status => key = id ∧ before = .claimed ∧ status = o.target
  | _, _, _ => False

/-- The call is one that claims or concludes items. -/
def Call.isHandling : Call → Bool
  | claim .. | record .. => true
  | _ => false

namespace Store

variable {m : Medium}

/-! ## States of items -/

/-- The item is there and in a state. -/
def HasStatus (s : Store m) (id : Int) (status : Status) : Prop :=
  ∃ r ∈ s.find? id, r.isIn status = true

instance (s : Store m) (id : Int) (status : Status) : Decidable (s.HasStatus id status) :=
  inferInstanceAs (Decidable (∃ r ∈ s.find? id, r.isIn status = true))

theorem HasStatus.unique {s : Store m} {id : Int} {a b : Status} (ha : s.HasStatus id a)
    (hb : s.HasStatus id b) : a = b := by
  obtain ⟨r, hr, hina⟩ := ha
  obtain ⟨q, hq, hinb⟩ := hb
  cases (Option.mem_def.mp hr).symm.trans (Option.mem_def.mp hq)
  exact Row.eq_of_isIn hina hinb

/-- An item that reads back is in the state of its row. -/
theorem hasStatus_iff_of_get {s : Store m} {id : Int} {item : WorkItem}
    (h : s.get id = .ok item) {status : Status} : s.HasStatus id status ↔ item.status = status := by
  obtain ⟨r, hr, hreads⟩ := exists_reads_of_get h
  rw [hreads.status_eq_iff]
  simp [HasStatus, hr]

/-- Every item of a reachable store is in a state. -/
theorem exists_hasStatus {s : Store m} (h : s.IsReachable) {id : Int} {r : Row m.Stamp}
    (hr : s.find? id = some r) : ∃ status, s.HasStatus id status := by
  obtain ⟨status, hstatus⟩ := (isWritten_of_isReachable h id r hr).status
  exact ⟨status, r, hr, Row.isIn_iff.mpr hstatus⟩

/-! ## Moves -/

/-- The call claims or concludes the item. -/
def Handles (s : Store m) (id : Int) (c : Call) : Prop :=
  c.isHandling = true ∧ (s.after c).find? id ≠ s.find? id

/-- The call handles the item, and leads it from one state to another. -/
structure Moves (s : Store m) (c : Call) (id : Int) (before status : Status) : Prop where
  handles : s.Handles id c
  before : s.HasStatus id before
  after : (s.after c).HasStatus id status

/-- What is handled was there before. -/
theorem Handles.exists_row {s : Store m} {id : Int} {c : Call} (h : s.Handles id c) :
    ∃ r, s.find? id = some r := by
  obtain ⟨hkind, hne⟩ := h
  cases hr : s.find? id with
  | some r => exact ⟨r, rfl⟩
  | none =>
    cases hr' : (s.after c).find? id with
    | none => exact absurd (hr'.trans hr.symm) hne
    | some r' =>
      obtain ⟨_, _, _, rfl, -⟩ := find?_after_of_none hr hr'
      cases hkind

/-- A call handles an item and makes a declared move that belongs to the call, or it leaves the
item in its state. -/
theorem moves_or_stays {s : Store m} (hs : s.IsNumbered) (c : Call) {id : Int}
    {before : Status} (h : s.HasStatus id before) :
    (∃ status, s.Moves c id before status ∧ before.canBecome status = true ∧
      c.Makes id before status) ∨
    ¬ s.Handles id c ∧ (s.after c).HasStatus id before := by
  have hbefore := h
  obtain ⟨r, hr, hin⟩ := h
  obtain ⟨r', hr', hchange⟩ := find?_after hs c hr
  cases hchange with
  | same => exact .inr ⟨fun hhandles => hhandles.2 (hr'.trans hr.symm), r, hr', hin⟩
  | register => exact .inr ⟨fun hhandles => (nomatch hhandles.1), _, hr', hin⟩
  | @claim worker now _ lease _ _ _ _ _ _ _ hclaimable =>
    have hopen : before = .pending ∨ before = .claimed :=
      (Row.isClaimable_cases hclaimable).imp (Row.eq_of_isIn hin)
        fun hover => Row.eq_of_isIn hin hover.1
    by_cases htakes : s.IsTakenBy id (.claim worker now lease)
    · refine .inl ⟨.claimed, ⟨⟨rfl, htakes⟩, hbefore, _, hr', Row.isIn_claim.mpr rfl⟩, ?_, hopen,
        rfl⟩
      rcases hopen with rfl | rfl <;> rfl
    · refine .inr ⟨fun hhandles => htakes hhandles.2, r, ?_, hin⟩
      rw [hr', eq_of_not_isTakenBy hr hr' htakes]
      rfl
  | conclude _ _ hheld =>
    have hclaimed : before = .claimed := Row.eq_of_isIn hin (Row.isIn_of_isHeldBy hheld)
    subst hclaimed
    refine .inl ⟨_, ⟨⟨rfl, fun hsame => ?_⟩, hbefore, _, hr', Row.isIn_conclude.mpr rfl⟩,
      Outcome.canBecome_target _, id_of_find? hr, rfl, rfl⟩
    exact Row.conclude_ne hheld _ _ _ (Option.some.inj (hr'.symm.trans (hsame.trans hr)))

/-- A record that is written concludes the item that it names. -/
theorem handles_of_record {s : Store m} {id : Int} {worker : String} {o : Outcome}
    {retryAfter : Option Instant} {now : Instant} {item : WorkItem}
    (h : (s.record id worker o retryAfter now).1 = .ok item) :
    item.id = id ∧ s.Handles id (.record id worker o retryAfter now) := by
  rcases s.record_cases id worker o retryAfter now with
    ⟨e, hcase⟩ | ⟨stamp, retryStamp, row, -, -, hrow, hheld, hcase⟩
  · rw [hcase] at h
    cases h
  · rw [hcase] at h
    have hid : item.id = row.id := by
      rw [(Row.reads_of_read h).id, Row.id_conclude]
    refine ⟨hid.trans (id_of_find? hrow), rfl, ?_⟩
    show (s.record id worker o retryAfter now).2.find? id ≠ s.find? id
    rw [hcase, find?_modify_self (fun _ => Row.id_conclude ..) hrow, hrow]
    exact fun hsame => Row.conclude_ne hheld _ _ _ (Option.some.inj hsame)

/-! ## Every declared move -/

/-- A run with one item, and a call that makes the move of it if it is declared. -/
def exemplar (before status : Status) : List Call × Call :=
  let waiting : List Call := [.enqueue seen (clock 0)]
  let held : List Call := waiting ++ [.claim "a" (clock 0) (.ofSeconds 60)]
  match before, status with
  | .pending, _ => (waiting, .claim "a" (clock 0) (.ofSeconds 60))
  | _, .claimed => (held, .claim "b" (clock 61) (.ofSeconds 60))
  | _, .pending => (held, .record 1 "a" (.retry "refused") none (clock 1))
  | _, .forwarded => (held, .record 1 "a" (.forwarded none "ok" none) none (clock 1))
  | _, .dead => (held, .record 1 "a" (.dead "gone" none) none (clock 1))

theorem moves_exemplar (hm : m.IsBackend) {before status : Status}
    (h : before.canBecome status = true) :
    ((empty m).afterAll (exemplar before status).1).Moves (exemplar before status).2 1
      before status := by
  let s : Store m := (empty m).afterAll (exemplar before status).1
  -- the rows differ in their state, or in the number of their claims
  have hmoves : (exemplar before status).2.isHandling = true ∧ s.HasStatus 1 before ∧
      (s.after (exemplar before status).2).HasStatus 1 status ∧
      ((s.after (exemplar before status).2).find? 1).map (fun r => (r.status, r.attempts)) ≠
        (s.find? 1).map fun r => (r.status, r.attempts) := by
    revert h
    rcases hm with rfl | rfl <;> cases before <;> cases status <;> decide
  obtain ⟨hkind, hbefore, hafter, hne⟩ := hmoves
  exact ⟨⟨hkind, fun hsame => hne (congrArg _ hsame)⟩, hbefore, hafter⟩

/-! ## The lifecycle -/

/-- The backlog makes exactly the declared moves.  In every reachable store, what a call handles
makes a declared move that belongs to the call, and any other item stays in its state, which is
the one that it reads back in; whoever is handed an item or answered a record handled it; and
each declared move is made in some reachable store. -/
theorem lifecycle_exact (hm : m.IsBackend) :
    (∀ s : Store m, s.IsReachable → ∀ c id,
      (s.Handles id c → ∃ before status, s.Moves c id before status) ∧
      (∀ before status, s.Moves c id before status →
        before.canBecome status = true ∧ c.Makes id before status) ∧
      (∀ before, s.HasStatus id before → ¬ s.Handles id c → (s.after c).HasStatus id before)) ∧
    (∀ s : Store m, s.IsReachable →
      (∀ id r, s.find? id = some r → ∃ status, s.HasStatus id status) ∧
      (∀ id item, s.get id = .ok item →
        ∀ status, s.HasStatus id status ↔ item.status = status) ∧
      (∀ worker now lease item, (s.claimNext worker now lease).1 = .ok (some item) →
        s.Handles item.id (.claim worker now lease)) ∧
      ∀ id worker o retryAfter now item, (s.record id worker o retryAfter now).1 = .ok item →
        item.id = id ∧ s.Handles id (.record id worker o retryAfter now)) ∧
    ∀ before status, before.canBecome status = true →
      ∃ (s : Store m) (c : Call) (id : Int), s.IsReachable ∧ s.Moves c id before status := by
  refine ⟨fun s hs c id => ?_, fun s hs => ?_, fun before status h =>
    ⟨_, _, 1, ⟨_, rfl⟩, moves_exemplar hm h⟩⟩
  · have hnumbered := isNumbered_of_isReachable hs
    refine ⟨fun hhandles => ?_, fun before status hmoves => ?_, fun before hbefore hnot => ?_⟩
    · obtain ⟨r, hr⟩ := hhandles.exists_row
      obtain ⟨before, hbefore⟩ := exists_hasStatus hs hr
      rcases moves_or_stays hnumbered c hbefore with ⟨status, hmoves, -⟩ | ⟨hnot, -⟩
      · exact ⟨before, status, hmoves⟩
      · exact absurd hhandles hnot
    · rcases moves_or_stays hnumbered c hmoves.before with
        ⟨other, hother, hdeclared⟩ | ⟨hnot, -⟩
      · rw [hmoves.after.unique hother.after]
        exact hdeclared
      · exact absurd hmoves.handles hnot
    · rcases moves_or_stays hnumbered c hbefore with ⟨_, hmoves, -⟩ | ⟨-, hstays⟩
      · exact absurd hmoves.handles hnot
      · exact hstays
  · exact ⟨fun id r hr => exists_hasStatus hs hr, fun id item hitem _ => hasStatus_iff_of_get hitem,
      fun _ _ _ _ h => ⟨rfl, takes_of_claimNext hm (isNumbered_of_isReachable hs)
        (isCounted_of_isReachable hs) h⟩, fun _ _ _ _ _ _ h => handles_of_record h⟩

/-- A lease that is over: another worker's claim handles the item, which stays claimed. -/
theorem lifecycle_exact_takeover :
    let s := (empty .server).afterAll (exemplar .claimed .claimed).1
    let c : Call := .claim "b" (clock 61) (.ofSeconds 60)
    s.IsReachable ∧ s.Moves c 1 .claimed .claimed ∧
      Status.canBecome .claimed .claimed = true ∧ c.Makes 1 .claimed .claimed := by
  intro s c
  have hs : s.IsReachable := ⟨_, rfl⟩
  obtain ⟨hsteps, hanswers, -⟩ := lifecycle_exact (m := .server) (.inr rfl)
  obtain ⟨item, hitem, hid⟩ := exists_of_handed?
    (show handed? (s.claimNext "b" (clock 61) (.ofSeconds 60)).1 = some 1 by rfl)
  have hhandles := (hanswers s hs).2.2.1 _ _ _ item hitem
  rw [hid] at hhandles
  have hmoves : s.Moves c 1 .claimed .claimed := ⟨hhandles, by decide, by decide⟩
  exact ⟨hs, hmoves, (hsteps s hs c 1).2.1 _ _ hmoves⟩

end Store

end ArtifactRelay.Backlog
