import ArtifactRelay.Proofs.Backlog.Copies
import ArtifactRelay.Proofs.Backlog.Lifecycle
import Mathlib.Logic.ExistsUnique

/-!
# ArtifactRelay.Proofs.Backlog.Standing

Where an item stands at an instant.  It is finished, or under a lease that still runs, or waits for
its backoff to end, or may be claimed (`Standing`).  Two of these are said of instants that are read
back and the other two of stamps as they are kept, and a registration asks a third time whether a
lease still runs.

Stamps compare as the instants that they are read back as (`Medium.Marks.below_iff`), so all of them
draw one boundary: a lease runs up to its end, included, and a backoff up to its end, excluded
(`isClaimable_of_claimed`, `isClaimable_of_pending`, `isActive_eq`).  An item is in one state, so it
stands in one way (`stands_once`).  The instant itself is what a server may keep as another one: in
a leap second an item is leased and claimable at once (`stands_twice_in_leap_second`).
-/

namespace ArtifactRelay.Backlog

open Text Time

/-- Where an item stands at an instant. -/
inductive Standing
  /-- It was forwarded, or is dead. -/
  | finished
  /-- A worker holds it under a lease that still runs. -/
  | leased
  /-- It waits for its backoff to end. -/
  | deferred
  /-- A worker may take it. -/
  | claimable
  deriving DecidableEq, Repr

namespace Row

/-- Whether the row is under a lease whose end, as it is read back, is at `now` or later. -/
def isLeasedAt (m : Medium) (r : Row m.Stamp) (now : Instant) : Bool :=
  r.isIn .claimed && (r.leaseUntil.bind m.instant?).any (fun t => decide (now ≤ t))

/-- Whether the row waits for a backoff whose end, as it is read back, is after `now`. -/
def isDeferredAt (m : Medium) (r : Row m.Stamp) (now : Instant) : Bool :=
  r.isIn .pending && (r.retryAfter.bind m.instant?).any (fun t => decide (now < t))

/-- Whether the row stands so at an instant. -/
def stands (m : Medium) (r : Row m.Stamp) (now : Instant) : Standing → Bool
  | .finished => r.isIn .forwarded || r.isIn .dead
  | .leased => r.isLeasedAt m now
  | .deferred => r.isDeferredAt m now
  | .claimable => (m.stamp? now).any (r.isClaimable m)

variable {m : Medium} {r : Row m.Stamp}

/-! ## One boundary for each end -/

section

variable {now : Instant} {stamp : m.Stamp}

/-- A claimed row may be taken once its lease does not run any more. -/
theorem isClaimable_of_claimed (hm : m.IsBackend) (h : ∀ x ∈ r.stamps, ∃ t, m.Marks x t)
    (hnow : m.Marks stamp now) (hobserved : r.eventType = artifactObserved)
    (hclaimed : r.isIn .claimed = true) (hlease : r.leaseUntil.isSome = true) :
    r.isClaimable m stamp = !r.isLeasedAt m now := by
  obtain ⟨x, hx⟩ := Option.isSome_iff_exists.mp hlease
  obtain ⟨t, ht⟩ := h x (mem_stamps_of_leaseUntil hx)
  have hpending : r.isIn .pending = false :=
    Bool.eq_false_iff.mpr fun hin => nomatch eq_of_isIn hin hclaimed
  rw [Bool.eq_iff_iff]
  simp [isClaimable, isLeasedAt, hobserved, hclaimed, hpending, hx, ht.read, ht.below_iff hm hnow,
    Instant.not_le]

/-- A waiting row may be taken once its backoff is over. -/
theorem isClaimable_of_pending (hm : m.IsBackend) (h : ∀ x ∈ r.stamps, ∃ t, m.Marks x t)
    (hnow : m.Marks stamp now) (hobserved : r.eventType = artifactObserved)
    (hpending : r.isIn .pending = true) : r.isClaimable m stamp = !r.isDeferredAt m now := by
  have hclaimed : r.isIn .claimed = false :=
    Bool.eq_false_iff.mpr fun hin => nomatch eq_of_isIn hin hpending
  cases hx : r.retryAfter with
  | none => simp [isClaimable, isDeferredAt, hobserved, hclaimed, hpending, hx]
  | some x =>
    obtain ⟨t, ht⟩ := h x (mem_stamps_of_retryAfter hx)
    rw [Bool.eq_iff_iff]
    simp [isClaimable, isDeferredAt, hobserved, hclaimed, hpending, hx, ht.read,
      ht.atMost_iff hm hnow, Instant.not_lt]

/-- A registration counts what was forwarded, and what is under a lease that still runs. -/
theorem isActive_eq (hm : m.IsBackend) (h : ∀ x ∈ r.stamps, ∃ t, m.Marks x t)
    (hnow : m.Marks stamp now) :
    r.isActive m stamp = (r.isIn .forwarded || r.isLeasedAt m now) := by
  unfold isActive isLeasedAt
  cases hx : r.leaseUntil with
  | none => rfl
  | some x =>
    obtain ⟨t, ht⟩ := h x (mem_stamps_of_leaseUntil hx)
    rw [Option.any_some, Option.bind_some, ht.read, Option.any_some, Bool.eq_iff_iff]
    simp [hnow.atMost_iff hm ht]

/-- Where a row of a state stands. -/
def standing (m : Medium) (r : Row m.Stamp) (now : Instant) : Status → Standing
  | .pending => if r.isDeferredAt m now then .deferred else .claimable
  | .claimed => if r.isLeasedAt m now then .leased else .claimable
  | .forwarded | .dead => .finished

/-- A row may be taken if it neither waits for a backoff nor is leased nor finished. -/
theorem isClaimable_eq (hm : m.IsBackend) (h : ∀ x ∈ r.stamps, ∃ t, m.Marks x t)
    (hnow : m.Marks stamp now) (hobserved : r.eventType = artifactObserved) {status : Status}
    (hstatus : r.isIn status = true)
    (hlease : r.isIn .claimed = true → r.leaseUntil.isSome = true) :
    r.isClaimable m stamp = decide (r.standing m now status = .claimable) := by
  cases status with
  | pending =>
    rw [isClaimable_of_pending hm h hnow hobserved hstatus, standing]
    cases r.isDeferredAt m now <;> rfl
  | claimed =>
    rw [isClaimable_of_claimed hm h hnow hobserved hstatus (hlease hstatus), standing]
    cases r.isLeasedAt m now <;> rfl
  | forwarded => exact Bool.eq_false_iff.mpr (not_isClaimable_of_forwarded hstatus stamp)
  | dead =>
    refine Bool.eq_false_iff.mpr fun hclaimable => ?_
    rcases isClaimable_cases hclaimable with hpending | ⟨hclaimed, -⟩
    · cases eq_of_isIn hstatus hpending
    · cases eq_of_isIn hstatus hclaimed

/-- A row of a state stands in one way. -/
theorem stands_iff (hm : m.IsBackend) (h : ∀ x ∈ r.stamps, ∃ t, m.Marks x t)
    (hnow : m.Marks stamp now) (hobserved : r.eventType = artifactObserved) {status : Status}
    (hstatus : r.isIn status = true)
    (hlease : r.isIn .claimed = true → r.leaseUntil.isSome = true) {other : Standing} :
    r.stands m now other = true ↔ other = r.standing m now status := by
  have hstamp := hnow.stamp
  have hclaimable := isClaimable_eq hm h hnow hobserved hstatus hlease
  have hnot : ∀ s, s ≠ status → ¬ r.isIn s = true := fun s hs hin => hs (eq_of_isIn hin hstatus)
  cases status with
  | pending =>
    cases hdeferred : r.isDeferredAt m now <;> cases other <;>
      simp [stands, standing, isLeasedAt, hstamp, hclaimable, hnot, hdeferred]
  | claimed =>
    cases hleased : r.isLeasedAt m now <;> cases other <;>
      simp [stands, standing, isDeferredAt, hstamp, hclaimable, hnot, hleased]
  | forwarded =>
    cases other <;>
      simp [stands, standing, isLeasedAt, isDeferredAt, hstamp, hclaimable, hstatus, hnot]
  | dead =>
    cases other <;>
      simp [stands, standing, isLeasedAt, isDeferredAt, hstamp, hclaimable, hstatus, hnot]

end

/-- The item of a row is finished, leased or deferred if the row is. -/
theorem Reads.stands {item : WorkItem} (h : r.Reads m item) (now : Instant) :
    r.stands m now .finished = item.status.isTerminal ∧
    r.stands m now .leased = item.isLeasedAt now ∧
    r.stands m now .deferred =
      (item.status == .pending && item.retryAfter.any fun t => decide (now < t)) := by
  have hstate : ∀ s, r.isIn s = (item.status == s) := fun s => by
    rw [Bool.eq_iff_iff, ← h.status_eq_iff, beq_iff_eq]
  have hends : ∀ {x : Option m.Stamp} {t : Option Instant}, m.instantOption x = .ok t →
      x.bind m.instant? = t := by
    intro x t hx
    cases x with
    | none =>
      cases hx
      rfl
    | some y =>
      change (m.instant y).map some = .ok t at hx
      unfold Medium.instant at hx
      rw [Option.bind_some]
      cases hy : m.instant? y with
      | none => simp [hy, Except.map] at hx
      | some u => simpa [hy, Except.map] using hx
  unfold Row.stands isLeasedAt isDeferredAt WorkItem.isLeasedAt
  rw [hends h.leaseUntil, hends h.retryAfter, hstate, hstate, hstate, hstate]
  refine ⟨?_, rfl, rfl⟩
  cases item.status <;> rfl

end Row

namespace Store

variable {m : Medium} {s : Store m}

/-! ## A registration beside a row -/

/-- One row is looked at apart from the others. -/
theorem any_rows_eq_or (hs : s.IsNumbered) {r : Row m.Stamp} (hr : r ∈ s.rows)
    (p : Row m.Stamp → Bool) : s.rows.any p = (p r || (s.without r.id).rows.any p) := by
  unfold without
  rw [Bool.eq_iff_iff, Bool.or_eq_true, List.any_filter]
  simp only [List.any_eq_true, Bool.and_eq_true, decide_eq_true_eq]
  constructor
  · rintro ⟨q, hq, hp⟩
    by_cases hid : q.id = r.id
    · have hsame := find?_of_mem hs hq
      rw [hid, find?_of_mem hs hr] at hsame
      cases hsame
      exact .inl hp
    · exact .inr ⟨q, hq, hid, hp⟩
  · rintro (hp | ⟨q, hq, -, hp⟩)
    · exact ⟨r, hr, hp⟩
    · exact ⟨q, hq, hp⟩

/-- A registration finds a row, or finds what it finds without it. -/
theorem hasDuplicate_eq_or (hs : s.IsNumbered) {r : Row m.Stamp} (hr : r ∈ s.rows) (id : Int)
    (hash : String) (now : m.Stamp) (since : Option m.Stamp) :
    s.hasDuplicate id hash now since =
      (r.duplicates m id hash now since || (s.without r.id).hasDuplicate id hash now since) := by
  unfold hasDuplicate
  rw [any_rows_eq_or hs hr, Bool.or_assoc]
  rfl

/-- A registration of another item under the hash of a row, that counts everything, is told of a
duplicate if the row was forwarded or is leased; else it is told what it would be told without the
row. -/
theorem registerHash_beside (hm : m.IsBackend) (hs : s.IsReachable) {now : Instant}
    {stamp : m.Stamp} (hnow : m.Marks stamp now) {r : Row m.Stamp} (hr : r ∈ s.rows)
    (hmarks : ∀ x ∈ r.stamps, ∃ t, m.Marks x t) {hash : String} (hhash : r.contentHash = some hash)
    {id : Int} (hne : id ≠ r.id) :
    (s.registerHash id hash now none).1 = ((s.without r.id).registerHash id hash now none).1.map
      fun found => r.isIn .forwarded || r.isLeasedAt m now || found := by
  cases hkept : m.keepsText hash with
  | false => rw [registerHash_of_not_kept hkept, registerHash_of_not_kept hkept]; rfl
  | true =>
    have hreports := isSome_reports_of_isReachable hs
    have hrow : r.duplicates m id hash stamp none = (r.isIn .forwarded || r.isLeasedAt m now) := by
      rw [← Row.isActive_eq hm hmarks hnow]
      simp [Row.duplicates, hhash, hne.symm]
    have hid : ∀ q : Row m.Stamp, (q.register hash stamp).id = q.id := fun _ => Row.id_register ..
    rw [registerHash_of_kept hkept hnow.stamp rfl hreports,
      registerHash_of_kept (s := s.without r.id) hkept hnow.stamp rfl hreports,
      hasDuplicate_modify s id hid, hasDuplicate_modify (s.without r.id) id hid,
      hasDuplicate_eq_or (isNumbered_of_isReachable hs) hr, hrow]
    rfl

/-! ## The standings -/

/-- Every artifact of every reachable store stands in one way at every whole microsecond, on a
server outside leap seconds, and the item that it reads back as is finished, leased or deferred with
it.  A registration of any other item under its hash finds it if it was forwarded or its lease still
runs, and else finds what it would find without it. -/
theorem stands_once (hm : m.IsBackend) (hs : s.IsReachable) {now : Instant}
    (hnow : m.IsOrdered now) (hwhole : now.nanos % 1000 = 0) {r : Row m.Stamp} (hr : r ∈ s.rows)
    (hobserved : r.eventType = artifactObserved)
    (hdigits : ∀ x ∈ r.stamps, ∃ t ∈ m.instant? x, t.IsFourDigit) :
    (∃! standing, r.stands m now standing = true) ∧
    (∀ item, s.get r.id = .ok item →
      r.stands m now .finished = item.status.isTerminal ∧
      r.stands m now .leased = item.isLeasedAt now ∧
      r.stands m now .deferred =
        (item.status == .pending && item.retryAfter.any fun t => decide (now < t))) ∧
    ∀ hash, r.contentHash = some hash → ∀ id, id ≠ r.id →
      (s.registerHash id hash now none).1 = ((s.without r.id).registerHash id hash now none).1.map
        fun found => r.isIn .forwarded || r.stands m now .leased || found := by
  have hfind := find?_of_mem (isNumbered_of_isReachable hs) hr
  have hmarks : ∀ x ∈ r.stamps, ∃ t, m.Marks x t := fun x hx => by
    obtain ⟨v, hv⟩ := isStamped_of_isReachable hs r.id r hfind x hx
    obtain ⟨t, ht, htdigits⟩ := hdigits x hx
    exact ⟨t, Medium.marks_of_instant? hm hv ht htdigits⟩
  obtain ⟨stamp, hstamp⟩ := Medium.exists_marks hm hnow hwhole
  obtain ⟨n, hfields⟩ := exists_isConsistent hs hfind
  obtain ⟨status, q, hq, hstatus⟩ := exists_hasStatus hs hfind
  cases hfind.symm.trans hq
  refine ⟨⟨r.standing m now status, ?_, fun other => ?_⟩, fun item hitem => ?_,
    fun hash hhash id hne => registerHash_beside hm hs hstamp hr hmarks hhash hne⟩
  · exact (Row.stands_iff hm hmarks hstamp hobserved hstatus hfields.leaseUntil.mp).mpr rfl
  · exact (Row.stands_iff hm hmarks hstamp hobserved hstatus hfields.leaseUntil.mp).mp
  · rw [get, hfind] at hitem
    exact (Row.reads_of_read hitem).stands now

/-- At the end of its lease a file is leased still, and another one with its content is a
duplicate. -/
theorem stands_once_at_lease_end :
    let s := (empty .server).afterAll [.enqueue seen (clock 0), .enqueue seen (clock 0),
      .claim "a" (clock 0) (.ofSeconds 60), .registerHash 1 "h" (clock 0) none]
    ∃ r ∈ s.rows, (∃! standing, r.stands .server (clock 60) standing = true) ∧
      r.stands .server (clock 60) .leased = true ∧
      (s.registerHash 2 "h" (clock 60) none).1 = .ok true := by
  intro s
  have hs : s.IsReachable := ⟨_, rfl⟩
  have hrow : ∃ r ∈ s.rows, r.id = 1 ∧ r.eventType = artifactObserved ∧
      (∀ x ∈ r.stamps, ∃ t ∈ Medium.server.instant? x, t.IsFourDigit) ∧
      r.contentHash = some "h" ∧ r.stands .server (clock 60) .leased = true := by decide +kernel
  have hwithout : ((s.without 1).registerHash 2 "h" (clock 60) none).1 = .ok false := by rfl
  clear_value s
  obtain ⟨r, hr, hid, hobserved, hdigits, hhash, hleased⟩ := hrow
  obtain ⟨honce, -, hregister⟩ := stands_once (.inr rfl) hs
    (Medium.isOrdered_of_nanos_lt (by decide)) (show (clock 60).nanos % 1000 = 0 by decide) hr
    hobserved hdigits
  refine ⟨r, hr, honce, hleased, ?_⟩
  rw [hregister "h" hhash 2 (by rw [hid]; decide), hid, hwithout, hleased]
  simp [Except.map]

/-- On a server, in a leap second: a file is leased and yet claimable, so that a second worker is
handed it; and another file with its content comes out as new. -/
theorem stands_twice_in_leap_second :
    let s := (empty .server).afterAll [.enqueue seen (clock 0), .enqueue seen (clock 0),
      .claim "a" (clock 39) (.ofMillis 1200), .registerHash 1 "h" (clock 39) none]
    let leap : Instant := ⟨1700000039, 1500000000, by decide, by decide, by decide, by decide⟩
    leap.IsFourDigit ∧ leap.nanos % 1000 = 0 ∧
      (∃ r ∈ s.rows, r.id = 1 ∧ r.eventType = artifactObserved ∧ r.contentHash = some "h" ∧
        (∀ x ∈ r.stamps, ∃ t ∈ Medium.server.instant? x, t.IsFourDigit) ∧
        r.stands .server leap .leased = true ∧ r.stands .server leap .claimable = true) ∧
      ((s.claimNext "b" leap (.ofSeconds 60)).1.map (Option.map (·.id))) = .ok (some 1) ∧
      (s.registerHash 2 "h" leap none).1 = .ok false := by
  refine ⟨by decide, by decide, by decide +kernel, by rfl, by rfl⟩

end Store

end ArtifactRelay.Backlog
