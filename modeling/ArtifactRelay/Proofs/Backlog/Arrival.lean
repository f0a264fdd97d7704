import ArtifactRelay.Proofs.Backlog.Preservation

/-!
# ArtifactRelay.Proofs.Backlog.Arrival

First claims are in the order of arrival.  Retries, leases that are over and clocks that go
back may hand items out again in any order; but no item is claimed for the first time before
an older one was.

A claim takes the least number of those that may be claimed (`id_le_of_takes`), since the rows
of a reachable store stand in the order of their numbers.  And an item that was never claimed
may be claimed at any instant, because it waits without a backoff
(`IsConsistent.isClaimable_of_fresh`); so no claim passes it by for a younger one.
-/

namespace ArtifactRelay.Backlog

open Text Time

namespace Row

/-- The item was claimed before. -/
def IsTried {σ : Type} (r : Row σ) : Prop := ∃ n, 1 ≤ n ∧ r.attempts = .counted n

/-- A row that no claim took may be claimed at any instant. -/
theorem IsConsistent.isClaimable_of_fresh {m : Medium} {r : Row m.Stamp}
    (h : r.IsConsistent 0) (hobserved : r.eventType = artifactObserved) (stamp : m.Stamp) :
    r.isClaimable m stamp = true := by
  have hbackoff : r.retryAfter = none :=
    Option.not_isSome_iff_eq_none.mp fun hsome => nomatch (h.retryAfter hsome).2
  simp [isClaimable, hobserved, h.fresh rfl, hbackoff]

/-- What was claimed stays so. -/
theorem IsTried.continues {σ : Type} {r before : Row σ} {claims : Nat} (h : before.IsTried)
    (hcontinues : r.Continues before claims) : r.IsTried := by
  obtain ⟨n, hpos, hn⟩ := h
  exact ⟨n + claims, by omega, hcontinues.attempts n hn⟩

/-- An item reads back with claims if its row has them. -/
theorem Reads.isTried_iff {m : Medium} (hm : m.IsBackend) {r : Row m.Stamp} {item : WorkItem}
    (h : r.Reads m item) (hcount : ∃ n, r.attempts = .counted n) :
    r.IsTried ↔ 1 ≤ item.attempts := by
  obtain ⟨n, hn⟩ := hcount
  have hread := h.attempts
  rw [hn] at hread
  rw [(Medium.eq_of_count?_counted hm hread).1]
  constructor
  · rintro ⟨k, hpos, hk⟩
    exact Cell.pos_of_counted_eq (hk.symm.trans hn) hpos
  · exact fun hpos => ⟨n, hpos, hn⟩

end Row

namespace Store

variable {m : Medium} {s : Store m}

/-! ## The least number -/

/-- The first row of a kind has the least number of them. -/
theorem id_le_of_find? (hs : s.IsReachable) {p : Row m.Stamp → Bool} {row r : Row m.Stamp}
    (hrow : s.rows.find? p = some row) (hr : r ∈ s.rows) (hp : p r = true) : row.id ≤ r.id := by
  obtain ⟨-, before, later, hrows, hbefore⟩ := List.find?_eq_some_iff_append.mp hrow
  have hsorted := List.pairwise_map.mp (pairwise_ids_of_isReachable hs)
  rw [hrows] at hr hsorted
  rcases List.mem_append.mp hr with hmem | hmem
  · simpa [hp] using hbefore r hmem
  · rcases List.mem_cons.mp hmem with rfl | hmem
    · exact Int.le_refl _
    · have hlater := (List.pairwise_append.mp hsorted).2.1
      exact Int.le_of_lt (List.rel_of_pairwise_cons hlater hmem)

/-- A claim takes the least number of those that may be claimed. -/
theorem id_le_of_takes (hs : s.IsReachable) {id : Int} {worker : String} {now : Instant}
    {lease : Span} (h : s.Takes id worker now lease) :
    ∃ stamp, m.stamp? now = some stamp ∧
      ∀ r ∈ s.rows, r.isClaimable m stamp = true → id ≤ r.id := by
  unfold Takes at h
  rcases s.claimNext_cases worker now lease with
    ⟨e, hcase⟩ | hcase | ⟨_, lastly, stamp, row, -, -, hstamp, -, hrow, -, hcase⟩
  · rw [hcase] at h
    exact absurd rfl h
  · rw [hcase] at h
    exact absurd rfl h
  · refine ⟨stamp, hstamp, fun r hr hclaimable => ?_⟩
    have hid : id = row.id := by
      refine Classical.byContradiction fun hne => h ?_
      rw [hcase]
      exact find?_modify_ne (fun _ => rfl) hne
    rw [hid]
    exact id_le_of_find? hs hrow hr hclaimable

/-! ## First claims -/

/-- No item was claimed unless every older artifact was. -/
def IsInOrder (s : Store m) : Prop :=
  ∀ r ∈ s.rows, ∀ q ∈ s.rows, r.id < q.id → r.eventType = artifactObserved → q.IsTried →
    r.IsTried

/-- Nothing is taken while an older artifact was never claimed. -/
theorem isTried_of_isTakenBy (hs : s.IsReachable) {id : Int} {c : Call} (h : s.IsTakenBy id c)
    {r : Row m.Stamp} (hr : r ∈ s.rows) (hlt : r.id < id)
    (hobserved : r.eventType = artifactObserved) : r.IsTried := by
  obtain ⟨n, hfields⟩ := exists_isConsistent hs (find?_of_mem (isNumbered_of_isReachable hs) hr)
  refine ⟨n, Nat.pos_of_ne_zero fun hfresh => ?_, hfields.attempts⟩
  subst hfresh
  cases c with
  | claim worker now lease =>
    obtain ⟨stamp, -, hleast⟩ := id_le_of_takes hs h
    have hle := hleast r hr (hfields.isClaimable_of_fresh hobserved stamp)
    omega
  | _ => exact h

/-- An item that was claimed was there before the call; it was claimed before, or the call took
it. -/
theorem isTried_after_cases (hs : s.IsReachable) {c : Call} {id : Int} {r : Row m.Stamp}
    (hr : (s.after c).find? id = some r) (h : r.IsTried) :
    ∃ before, s.find? id = some before ∧ (before.IsTried ∨ s.IsTakenBy id c) := by
  have hcounted := isCounted_of_isReachable hs
  obtain ⟨n, hpos, hn⟩ := h
  cases hbefore : s.find? id with
  | none =>
    obtain ⟨_, _, _, -, -, -, hfresh⟩ := find?_after_of_none hbefore hr
    rw [hfresh] at hn
    exact absurd (Cell.pos_of_counted_eq (k := 0) hn.symm hpos) nofun
  | some before =>
    refine ⟨before, rfl, Classical.or_iff_not_imp_right.mpr fun htaken => ?_⟩
    obtain ⟨_, hsame, hcontinues⟩ :=
      continues_after (isNumbered_of_isReachable hs) c hbefore
    cases hr.symm.trans hsame
    rw [if_neg htaken] at hcontinues
    obtain ⟨k, hk⟩ := hcounted _ _ hbefore
    exact ⟨k, Cell.pos_of_counted_eq (hn.symm.trans (hcontinues.attempts k hk)) hpos, hk⟩

/-- A call keeps the order of first claims. -/
theorem isInOrder_after (hs : s.IsReachable) (h : s.IsInOrder) (c : Call) :
    (s.after c).IsInOrder := by
  intro r' hr' q' hq' hlt hobserved htried
  have hnumbered := isNumbered_of_isReachable hs
  replace hr' := find?_of_mem (isNumbered_after hnumbered c) hr'
  replace hq' := find?_of_mem (isNumbered_after hnumbered c) hq'
  obtain ⟨q, hq, hcases⟩ := isTried_after_cases hs hq' htried
  rw [← id_of_find? hq] at hlt
  cases hr : s.find? r'.id with
  | none =>
    -- what is fresh is younger than all the others
    obtain ⟨_, _, _, -, -, hid, -⟩ := find?_after_of_none hr hr'
    have hyounger := s.id_lt_nextId (mem_of_find? hq)
    omega
  | some r =>
    obtain ⟨_, hsame, hcontinues⟩ := continues_after hnumbered c hr
    cases hr'.symm.trans hsame
    rw [hcontinues.id] at hlt
    rw [hcontinues.eventType] at hobserved
    refine Row.IsTried.continues ?_ hcontinues
    rcases hcases with hbefore | htaken
    · exact h r (mem_of_find? hr) q (mem_of_find? hq) hlt hobserved hbefore
    · rw [← id_of_find? hq] at htaken
      exact isTried_of_isTakenBy hs htaken (mem_of_find? hr) hlt hobserved

theorem isInOrder_of_isReachable (hs : s.IsReachable) : s.IsInOrder :=
  (hs.induction (p := fun s => s.IsReachable ∧ s.IsInOrder) ⟨⟨[], rfl⟩, fun _ hr => nomatch hr⟩
    fun _ c h => ⟨h.1.afterAll [c], isInOrder_after h.1 h.2 c⟩).2

/-- Whatever is called, by any workers and at any instants, no item is claimed for the first time
before an older artifact was; so it is in the backlog, and so it reads back.  A claim hands out
the least number of those that may be claimed at its instant, and nothing only if there are
none. -/
theorem claims_in_order (hm : m.IsBackend) (hs : s.IsReachable) :
    s.IsInOrder ∧
    (∀ i j item later, s.get i = .ok item → s.get j = .ok later → i < j →
      item.eventType = artifactObserved → 1 ≤ later.attempts → 1 ≤ item.attempts) ∧
    (∀ worker now lease item, (s.claimNext worker now lease).1 = .ok (some item) →
      ∃ stamp row, m.stamp? now = some stamp ∧ s.find? item.id = some row ∧
        row.isClaimable m stamp = true ∧
        ∀ r ∈ s.rows, r.isClaimable m stamp = true → item.id ≤ r.id) ∧
    ∀ worker now lease, (s.claimNext worker now lease).1 = .ok none →
      ∃ stamp, m.stamp? now = some stamp ∧ ∀ r ∈ s.rows, r.isClaimable m stamp = false := by
  have hnumbered := isNumbered_of_isReachable hs
  have hcounted := isCounted_of_isReachable hs
  have horder := isInOrder_of_isReachable hs
  refine ⟨horder, ?_, fun worker now lease item h => ?_, fun _ _ _ h => (claimNext_none h).2⟩
  · intro i j item later hitem hlater hlt hobserved hpos
    obtain ⟨r, hr, hreads⟩ := exists_reads_of_get hitem
    obtain ⟨q, hq, hreads'⟩ := exists_reads_of_get hlater
    rw [hreads.eventType] at hobserved
    rw [← id_of_find? hr, ← id_of_find? hq] at hlt
    rw [← hreads'.isTried_iff hm (hcounted _ _ hq)] at hpos
    rw [← hreads.isTried_iff hm (hcounted _ _ hr)]
    exact horder r (mem_of_find? hr) q (mem_of_find? hq) hlt hobserved hpos
  · obtain ⟨_, _, stamp, row, -, -, hstamp, -, hrow, hclaimable, -⟩ := claimNext_some hnumbered h
    obtain ⟨_, hsame, hleast⟩ := id_le_of_takes hs (takes_of_claimNext hm hnumbered hcounted h)
    cases hstamp.symm.trans hsame
    exact ⟨stamp, row, hstamp, hrow, hclaimable, hleast⟩

/-- While the older file waits for its backoff to end, a clock that went back hands out the younger
one; so the older one was claimed. -/
theorem claims_in_order_younger_first :
    let s := (empty .server).afterAll [.enqueue seen (clock 0), .enqueue seen (clock 0),
      .claim "a" (clock 10) (.ofSeconds 60),
      .record 1 "a" (.retry "refused") (some (clock 100)) (clock 11)]
    let later := s.after (.claim "b" (clock 5) (.ofSeconds 60))
    (∃ item stamp row, (s.claimNext "b" (clock 5) (.ofSeconds 60)).1 = .ok (some item) ∧
      item.id = 2 ∧ Medium.server.stamp? (clock 5) = some stamp ∧ s.find? 2 = some row ∧
      row.isClaimable .server stamp = true ∧
      ∀ r ∈ s.rows, r.isClaimable .server stamp = true → 2 ≤ r.id) ∧
    ∃ r ∈ later.rows, ∃ q ∈ later.rows, r.id < q.id ∧ q.IsTried ∧ r.IsTried := by
  intro s later
  have hs : s.IsReachable := ⟨_, rfl⟩
  have hlater : later.IsReachable := hs.afterAll [.claim "b" (clock 5) (.ofSeconds 60)]
  obtain ⟨item, hitem, hid⟩ := exists_of_handed?
    (show handed? (s.claimNext "b" (clock 5) (.ofSeconds 60)).1 = some 2 by rfl)
  obtain ⟨stamp, row, hstamp, hrow, hclaimable, hleast⟩ :=
    (claims_in_order (.inr rfl) hs).2.2.1 _ _ _ item hitem
  rw [hid] at hrow hleast
  have hrows : ∃ r ∈ later.rows, ∃ q ∈ later.rows, r.id < q.id ∧
      r.eventType = artifactObserved ∧ q.attempts = .counted 1 := by decide
  obtain ⟨r, hr, q, hq, hlt, hobserved, hcount⟩ := hrows
  have htried : q.IsTried := ⟨1, Nat.le_refl 1, hcount⟩
  exact ⟨⟨item, stamp, row, hitem, hid, hstamp, hrow, hclaimable, hleast⟩, r, hr, q, hq, hlt,
    htried, (claims_in_order (.inr rfl) hlater).1 r hr q hq hlt hobserved htried⟩

end Store

end ArtifactRelay.Backlog
