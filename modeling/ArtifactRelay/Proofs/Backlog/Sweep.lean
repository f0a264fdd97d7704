import ArtifactRelay.Proofs.Backlog.Consistency

/-!
# ArtifactRelay.Proofs.Backlog.Sweep

No work is orphaned.  Whoever stopped, and wherever, once the leases are over and the backoffs
have ended, claims at one instant hand out every item that waits or is claimed, each once and
in the order of their numbers, and then nothing (`claims_sweep`).

A claim takes the first of the claimable rows, and under its lease the row is not claimable any
more, so the claimable rows are a queue that claims empty from the front (`map_claims`).  That
every open row is in the queue holds of reachable stores alone.  Their claimed rows have a lease,
so none is hidden behind a comparison with a lease that is missing; and their stamps are those of
instants, so they compare as the instants do.
-/

namespace ArtifactRelay.Backlog

open Text Time

namespace Row

variable {σ : Type}

/-- An observed artifact that waits or is claimed. -/
def isOpen (r : Row σ) : Bool :=
  r.eventType == artifactObserved && (r.isIn .pending || r.isIn .claimed)

theorem isOpen_iff {r : Row σ} :
    r.isOpen = true ↔
      r.eventType = artifactObserved ∧ (r.isIn .pending = true ∨ r.isIn .claimed = true) := by
  rw [isOpen, Bool.and_eq_true, Bool.or_eq_true, beq_iff_eq]

/-- The instants of a row are of the years 0 to 9999.  Its lease ended a microsecond ago at the
latest, and its backoff has ended. -/
structure IsDue (m : Medium) (now : Instant) (r : Row m.Stamp) : Prop where
  stamps : ∀ x ∈ r.stamps, ∃ t ∈ m.instant? x, t.IsFourDigit
  leaseUntil : ∀ x ∈ r.leaseUntil, ∀ t ∈ m.instant? x, ∃ u ∈ t.add? ⟨1000⟩, u ≤ now
  retryAfter : ∀ x ∈ r.retryAfter, ∀ t ∈ m.instant? x, t ≤ now

instance (m : Medium) (now : Instant) (r : Row m.Stamp) : Decidable (r.IsDue m now) :=
  decidable_of_iff
    ((∀ x ∈ r.stamps, ∃ t ∈ m.instant? x, t.IsFourDigit) ∧
      (∀ x ∈ r.leaseUntil, ∀ t ∈ m.instant? x, ∃ u ∈ t.add? ⟨1000⟩, u ≤ now) ∧
      ∀ x ∈ r.retryAfter, ∀ t ∈ m.instant? x, t ≤ now)
    ⟨fun h => ⟨h.1, h.2.1, h.2.2⟩, fun h => ⟨h.stamps, h.leaseUntil, h.retryAfter⟩⟩

section

variable {m : Medium} {r : Row m.Stamp}

theorem isOpen_of_isClaimable {stamp : m.Stamp} (h : r.isClaimable m stamp = true) :
    r.isOpen = true :=
  isOpen_iff.mpr ⟨eventType_of_isClaimable h, (isClaimable_cases h).imp_right And.left⟩

variable {now : Instant} {n : Nat}

/-- An open row that is due may be claimed, if its fields fit its state and its stamps are those
of instants. -/
theorem IsDue.isClaimable (hm : m.IsBackend) (h : r.IsDue m now) (hnow : now.IsFourDigit)
    {stamp : m.Stamp} (hstamp : m.stamp? now = some stamp) (hfields : r.IsConsistent n)
    (hstamped : ∀ x ∈ r.stamps, ∃ v, m.stamp? v = some x) (hopen : r.isOpen = true) :
    r.isClaimable m stamp = true := by
  obtain ⟨hobserved, hstatus⟩ := isOpen_iff.mp hopen
  unfold Row.isClaimable
  rw [Bool.and_eq_true, Bool.or_eq_true, beq_iff_eq]
  refine ⟨hobserved, hstatus.imp (fun hpending => ?_) fun hclaimed => ?_⟩
  · rw [hpending, Bool.true_and, Option.all_eq_true]
    intro x hx
    have hmem := mem_stamps_of_retryAfter hx
    obtain ⟨t, ht, hdigits⟩ := h.stamps x hmem
    obtain ⟨v, hv⟩ := hstamped x hmem
    exact Medium.atMost_of_le hm hv ht hdigits hnow hstamp (h.retryAfter x hx t ht)
  · obtain ⟨x, hx⟩ := Option.isSome_iff_exists.mp (hfields.leaseUntil.mp hclaimed)
    have hmem := mem_stamps_of_leaseUntil (Option.mem_def.mpr hx)
    obtain ⟨t, ht, hdigits⟩ := h.stamps x hmem
    obtain ⟨v, hv⟩ := hstamped x hmem
    obtain ⟨u, hu, hle⟩ := h.leaseUntil x hx t ht
    rw [hclaimed, Bool.true_and, hx]
    exact Medium.below_of_add? hm hv ht hdigits hnow hstamp hu hle

theorem IsDue.isLegible (h : r.IsDue m now) (hfields : r.IsConsistent n)
    (hopen : r.isOpen = true) : r.IsLegible m := by
  have hstatus := (isOpen_iff.mp hopen).2
  exact {
    status := hstatus.elim (fun hs => ⟨_, isIn_iff.mp hs⟩) fun hs => ⟨_, isIn_iff.mp hs⟩
    attempts := ⟨n, hfields.attempts⟩
    taskRef := .inl (hfields.eq_none hstatus).2.1
    stamps := fun x hx => by
      obtain ⟨t, ht, -⟩ := h.stamps x hx
      rw [Option.mem_def.mp ht]
      rfl }

end

end Row

namespace Store

variable {m : Medium}

/-- The answers to claims of one worker after another, all at one instant and for one lease. -/
def claims (now : Instant) (lease : Span) :
    Store m → List String → List (Except Error (Option WorkItem))
  | _, [] => []
  | s, worker :: workers =>
    (s.claimNext worker now lease).1 :: claims now lease (s.claimNext worker now lease).2 workers

/-! ## The queue of claimable rows -/

/-- A row that leaves the queue leaves the rest of it behind. -/
theorem filter_modify {s : Store m} (hs : s.IsNumbered) {p : Row m.Stamp → Bool}
    {f : Row m.Stamp → Row m.Stamp} {row : Row m.Stamp} {rest : List (Row m.Stamp)}
    (hqueue : s.rows.filter p = row :: rest) (hleaves : p (f row) = false) :
    (s.modify row.id f).rows.filter p = rest := by
  obtain ⟨before, later, hrows, hbefore, -, hrest⟩ := List.filter_eq_cons_iff.mp hqueue
  unfold IsNumbered at hs
  rw [hrows, List.pairwise_append, List.pairwise_cons] at hs
  have hsame : ∀ q ∈ before ++ later, (if q.id = row.id then f q else q) = q := by
    intro q hq
    refine if_neg fun hid => ?_
    rcases List.mem_append.mp hq with hq | hq
    · exact hs.2.2 q hq row List.mem_cons_self hid
    · exact hs.2.1.1 q hq hid.symm
  show (s.rows.map fun r => if r.id = row.id then f r else r).filter p = rest
  rw [hrows, List.map_append, List.map_cons, if_pos rfl,
    List.map_congr_left fun q hq => hsame q (List.mem_append_left _ hq),
    List.map_congr_left fun q hq => hsame q (List.mem_append_right _ hq), List.map_id',
    List.map_id', List.filter_append, List.filter_eq_nil_iff.mpr hbefore, List.nil_append,
    List.filter_cons_of_neg (by rw [hleaves]; exact Bool.false_ne_true), hrest]

section

variable {now expiry : Instant} {lease : Span} {lastly stamp : m.Stamp}

/-- A claim takes the row at the front of the queue. -/
theorem claimNext_of_queue {s : Store m} (hs : s.IsNumbered)
    (hexpiry : now.add? lease = some expiry) (hlastly : m.stamp? expiry = some lastly)
    (hstamp : m.stamp? now = some stamp) (hover : m.below lastly stamp = false) {w : String}
    (hworker : m.keepsText w = true) {row : Row m.Stamp} {rest : List (Row m.Stamp)}
    (hqueue : s.rows.filter (·.isClaimable m stamp) = row :: rest)
    (hcount : m.keepsCount row.attempts.next = true) {item : WorkItem}
    (hitem : (row.claim w lastly stamp).read m = .ok item) :
    (s.claimNext w now lease).1 = .ok (some item) ∧ (s.claimNext w now lease).2.IsNumbered ∧
      (s.claimNext w now lease).2.rows.filter (·.isClaimable m stamp) = rest := by
  have hrow : s.rows.find? (·.isClaimable m stamp) = some row := by
    rw [← List.head?_filter, hqueue]
    rfl
  have hleaves : (row.claim w lastly stamp).isClaimable m stamp = false := by
    refine Bool.eq_false_iff.mpr fun hclaimable => ?_
    rcases Row.isClaimable_cases hclaimable with hpending | ⟨-, x, hx, hbelow⟩
    · cases Row.isIn_claim.mp hpending
    · cases hx
      rw [hover] at hbelow
      cases hbelow
  rw [claimNext_of_claimable hexpiry hlastly hstamp hworker hrow hcount, hitem]
  exact ⟨rfl, hs.modify row.id fun _ => rfl, filter_modify hs hqueue hleaves⟩

/-- Claims empty the queue from the front, if each row of it can be claimed once more and reads
back then, and is not claimable again under the lease. -/
theorem map_claims (hexpiry : now.add? lease = some expiry)
    (hlastly : m.stamp? expiry = some lastly) (hstamp : m.stamp? now = some stamp)
    (hover : m.below lastly stamp = false) {workers : List String}
    (hworkers : ∀ w ∈ workers, m.keepsText w = true) {s : Store m} (hs : s.IsNumbered)
    {queue : List (Row m.Stamp)} (hqueue : s.rows.filter (·.isClaimable m stamp) = queue)
    (hready : ∀ r ∈ queue, m.keepsCount r.attempts.next = true ∧
      ∀ w, ∃ item, (r.claim w lastly stamp).read m = .ok item) :
    (s.claims now lease workers).map (Except.map (Option.map (·.id))) =
      (List.range workers.length).map fun i => .ok (queue.map (·.id))[i]? := by
  induction workers generalizing s queue with
  | nil => rfl
  | cons w workers ih =>
    have hw := hworkers w List.mem_cons_self
    have hothers := fun v hv => hworkers v (List.mem_cons_of_mem w hv)
    rw [claims, List.length_cons, List.range_succ_eq_map, List.map_cons, List.map_cons,
      List.map_map]
    cases queue with
    | nil =>
      have hidle : s.rows.find? (·.isClaimable m stamp) = none := by
        rw [← List.head?_filter, hqueue]
        rfl
      rw [claimNext_of_idle hexpiry hlastly hstamp hw hidle, ih hothers hs hqueue (by simp)]
      rfl
    | cons row rest =>
      obtain ⟨hcount, hread⟩ := hready row List.mem_cons_self
      obtain ⟨item, hitem⟩ := hread w
      have hid : item.id = row.id := (Row.reads_of_read hitem).id
      obtain ⟨hanswer, hnumbered, hrest⟩ :=
        claimNext_of_queue hs hexpiry hlastly hstamp hover hw hqueue hcount hitem
      rw [hanswer, ih hothers hnumbered hrest fun r hr => hready r (List.mem_cons_of_mem row hr)]
      simp [Except.map, hid]

end

/-- Whoever stopped, and wherever: claims at one instant, by any workers, hand out every observed
artifact that waits or is claimed, each once and in the order of their numbers, and then nothing,
if all their leases are over by a microsecond and their backoffs have ended. -/
theorem claims_sweep (hm : m.IsBackend) {s : Store m} (hs : s.IsReachable) {now expiry : Instant}
    {lease : Span} (hnow : m.IsOrdered now) (hlease : 0 ≤ lease.nanos)
    (hexpiry : now.add? lease = some expiry) (hend : expiry.IsFourDigit)
    (hdue : ∀ r ∈ s.rows, r.isOpen = true → r.IsDue m now)
    (hcount : ∀ r ∈ s.rows, r.isOpen = true → ∀ n, r.attempts = .counted n → m.HasRoom n)
    {workers : List String} (hworkers : ∀ w ∈ workers, m.keepsText w = true) :
    let ids := (s.rows.filter (·.isOpen)).map (·.id)
    ids.Pairwise (· < ·) ∧
      (s.claims now lease workers).map (Except.map (Option.map (·.id))) =
        (List.range workers.length).map fun i => .ok ids[i]? := by
  intro ids
  obtain ⟨stamp, hstamp⟩ := Option.isSome_iff_exists.mp (Medium.stamp?_isSome hm hnow.1)
  obtain ⟨lastly, hlastly⟩ := Option.isSome_iff_exists.mp (Medium.stamp?_isSome hm hend)
  have hnumbered := isNumbered_of_isReachable hs
  have hover : m.below lastly stamp = false :=
    Medium.below_eq_false_of_le hm hnow hend hstamp hlastly (Instant.le_of_add? hlease hexpiry)
  have hfields : ∀ r ∈ s.rows, ∃ n, r.IsConsistent n := fun r hr =>
    exists_isConsistent hs (find?_of_mem hnumbered hr)
  have hqueue : s.rows.filter (·.isClaimable m stamp) = s.rows.filter (·.isOpen) := by
    refine List.filter_congr fun r hr => Bool.eq_iff_iff.mpr
      ⟨Row.isOpen_of_isClaimable, fun hopen => ?_⟩
    obtain ⟨n, hn⟩ := hfields r hr
    have hstamped := isStamped_of_isReachable hs r.id r (find?_of_mem hnumbered hr)
    exact (hdue r hr hopen).isClaimable hm hnow.1 hstamp hn hstamped hopen
  refine ⟨(pairwise_ids_of_isReachable hs).sublist (List.filter_sublist.map _),
    map_claims hexpiry hlastly hstamp hover hworkers hnumbered hqueue fun r hr => ?_⟩
  obtain ⟨hmem, hopen⟩ := List.mem_filter.mp hr
  obtain ⟨n, hn⟩ := hfields r hmem
  have hroom := hcount r hmem hopen n hn.attempts
  rw [hn.attempts, Cell.next_counted]
  refine ⟨hroom.keepsCount hm, fun w => ?_⟩
  have hlegible : (r.claim w lastly stamp).IsLegible m :=
    ((hdue r hmem hopen).isLegible hn hopen).claim
      (Medium.instant?_isSome hm hend hlastly) (Medium.instant?_isSome hm hnow.1 hstamp)
  refine hlegible.read_eq_ok (n := n + 1) ?_
  rw [Row.attempts_claim, hn.attempts, Cell.next_counted]
  exact hroom.count? hm

/-- A worker that stopped, an item that was retired and one that is no artifact: the item that was
held and the one that waits are handed out, and then none. -/
theorem claims_sweep_stopped :
    let s := (empty .server).afterAll [.enqueue seen (clock 0), .enqueue seen (clock 0),
      .enqueue { seen with eventType := "login" } (clock 0), .enqueue seen (clock 0),
      .claim "a" (clock 0) (.ofSeconds 60), .claim "b" (clock 0) (.ofSeconds 60),
      .record 2 "b" (.dead "gone" none) none (clock 1)]
    (s.claims (clock 61) (.ofSeconds 60) ["c", "d", "e"]).map
      (Except.map (Option.map (·.id))) = [.ok (some 1), .ok (some 4), .ok none] := by
  intro s
  have hs : s.IsReachable := ⟨_, rfl⟩
  have hexpiry : (clock 61).add? (.ofSeconds 60) = some (clock 121) := by rfl
  have hdue : ∀ r ∈ s.rows, r.isOpen = true → r.IsDue .server (clock 61) := by decide
  have hcount : ∀ r ∈ s.rows, r.attempts = .counted 0 ∨ r.attempts = .counted 1 := by decide
  have hroom : ∀ r ∈ s.rows, r.isOpen = true → ∀ n, r.attempts = .counted n →
      Medium.server.HasRoom n := by
    intro r hr _ n hn
    rcases hcount r hr with h | h
    · exact Medium.hasRoom_of_lt h (by decide) hn
    · exact Medium.hasRoom_of_lt h (by decide) hn
  have hsweep := claims_sweep (.inr rfl) hs (Medium.isOrdered_of_nanos_lt (by decide)) (by decide)
    hexpiry (by decide) hdue hroom
    (show ∀ w ∈ ["c", "d", "e"], Medium.server.keepsText w = true by decide)
  exact hsweep.2.trans (by rfl)

/-- Three ways out of `claims_sweep` on a server when its reservations are dropped: an item that
was claimed 2^31 - 1 times stays where it is, a worker whose name has a zero character is handed
nothing, and in a leap second an item is handed out twice. -/
theorem sweep_not_always :
    (∃ calls, let s := (empty .server).afterAll calls
      (∀ r ∈ s.rows, r.isOpen = true ∧ r.IsDue .server (clock 0) ∧
        r.attempts = .whole 2147483647) ∧
      s.rows.map (·.id) = [1] ∧
      s.claims (clock 0) (.ofSeconds 60) ["b"] = [.error .database]) ∧
    let s := (empty .server).afterAll [.enqueue seen (clock 0)]
    let leap : Instant := ⟨1700000039, 1500000000, by decide, by decide, by decide, by decide⟩
    (∀ r ∈ s.rows, r.isOpen = true ∧ r.IsDue .server (clock 0) ∧ r.IsDue .server leap) ∧
      s.claims (clock 0) (.ofSeconds 60) ["\x00"] = [.error .database] ∧
      (s.claims leap (.ofMillis 600) ["a", "b"]).map (Except.map (Option.map (·.id))) =
        [.ok (some 1), .ok (some 1)] := by
  refine ⟨⟨.enqueue seen (clock 0) :: .claim "a" (clock 0) (.ofSeconds (-1)) ::
    List.replicate 2147483646 (.claim "a" (clock 0) (.ofSeconds (-1))), ?_⟩, ?_, ?_, ?_⟩
  · have hfirst : ((empty .server).after (.enqueue seen (clock 0))).after
        (.claim "a" (clock 0) (.ofSeconds (-1))) =
          recount "a" seen (Medium.serverMicros (clock (-1)))
            (Medium.serverMicros (clock 0)) 1 := by rfl
    have hkept : ∀ j, 1 < j → j ≤ 1 + 2147483646 →
        Medium.server.keepsCount (.counted j) = true := fun j _ hhigh =>
      Medium.keepsCount_of_le (.inr rfl) fun _ => hhigh
    have hlease : (clock 0).add? (.ofSeconds (-1)) = some (clock (-1)) := by rfl
    rw [afterAll_cons, afterAll_cons, hfirst,
      afterAll_replicate_claim rfl hlease (by rfl) (by rfl) (by rfl) (by decide) _ 1 hkept]
    exact ⟨by decide, by rfl, by rfl⟩
  · decide
  · rfl
  · rfl

end Store

end ArtifactRelay.Backlog
