import ArtifactRelay.Proofs.Backlog.Reading

/-!
# ArtifactRelay.Proofs.Backlog.Exclusivity

One worker at a time holds an item.  Up to the end of its lease, included, nobody
else is handed the item (`isLeased_after`).  Once somebody else took it, the former
holder writes nothing any more (`isAway_after`, `record_of_isAway`), until it takes
the item itself again.

Both are invariants of the one row: a leased row stays under the same claim, and a
row that is away stays so.  They are carried through a run by `along_induction`.
-/

namespace ArtifactRelay.Backlog

open Text Time

namespace Store

variable {m : Medium}

/-! ## Taking an item -/

/-- A claim that is handed an item has taken its row. -/
theorem claimNext_some {s : Store m} (hs : s.IsNumbered) {worker : String} {now : Instant}
    {lease : Span} {item : WorkItem}
    (h : (s.claimNext worker now lease).1 = .ok (some item)) :
    ∃ expiry lastly stamp row,
      now.add? lease = some expiry ∧ m.stamp? expiry = some lastly ∧ m.stamp? now = some stamp ∧
      m.keepsText worker = true ∧ s.find? item.id = some row ∧ row.isClaimable m stamp = true ∧
      (row.claim worker lastly stamp).read m = .ok item ∧
      (s.claimNext worker now lease).2 = s.modify item.id (·.claim worker lastly stamp) := by
  rcases s.claimNext_cases worker now lease with
    ⟨e, hcase⟩ | hcase |
      ⟨expiry, lastly, stamp, row, hexpiry, hlastly, hstamp, htext, hrow, -, hcase⟩
  · rw [hcase] at h; cases h
  · rw [hcase] at h; cases h
  · rw [hcase] at h
    have hread : (row.claim worker lastly stamp).read m = .ok item := by
      cases hread : (row.claim worker lastly stamp).read m with
      | error e => rw [hread] at h; cases h
      | ok i => rw [hread] at h; cases h; rfl
    have hid : item.id = row.id := (Row.reads_of_read hread).id
    have hclaimable : row.isClaimable m stamp = true := by simpa using List.find?_some hrow
    refine ⟨expiry, lastly, stamp, row, hexpiry, hlastly, hstamp, htext, ?_, hclaimable, hread, ?_⟩
    · rw [hid]
      exact find?_of_mem hs (List.mem_of_find?_eq_some hrow)
    · rw [hcase, hid]

/-- A claim by `worker` changes the item, whether or not it can tell the worker so. -/
def Takes (s : Store m) (id : Int) (worker : String) (now : Instant) (lease : Span) : Prop :=
  (s.claimNext worker now lease).2.find? id ≠ s.find? id

/-- An item that is taken is held by the worker that took it. -/
theorem Takes.isHeldBy {s : Store m} (hs : s.IsNumbered) {id : Int} {worker : String}
    {now : Instant} {lease : Span} (h : s.Takes id worker now lease) :
    ∃ r, (s.claimNext worker now lease).2.find? id = some r ∧ r.isHeldBy worker = true := by
  cases hfind : s.find? id with
  | none =>
    cases hafter : (s.claimNext worker now lease).2.find? id with
    | none => exact absurd (hafter.trans hfind.symm) h
    | some r =>
      obtain ⟨o, t, stamp, hc, -⟩ :=
        find?_after_of_none (c := .claim worker now lease) hfind hafter
      cases hc
  | some r =>
    obtain ⟨r', hr', hchange⟩ := find?_after hs (.claim worker now lease) hfind
    cases hchange with
    | same => exact absurd (hr'.trans hfind.symm) h
    | claim => exact ⟨_, hr', Row.isHeldBy_claim.mpr rfl⟩

/-- Whoever is handed an item takes it. -/
theorem takes_of_claimNext (hm : m.IsBackend) {s : Store m} (hs : s.IsNumbered)
    (hcounted : s.IsCounted) {worker : String} {now : Instant} {lease : Span} {item : WorkItem}
    (h : (s.claimNext worker now lease).1 = .ok (some item)) :
    s.Takes item.id worker now lease := by
  obtain ⟨_, _, _, row, -, -, -, -, hfind, -, hread, hafter⟩ := claimNext_some hs h
  obtain ⟨n, hn⟩ := hcounted _ _ hfind
  -- what is handed out was counted by a number that reads back
  have hcount := (Row.reads_of_read hread).attempts
  rw [Row.attempts_claim, hn, Cell.next_counted] at hcount
  have hle : n ≤ maxSigned64 := Nat.le_of_succ_le (Medium.eq_of_count?_counted hm hcount).2
  unfold Takes
  rw [hafter, find?_modify_self (fun _ => Row.id_claim ..) hfind, hfind]
  exact fun hsame => Row.claim_ne _ _ _ _ hn hle (Option.some.inj hsame)

/-! ## Within a lease -/

/-- The item is held by `worker` under the lease that ends at `lastly`, and its count reads
back. -/
def IsLeased (s : Store m) (id : Int) (worker : String) (lastly : m.Stamp) : Prop :=
  ∃ r, s.find? id = some r ∧ r.isHeldBy worker = true ∧ r.leaseUntil = some lastly ∧
    (m.count? r.attempts).isSome = true

/-- A call that does not end the lease of `worker` on an item: no claim after the end of the
lease, and no record of its holder but one that answers an error of its own. -/
def SparesLease (id : Int) (worker : String) (expiry : Instant) (s : Store m) : Call → Prop
  | .claim _ now _ => m.IsOrdered now ∧ now ≤ expiry
  | .record key w o retryAfter now =>
    key = id → w = worker → ∃ e, (s.record key w o retryAfter now).1 = .error e ∧ e.isOwn = true
  | _ => True

/-- A row under a lease that has not ended is not claimable. -/
theorem isClaimable_eq_false (hm : m.IsBackend) {r : Row m.Stamp} {worker : String}
    {expiry now : Instant} {lastly stamp : m.Stamp} (hheld : r.isHeldBy worker = true)
    (hlease : r.leaseUntil = some lastly) (hexpiry : expiry.IsFourDigit)
    (hlastly : m.stamp? expiry = some lastly) (hnow : m.IsOrdered now)
    (hstamp : m.stamp? now = some stamp) (hle : now ≤ expiry) :
    r.isClaimable m stamp = false := by
  refine Bool.eq_false_iff.mpr fun hclaimable => ?_
  rcases Row.isClaimable_cases hclaimable with hpending | ⟨-, _, hend, hover⟩
  · cases Row.eq_of_isIn (Row.isIn_of_isHeldBy hheld) hpending
  · rw [hlease] at hend
    cases hend
    rw [Medium.below_eq_false_of_le hm hnow hexpiry hstamp hlastly hle] at hover
    cases hover

theorem IsLeased.not_isOvercounted {s : Store m} {id : Int} {worker : String} {lastly : m.Stamp}
    (h : s.IsLeased id worker lastly) : ¬ s.IsOvercounted id := by
  rintro ⟨rfl, r, n, hr, hn, hlt⟩
  obtain ⟨q, hq, -, -, hsome⟩ := h
  cases hr.symm.trans hq
  obtain ⟨k, hk⟩ := Option.isSome_iff_exists.mp hsome
  rw [hn] at hk
  exact absurd (Medium.le_of_count?_counted hk) (Nat.not_le.mpr hlt)

/-- A call that spares a lease leaves the item under it. -/
theorem isLeased_after (hm : m.IsBackend) {s : Store m} (hs : s.IsReachable) {id : Int}
    {worker : String} {expiry : Instant} {lastly : m.Stamp} (hexpiry : expiry.IsFourDigit)
    (hlastly : m.stamp? expiry = some lastly) {c : Call}
    (hspares : SparesLease id worker expiry s c) (h : s.IsLeased id worker lastly) :
    (s.after c).IsLeased id worker lastly := by
  obtain ⟨r, hfind, hheld, hlease, hcount⟩ := h
  obtain ⟨r', hr', hchange⟩ := find?_after (isNumbered_of_isReachable hs) c hfind
  cases hchange with
  | same => exact ⟨r, hr', hheld, hlease, hcount⟩
  | claim _ _ hstamp _ hclaimable =>
    have hnot := isClaimable_eq_false hm hheld hlease hexpiry hlastly hspares.1 hstamp hspares.2
    rw [hnot] at hclaimable
    cases hclaimable
  | register => exact ⟨_, hr', hheld, hlease, hcount⟩
  | @conclude w o retryAfter now _ _ _ _ _ hw =>
    -- only the holder's record is written, and its answer says so
    have hid := id_of_find? hfind
    obtain ⟨e, herror, hown⟩ := hspares hid (Row.eq_of_isHeldBy hw hheld)
    have hover : ¬ s.IsOvercounted r.id :=
      hid ▸ IsLeased.not_isOvercounted ⟨r, hfind, hheld, hlease, hcount⟩
    have hkept := (record_of_error hm hs hover herror).eq_of_isOwn hown
    refine ⟨r, ?_, hheld, hlease, hcount⟩
    show (s.record r.id w o retryAfter now).2.find? id = some r
    rw [hkept]
    exact hfind

/-- Nobody is handed an item within its lease. -/
theorem not_takes_of_isLeased (hm : m.IsBackend) {s : Store m} (hs : s.IsNumbered) {id : Int}
    {worker : String} {expiry : Instant} {lastly : m.Stamp} (hexpiry : expiry.IsFourDigit)
    (hlastly : m.stamp? expiry = some lastly) (h : s.IsLeased id worker lastly) {now : Instant}
    (hnow : m.IsOrdered now) (hle : now ≤ expiry) (v : String) (lease : Span) :
    ¬ s.Takes id v now lease := by
  obtain ⟨r, hfind, hheld, hlease, -⟩ := h
  obtain ⟨r', hr', hchange⟩ := find?_after hs (.claim v now lease) hfind
  unfold Takes
  cases hchange with
  | same => exact fun hne => hne (hr'.trans hfind.symm)
  | claim _ _ hstamp _ hclaimable =>
    have hnot := isClaimable_eq_false hm hheld hlease hexpiry hlastly hnow hstamp hle
    rw [hnot] at hclaimable
    cases hclaimable

/-- A leased item reads back as claimed by its worker, unless it cannot be told. -/
theorem current_of_isLeased (hm : m.IsBackend) {s : Store m} (hs : s.IsReachable) {id : Int}
    {worker : String} {lastly : m.Stamp} (h : s.IsLeased id worker lastly) :
    (∃ item, s.get id = .ok item ∧ item.status = .claimed ∧ item.claimedBy = some worker) ∨
      (s.get id = .error .interrupted ∧ s.IsUntold id) := by
  have hover := h.not_isOvercounted
  obtain ⟨r, hfind, hheld, -, -⟩ := h
  have hget : s.get id = r.read m := by rw [get, hfind]
  rw [hget]
  rcases read_cases hm hs hfind with ⟨item, hread⟩ | ⟨-, hbad⟩ | huntold
  · have hreads := Row.reads_of_read hread
    obtain ⟨hstatus, hclaimedBy⟩ := Row.isHeldBy_iff.mp hheld
    exact .inl ⟨item, hread, hreads.name_status hstatus, hreads.claimedBy.trans hclaimedBy⟩
  · exact absurd hbad hover
  · exact .inr huntold

/-! ## After a takeover -/

/-- The item is there, and not with `worker`. -/
def IsAway (s : Store m) (id : Int) (worker : String) : Prop :=
  ∃ r, s.find? id = some r ∧ r.isHeldBy worker = false

/-- An item stays away from a worker that does not take it. -/
theorem isAway_after {s : Store m} (hs : s.IsNumbered) {id : Int} {worker : String} {c : Call}
    (hc : ∀ now lease, c = .claim worker now lease → ¬ s.Takes id worker now lease)
    (h : s.IsAway id worker) : (s.after c).IsAway id worker := by
  obtain ⟨r, hfind, haway⟩ := h
  obtain ⟨r', hr', hchange⟩ := find?_after hs c hfind
  refine ⟨r', hr', ?_⟩
  cases hchange with
  | same => exact haway
  | @claim v now _ lease lastly stamp _ _ _ _ _ _ =>
    by_cases hv : v = worker
    · subst hv
      have hkept := Classical.not_not.mp (hc now lease rfl)
      have hsame : some (r.claim v lastly stamp) = some r := hr'.symm.trans (hkept.trans hfind)
      rw [Option.some.inj hsame]
      exact haway
    · exact Bool.eq_false_iff.mpr fun hheld => hv (Row.isHeldBy_claim.mp hheld)
  | register => exact haway
  | conclude => exact Row.isHeldBy_conclude ..

/-- An item is away from everybody but the worker that took it. -/
theorem Takes.isAway {s : Store m} (hs : s.IsNumbered) {id : Int} {v worker : String}
    {now : Instant} {lease : Span} (h : s.Takes id v now lease) (hne : v ≠ worker) :
    (s.claimNext v now lease).2.IsAway id worker := by
  obtain ⟨r, hr, hheld⟩ := h.isHeldBy hs
  exact ⟨r, hr, Bool.eq_false_iff.mpr fun hw => hne (Row.eq_of_isHeldBy hheld hw)⟩

/-- Why a record for an item that is away from the worker fails. -/
def IsRejection (s : Store m) (id : Int) (worker : String) (o : Outcome)
    (retryAfter : Option Instant) (now : Instant) (e : Error) : Prop :=
  e = .leaseLost id worker ∨
    (∃ status : Status, status.isTerminal = true ∧ e = .invalidTransition status o.target) ∨
    (e = m.refusal ∧ ((∃ text ∈ o.texts, m.keepsText text = false) ∨
      (∃ t ∈ now :: retryAfter.toList, m.stamp? t = none) ∨ s.IsOvercounted id)) ∨
    (e = .interrupted ∧ s.IsUntold id)

/-- A record for an item that is away is refused and changes nothing. -/
theorem record_of_isAway (hm : m.IsBackend) {s : Store m} (hs : s.IsReachable) {id : Int}
    {worker : String} (h : s.IsAway id worker) (hworker : m.keepsText worker = true) (o : Outcome)
    (retryAfter : Option Instant) (now : Instant) :
    ∃ e, s.record id worker o retryAfter now = (.error e, s) ∧
      s.IsRejection id worker o retryAfter now e := by
  obtain ⟨r, hfind, haway⟩ := h
  obtain ⟨e, hrecord, hcases⟩ := record_of_not_held hfind haway o retryAfter now
  refine ⟨e, hrecord, ?_⟩
  rcases hcases with
    ⟨item, hread, rfl⟩ | hread | ⟨rfl, ⟨text, hmem, htext⟩ | hstamp | ⟨t, ht, hstamp⟩⟩
  · unfold rejectedWrite
    split
    · rename_i hterminal
      exact .inr (.inl ⟨_, hterminal, rfl⟩)
    · left
      rw [(Row.reads_of_read hread).id, id_of_find? hfind]
  · rcases read_cases hm hs hfind with ⟨item, hitem⟩ | ⟨hrefused, hover⟩ | ⟨hstopped, huntold⟩
    · cases hitem.symm.trans hread
    · cases hrefused.symm.trans hread
      exact .inr (.inr (.inl ⟨rfl, .inr (.inr hover)⟩))
    · cases hstopped.symm.trans hread
      exact .inr (.inr (.inr ⟨rfl, huntold⟩))
  · rcases List.mem_cons.mp hmem with rfl | hmem
    · rw [hworker] at htext; cases htext
    · exact .inr (.inr (.inl ⟨rfl, .inl ⟨text, hmem, htext⟩⟩))
  · exact .inr (.inr (.inl ⟨rfl, .inr (.inl ⟨now, by simp, hstamp⟩)⟩))
  · exact .inr (.inr (.inl ⟨rfl, .inr (.inl ⟨t, by simp [ht], hstamp⟩)⟩))

/-! ## Both together -/

/-- A call by which `worker` does not take the item. -/
def NotTakenBy (id : Int) (worker : String) (s : Store m) (c : Call) : Prop :=
  ∀ now lease, c = .claim worker now lease → ¬ s.Takes id worker now lease

/-- A worker that was handed an item holds it alone up to the end of its lease, unless its own
outcome is written.  Once another worker took the item over, every outcome that the former
holder records is refused and changes nothing, until it takes the item itself again. -/
theorem claim_exclusive (hm : m.IsBackend) {s : Store m} (hs : s.IsReachable) {worker : String}
    {start expiry : Instant} {lease : Span} {item : WorkItem}
    (hlease : start.add? lease = some expiry) (hexpiry : expiry.IsFourDigit)
    (hclaim : (s.claimNext worker start lease).1 = .ok (some item)) (calls : List Call) :
    let claimed := (s.claimNext worker start lease).2
    let s₁ := claimed.afterAll calls
    (claimed.Along (SparesLease item.id worker expiry) calls →
      (∃ r, s₁.find? item.id = some r ∧ r.isHeldBy worker = true) ∧
      ((∃ current, s₁.get item.id = .ok current ∧ current.status = .claimed ∧
          current.claimedBy = some worker) ∨
        (s₁.get item.id = .error .interrupted ∧ s₁.IsUntold item.id)) ∧
      ∀ v now lease, m.IsOrdered now → now ≤ expiry →
        ¬ s₁.Takes item.id v now lease ∧
          ∀ other, (s₁.claimNext v now lease).1 = .ok (some other) → other.id ≠ item.id) ∧
    ∀ v now lease, v ≠ worker → s₁.Takes item.id v now lease → ∀ later : List Call,
      (s₁.claimNext v now lease).2.Along (NotTakenBy item.id worker) later →
        let s₂ := (s₁.claimNext v now lease).2.afterAll later
        ∀ o retryAfter now, ∃ e, s₂.record item.id worker o retryAfter now = (.error e, s₂) ∧
          s₂.IsRejection item.id worker o retryAfter now e := by
  intro claimed s₁
  have hnumbered := isNumbered_of_isReachable hs
  obtain ⟨_, lastly, stamp, row, hadd, hlastly, -, hworker, hfind, -, hread, hafter⟩ :=
    claimNext_some hnumbered hclaim
  rw [hlease] at hadd
  cases hadd
  have hclaimed : claimed.IsReachable := hs.after (.claim worker start lease)
  have hs₁ : s₁.IsReachable := hclaimed.afterAll calls
  have hs₁numbered := isNumbered_of_isReachable hs₁
  refine ⟨fun halong => ?_, ?_⟩
  · have hinitial : claimed.IsLeased item.id worker lastly := by
      refine ⟨row.claim worker lastly stamp, ?_, Row.isHeldBy_claim.mpr rfl, rfl, ?_⟩
      · show (s.claimNext worker start lease).2.find? item.id = _
        rw [hafter]
        exact find?_modify_self (fun _ => Row.id_claim ..) hfind
      · rw [(Row.reads_of_read hread).attempts]
        rfl
    have hleased : s₁.IsReachable ∧ s₁.IsLeased item.id worker lastly := by
      refine along_induction (I := fun s => s.IsReachable ∧ s.IsLeased item.id worker lastly) ?_
        halong ⟨hclaimed, hinitial⟩
      rintro s c hspares ⟨hs, hleased⟩
      exact ⟨hs.after c, isLeased_after hm hs hexpiry hlastly hspares hleased⟩
    obtain ⟨r, hr, hheld, -, -⟩ := hleased.2
    refine ⟨⟨r, hr, hheld⟩, current_of_isLeased hm hs₁ hleased.2, fun v now lease hnow hle => ?_⟩
    have hnot := not_takes_of_isLeased hm hs₁numbered hexpiry hlastly hleased.2 hnow hle v lease
    refine ⟨hnot, fun other hother hid => hnot ?_⟩
    rw [← hid]
    exact takes_of_claimNext hm hs₁numbered (isCounted_of_isReachable hs₁) hother
  · intro v now lease hne htakes later halong s₂ o retryAfter now'
    have htaken : (s₁.claimNext v now lease).2.IsReachable := hs₁.after (.claim v now lease)
    have haway : s₂.IsNumbered ∧ s₂.IsAway item.id worker := by
      refine along_induction (I := fun s => s.IsNumbered ∧ s.IsAway item.id worker) ?_ halong
        ⟨isNumbered_of_isReachable htaken, htakes.isAway hs₁numbered hne⟩
      rintro s c hnot ⟨hs, haway⟩
      exact ⟨isNumbered_after hs c, isAway_after hs hnot haway⟩
    exact record_of_isAway hm (htaken.afterAll later) haway.2 hworker o retryAfter now'

/-! ### Runs on fixed inputs -/

/-- The number of the item that a claim was handed. -/
def handed? : Except Error (Option WorkItem) → Option Int
  | .ok (some item) => some item.id
  | _ => none

theorem exists_of_handed? {answer : Except Error (Option WorkItem)} {id : Int}
    (h : handed? answer = some id) : ∃ item, answer = .ok (some item) ∧ item.id = id := by
  unfold handed? at h
  split at h
  · exact ⟨_, rfl, Option.some.inj h⟩
  · cases h

/-- An instant for runs on fixed inputs: so many seconds after 2023-11-14T22:13:20Z. -/
def clock (seconds : Int) : Instant := (Instant.ofParts? (1700000000 + seconds) 0).getD .epoch

/-- A file without hints. -/
def seen : Observation := ⟨artifactObserved, "10.0.0.1", none, none, none⟩

/-- Two workers, one of which is late. -/
theorem claim_exclusive_late_record :
    let s := (empty .embedded).afterAll [.enqueue seen (clock 0)]
    let held := (s.claimNext "a" (clock 0) (.ofSeconds 60)).2
    let away := (held.claimNext "b" (clock 61) (.ofSeconds 60)).2
    (∃ current, held.get 1 = .ok current ∧ current.status = .claimed ∧
      current.claimedBy = some "a") ∧
    away.record 1 "a" (.retry "refused") none (clock 61) = (.error (.leaseLost 1 "a"), away) := by
  have hs : ((empty .embedded).afterAll [.enqueue seen (clock 0)]).IsReachable := ⟨_, rfl⟩
  obtain ⟨item, hitem, hid⟩ : ∃ item,
      (((empty .embedded).afterAll [.enqueue seen (clock 0)]).claimNext "a" (clock 0)
        (.ofSeconds 60)).1 = .ok (some item) ∧ item.id = 1 := exists_of_handed? (by rfl)
  have hexpiry : (clock 0).add? (.ofSeconds 60) = some (clock 60) := by rfl
  have hexclusive := claim_exclusive (.inl rfl) hs hexpiry (by decide) hitem []
  rw [hid] at hexclusive
  obtain ⟨hwithin, hlate⟩ := hexclusive
  refine ⟨?_, ?_⟩
  · rcases (hwithin trivial).2.1 with hcurrent | ⟨-, hserver, -⟩
    · exact hcurrent
    · exact absurd hserver Medium.embedded_ne_server
  · obtain ⟨e, herror, -⟩ := hlate "b" (clock 61) (.ofSeconds 60) (by decide) (fun hsame =>
      absurd (congrArg (Option.map Row.attempts) hsame) (by decide)) [] trivial (.retry "refused")
      none (clock 61)
    have hanswer := congrArg Prod.fst herror
    cases hanswer
    exact herror

/-- A store with one item that was claimed `n` times, under a lease that ended at once. -/
def recount (worker : String) (o : Observation) (x y : m.Stamp) (n : Nat) : Store m :=
  ⟨[{ (Row.ofObservation 1 y o).claim worker x y with attempts := .counted n }], 1, some []⟩

theorem afterAll_replicate_claim {worker : String} {o : Observation} {now expiry : Instant}
    {lease : Span} {x y : m.Stamp} (ho : o.eventType = artifactObserved)
    (hexpiry : now.add? lease = some expiry) (hx : m.stamp? expiry = some x)
    (hy : m.stamp? now = some y) (hworker : m.keepsText worker = true)
    (hbelow : m.below x y = true) (n k : Nat)
    (hcount : ∀ j, k < j → j ≤ k + n → m.keepsCount (.counted j) = true) :
    (recount worker o x y k).afterAll (List.replicate n (.claim worker now lease)) =
      recount worker o x y (k + n) := by
  have hstep : ∀ k, m.keepsCount (.counted (k + 1)) = true →
      (recount worker o x y k).after (.claim worker now lease) = recount worker o x y (k + 1) := by
    intro k hnext
    have hrow : (recount worker o x y k).rows.find? (·.isClaimable m y) =
        some { (Row.ofObservation 1 y o).claim worker x y with attempts := .counted k } := by
      simp [recount, Row.isClaimable, Row.claim, Row.ofObservation, ho, Row.isIn, hbelow]
    show ((recount worker o x y k).claimNext worker now lease).2 = _
    rw [claimNext_of_claimable hexpiry hx hy hworker hrow (by rwa [Cell.next_counted])]
    simp [recount, modify, Row.claim]
  induction n generalizing k with
  | zero => rfl
  | succ n ih =>
    have hsum : k + 1 + n = k + (n + 1) := by omega
    rw [List.replicate_succ, afterAll_cons, hstep k (hcount _ (by omega) (by omega)),
      ih (k + 1) fun j hlow hhigh => hcount j (by omega) (by omega), hsum]

/-- Claims whose lease has ended when it begins pile up. -/
theorem afterAll_claims (n : Nat) :
    (empty .embedded).afterAll (.enqueue seen (clock 0) ::
        .claim "a" (clock 0) (.ofSeconds (-1)) ::
          List.replicate n (.claim "a" (clock 0) (.ofSeconds (-1)))) =
      recount "a" seen (clock (-1)).toMicros (clock 0).toMicros (1 + n) := by
  have hlt : precedes (clock (-1)).toMicros (clock 0).toMicros = true :=
    (Instant.precedes_toMicros_iff (by decide) (by decide)).mpr (by decide)
  have hfirst : ((empty .embedded).after (.enqueue seen (clock 0))).after
      (.claim "a" (clock 0) (.ofSeconds (-1))) =
        recount "a" seen (clock (-1)).toMicros (clock 0).toMicros 1 := by rfl
  rw [afterAll_cons, afterAll_cons, hfirst,
    afterAll_replicate_claim rfl (by rfl) rfl rfl rfl hlt n 1 fun _ _ _ => rfl]

/-- A leap second after the end of the calendar. -/
def pastCalendar : Instant :=
  { Instant.latest with nanos := 1500000000, nanos_lt := by decide, leap := .inr (by decide) }

/-- Ways out of `claim_exclusive` when its reservations are dropped.  In a file, an item that
was claimed 2^32 times does not read back, so the former holder is not told that it lost
the item.  On a server, neither is one whose outcome has a text with a zero character; and a
claim in the leap second before the end of a lease is handed the item.  Where the leap second
after the end of the calendar was written into the item of a server, neither it nor the answer to
the former holder can be told, and a holder that writes it lets go of the item without an answer. -/
theorem exclusive_not_always :
    (∃ calls : List Call, (∀ c ∈ calls, c.IsFourDigit) ∧
      let s := (empty .embedded).afterAll calls
      let s₁ := (s.claimNext "a" (clock 0) (.ofSeconds (-1))).2
      let s₂ := (s₁.claimNext "b" (clock 0) (.ofSeconds (-1))).2
      let s₃ := (s₂.claimNext "c" (clock 0) (.ofSeconds (-1))).2
      handed? (s.claimNext "a" (clock 0) (.ofSeconds (-1))).1 = some 1 ∧
        handed? (s₁.claimNext "b" (clock 0) (.ofSeconds (-1))).1 = some 1 ∧
        (s₃.record 1 "a" (.retry "refused") none (clock 0)).1 = .error .storage) ∧
    let s := (empty .server).afterAll [.enqueue seen (clock 0)]
    let s₁ := (s.claimNext "a" (clock 0) (.ofSeconds 60)).2
    let s₂ := (s₁.claimNext "b" (clock 61) (.ofSeconds 60)).2
    let leap : Instant := ⟨1700000039, 1500000000, by decide, by decide, by decide, by decide⟩
    let released := (s₁.record 1 "a" (.retry "refused") none pastCalendar).2
    handed? (s.claimNext "a" (clock 0) (.ofSeconds 60)).1 = some 1 ∧
      handed? (s₁.claimNext "b" (clock 61) (.ofSeconds 60)).1 = some 1 ∧
      (s₂.record 1 "a" (.retry "\x00") none (clock 61)).1 = .error .database ∧
      ((∀ expiry ∈ (clock 0).add? (.ofSeconds 40), leap ≤ expiry) ∧
        handed? ((s.claimNext "a" (clock 0) (.ofSeconds 40)).2.claimNext "b" leap
          (.ofSeconds 60)).1 = some 1) ∧
      (s₁.after (.registerHash 1 "h" pastCalendar none)).get 1 = .error .interrupted ∧
      ((s₂.after (.registerHash 1 "h" pastCalendar none)).record 1 "a" (.retry "refused") none
        (clock 61)).1 = .error .interrupted ∧
      (s₁.record 1 "a" (.retry "refused") none pastCalendar).1 = .error .interrupted ∧
      handed? (released.claimNext "b" (clock 1) (.ofSeconds 60)).1 = some 1 := by
  refine ⟨⟨.enqueue seen (clock 0) :: .claim "a" (clock 0) (.ofSeconds (-1)) ::
      List.replicate 4294967292 (.claim "a" (clock 0) (.ofSeconds (-1))), ?_, ?_⟩, ?_⟩
  · intro c hc
    rcases List.mem_cons.mp hc with rfl | hc
    · decide
    · rcases List.mem_cons.mp hc with rfl | hc
      · decide
      · rw [List.eq_of_mem_replicate hc]
        decide
  · rw [afterAll_claims]
    exact ⟨by rfl, by rfl, by rfl⟩
  · exact ⟨by rfl, by rfl, by rfl, ⟨by decide, by rfl⟩, by rfl, by rfl, by rfl, by rfl⟩

end Store

end ArtifactRelay.Backlog
