import ArtifactRelay.Proofs.Fleet.Holding

/-!
# ArtifactRelay.Proofs.Fleet.Attempts

How often items are attempted under a limit.  Whether a failure is the last one is
decided by the count that the worker was told with its claim, not by the count that
the row has when the outcome is written.  But an outcome is written only for the
holder of the row, and the holder of a row was told the count that the row has: any
claim in between would have made another worker the holder (`IsLimited.told`).

So a row goes back to pending only with attempts left, and a claim of a pending row
stays within the limit.  What goes past it are takeovers, the claims of rows that are
still claimed under a lease that has ended; `attempts_le_limit` counts them.
-/

namespace ArtifactRelay

open Backlog Time Worker

namespace Fleet

variable {m : Medium} {ι : Type} [DecidableEq ι] (crew : ι → Worker)

/-! ## Takeovers -/

/-- A worker takes the item though it is claimed, since the lease of that claim has ended. -/
def TakesOver (f : Fleet m ι) (x : Moment ι) (id : Int) : Prop :=
  ∃ k now lease stamp r, f.Takes crew x k id ∧
    f.request? k = some (.claim (crew k).name now lease) ∧ m.stamp? now = some stamp ∧
    f.store.find? id = some r ∧ r.isIn .claimed = true ∧
    ∃ lastly, r.leaseUntil = some lastly ∧ m.below lastly stamp = true

open Classical in
/-- How often an item is taken over in a run. -/
noncomputable def takeovers (id : Int) : Fleet m ι → List (Moment ι) → Nat
  | _, [] => 0
  | f, x :: moments =>
    (if f.TakesOver crew x id then 1 else 0) + takeovers id (f.after crew x) moments

open Classical in
theorem takeovers_snoc (id : Int) (f : Fleet m ι) (moments : List (Moment ι)) (x : Moment ι) :
    f.takeovers crew id (moments ++ [x]) =
      f.takeovers crew id moments +
        (if (f.afterAll crew moments).TakesOver crew x id then 1 else 0) := by
  induction moments generalizing f with
  | nil => exact Nat.add_comm ..
  | cons y moments ih =>
    rw [List.cons_append, takeovers, ih, takeovers, afterAll_cons, Nat.add_assoc]

/-! ## Counts under a limit -/

/-- What a run leaves of the counts, with so many attempts allowed. -/
structure IsLimited (limit : Nat) (moments : List (Moment ι)) (f : Fleet m ι)
    (pos : ι → Position) : Prop where
  /-- The holder of a row was told the count of the row. -/
  told : ∀ k item, (pos k).item? = some item → ∀ r, f.store.find? item.id = some r →
    r.isHeldBy (crew k).name = true → r.attempts = .counted item.attempts
  retried : ∀ k item, (pos k).retried? = some item → item.attempts < limit
  pending : ∀ id r, f.store.find? id = some r → r.isIn .pending = true →
    ∃ n, r.attempts = .counted n ∧ n < limit
  count : ∀ id r, f.store.find? id = some r →
    ∃ n, r.attempts = .counted n ∧ n ≤ limit + (start m ι).takeovers crew id moments

variable {crew} {limit : Nat} {moments : List (Moment ι)} {f : Fleet m ι}
  {pos pos' : ι → Position} {x : Moment ι}

theorem isLimited_start (limit : Nat) :
    IsLimited crew limit [] (start m ι) fun _ => .finished (.ok 0) where
  told _ _ h := by cases h
  retried _ _ h := by cases h
  pending _ _ h := by cases h
  count _ _ h := by cases h

/-- A worker that holds its item after a moment was told the count that the row has then. -/
theorem told_after (hm : m.IsBackend) (hnames : ∀ j k, (crew j).name = (crew k).name → j = k)
    (h : IsLimited crew limit moments f pos) (hs : f.store.IsNumbered)
    (hcounted : f.store.IsCounted) (hat : f.IsAt crew pos)
    (hsteps : Steps crew x f.store pos (f.after crew x).store pos') {k : ι} {item : WorkItem}
    (hitem : (pos' k).item? = some item) {r' : Row m.Stamp}
    (hr' : (f.after crew x).store.find? item.id = some r')
    (hheld : r'.isHeldBy (crew k).name = true) : r'.attempts = .counted item.attempts := by
  rcases claims_or_item? crew hs hat hsteps hitem with ⟨-, q, hq, -, hread⟩ | ⟨hbefore, -⟩
  · cases hr'.symm.trans hq
    obtain ⟨n, hn⟩ := (hsteps.isCounted crew hs hcounted) _ _ hr'
    have hcount := (Row.reads_of_read hread).attempts
    rw [hn] at hcount ⊢
    rw [(Medium.eq_of_count?_counted hm hcount).1]
  · rcases hsteps.exists_rowSteps crew hs hr' with ⟨r, hr, hrow⟩ | ⟨_, o, stamp, rfl⟩
    · cases hrow with
      | same => exact h.told k item hbefore _ hr hheld
      | @claim j _ _ _ _ _ _ _ _ hpos =>
        -- the row would be that of another worker's claim
        obtain rfl := hnames _ _ (Row.isHeldBy_claim.mp hheld)
        rw [hpos] at hbefore
        cases hbefore
      | register => exact h.told k item hbefore r hr hheld
      | conclude =>
        rw [Row.isHeldBy_conclude] at hheld
        cases hheld
    · cases hheld

/-- A pending row has attempts left after a moment. -/
theorem pending_after (hlimit : 1 ≤ limit) (h : IsLimited crew limit moments f pos)
    (hs : f.store.IsNumbered)
    (hsteps : Steps crew x f.store pos (f.after crew x).store pos') {id : Int}
    {r' : Row m.Stamp} (hr' : (f.after crew x).store.find? id = some r')
    (hpending : r'.isIn .pending = true) : ∃ n, r'.attempts = .counted n ∧ n < limit := by
  rcases hsteps.exists_rowSteps crew hs hr' with ⟨r, hr, hrow⟩ | ⟨_, o, stamp, rfl⟩
  · cases hrow with
    | same => exact h.pending id _ hr hpending
    | claim => cases Row.isIn_claim.mp hpending
    | register => exact h.pending id r hr hpending
    | @conclude k left ended item o retryAfter _ _ _ _ hpos hid hheld =>
      -- the worker decided to retry by the count that it was told
      cases o with
      | retry reason =>
        have hrow : f.store.find? item.id = some r := by
          rw [hid, Store.id_of_find? hr]
          exact hr
        have htold := h.told k item (by rw [hpos]; rfl) r hrow hheld
        have hleft := h.retried k item (by rw [hpos]; rfl)
        exact ⟨item.attempts, by rw [Row.attempts_conclude, htold], hleft⟩
      | forwarded => cases Row.isIn_conclude.mp hpending
      | dead => cases Row.isIn_conclude.mp hpending
  · exact ⟨0, rfl, hlimit⟩

open Classical in
/-- The count of a row goes past the limit only with a takeover. -/
theorem count_after (h : IsLimited crew limit moments f pos) (hs : f.store.IsNumbered)
    (hat : f.IsAt crew pos)
    (hsteps : Steps crew x f.store pos (f.after crew x).store pos') {id : Int}
    {r' : Row m.Stamp} (hr' : (f.after crew x).store.find? id = some r') :
    ∃ n, r'.attempts = .counted n ∧
      n ≤ limit + ((start m ι).takeovers crew id moments +
        if f.TakesOver crew x id then 1 else 0) := by
  rcases hsteps.exists_rowSteps crew hs hr' with ⟨r, hr, hrow⟩ | ⟨_, o, stamp, rfl⟩
  · obtain ⟨n, hn, hle⟩ := h.count id r hr
    cases hrow with
    | same => exact ⟨n, hn, by omega⟩
    | @claim k left ended now _ lastly stamp _ hevent hpos _ _ hstamp _ hclaimable =>
      rcases Row.isClaimable_cases hclaimable with hpending | ⟨hclaimed, lease, hlease, hbelow⟩
      · obtain ⟨j, hj, hlt⟩ := h.pending id r hr hpending
        exact ⟨j + 1, by rw [Row.attempts_claim, hj, Cell.next_counted], by omega⟩
      rcases takes_or_eq crew hat hevent hpos hr hr' with htakes | hsame
      · have hover : f.TakesOver crew x id :=
          ⟨k, now, _, stamp, r, htakes, (request?_of_isAt crew hat k).trans (by rw [hpos]; rfl),
            hstamp, hr, hclaimed, lease, hlease, hbelow⟩
        rw [if_pos hover]
        exact ⟨n + 1, by rw [Row.attempts_claim, hn, Cell.next_counted], by omega⟩
      · rw [hsame]
        exact ⟨n, hn, by omega⟩
    | register => exact ⟨n, hn, by omega⟩
    | conclude => exact ⟨n, by rw [Row.attempts_conclude, hn], by omega⟩
  · exact ⟨0, rfl, Nat.zero_le _⟩

theorem isLimited_after (hm : m.IsBackend) (hnames : ∀ j k, (crew j).name = (crew k).name → j = k)
    (hlimit : 1 ≤ limit) (hpolicy : ∀ k, (crew k).settings.retry.maxAttempts = some limit)
    (h : IsLimited crew limit moments f pos) (hs : f.store.IsNumbered)
    (hcounted : f.store.IsCounted) (hat : f.IsAt crew pos)
    (hf : f = (start m ι).afterAll crew moments)
    (hsteps : Steps crew x f.store pos (f.after crew x).store pos') :
    IsLimited crew limit (moments ++ [x]) (f.after crew x) pos' where
  told k item hitem r hr hheld := told_after hm hnames h hs hcounted hat hsteps hitem hr hheld
  retried k item hitem := by
    rcases hsteps.pos_cases crew k with hsame | hstart | ⟨r, hmoves⟩
    · exact h.retried k item (by rwa [hsame] at hitem)
    · rw [hstart, Position.retried?_start] at hitem
      cases hitem
    · rcases hmoves.retried? (crew k) hitem with hbefore | hleft
      · exact h.retried k item hbefore
      · exact RetryPolicy.lt_of_isExhausted_eq_false (hpolicy k) hleft
  pending id r hr hpending := pending_after hlimit h hs hsteps hr hpending
  count id r hr := by
    rw [takeovers_snoc, ← hf]
    exact count_after h hs hat hsteps hr

/-- Under one limit for all workers, a pending item has attempts left, and no item was attempted
more often than the limit allows and its takeovers explain: whatever the workers do, in any
order, with leases that end and writes that do not come through. -/
theorem attempts_le_limit (hm : m.IsBackend)
    (hnames : ∀ j k, (crew j).name = (crew k).name → j = k) (hlimit : 1 ≤ limit)
    (hpolicy : ∀ k, (crew k).settings.retry.maxAttempts = some limit)
    (moments : List (Moment ι)) {r : Row m.Stamp}
    (hr : r ∈ ((start m ι).afterAll crew moments).store.rows) :
    (∃ n, r.attempts = .counted n ∧ (r.isIn .pending = true → n < limit) ∧
      n ≤ limit + (start m ι).takeovers crew r.id moments) ∧
    ∀ item, ((start m ι).afterAll crew moments).store.get r.id = .ok item →
      (item.status = .pending → item.attempts < limit) ∧
        item.attempts ≤ limit + (start m ι).takeovers crew item.id moments := by
  obtain ⟨pos, -, hs, -, hlimited⟩ := run_induction (m := m) crew
    (P := fun moments f pos => IsLimited crew limit moments f pos)
    (isLimited_start limit)
    (fun moments f pos x pos' ih hs hcounted hat hf hsteps =>
      isLimited_after hm hnames hlimit hpolicy ih hs hcounted hat hf hsteps) moments
  have hfind := Store.find?_of_mem hs hr
  obtain ⟨n, hn, hleft, hle⟩ : ∃ n, r.attempts = .counted n ∧ (r.isIn .pending = true → n < limit) ∧
      n ≤ limit + (start m ι).takeovers crew r.id moments := by
    by_cases hpending : r.isIn .pending = true
    · obtain ⟨n, hn, hlt⟩ := hlimited.pending r.id r hfind hpending
      exact ⟨n, hn, fun _ => hlt, by omega⟩
    · obtain ⟨n, hn, hle⟩ := hlimited.count r.id r hfind
      exact ⟨n, hn, fun h => absurd h hpending, hle⟩
  refine ⟨⟨n, hn, hleft, hle⟩, fun item hitem => ?_⟩
  rw [Store.get, hfind] at hitem
  have hreads := Row.reads_of_read hitem
  have hcount := hreads.attempts
  rw [hn] at hcount
  rw [(Medium.eq_of_count?_counted hm hcount).1, hreads.id, hreads.status_eq_iff]
  exact ⟨hleft, hle⟩

/-- Two workers that attempt an item once. -/
def once : Bool → Worker :=
  pair { WorkerSettings.standard with
    lease := .ofSeconds 60
    retry := { WorkerSettings.standard.retry with maxAttempts := some 1 } }

/-- An item that was taken over is attempted twice, one time more than the limit. -/
theorem attempts_le_limit_takeover :
    let moments := calm (Store.clock 0) (.enqueue sighting) :: moves 4 false (Store.clock 0) ++
      moves 4 true (Store.clock 61)
    let s := ((start .embedded Bool).afterAll once moments).store
    ∃ r ∈ s.rows, r.attempts = .counted 2 ∧
      (∃ n, r.attempts = .counted n ∧ (r.isIn .pending = true → n < 1) ∧
        n ≤ 1 + (start .embedded Bool).takeovers once r.id moments) ∧
      ∀ item, s.get r.id = .ok item → (item.status = .pending → item.attempts < 1) ∧
        item.attempts ≤ 1 + (start .embedded Bool).takeovers once item.id moments := by
  intro moments s
  have hrow : ∃ r ∈ s.rows, r.attempts = .counted 2 := by decide
  obtain ⟨r, hr, hcount⟩ := hrow
  exact ⟨r, hr, hcount, attempts_le_limit (.inl rfl) (names_pair _) (by decide)
    (fun _ => rfl) moments hr⟩

end Fleet

end ArtifactRelay
