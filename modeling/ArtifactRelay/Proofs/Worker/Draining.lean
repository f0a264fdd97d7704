import ArtifactRelay.Proofs.Backlog.Consistency
import ArtifactRelay.Proofs.Backlog.Finality
import ArtifactRelay.Proofs.Fleet.Holding

/-!
# ArtifactRelay.Proofs.Worker.Draining

A worker by itself empties the backlog, whatever the engine answers and whatever is
found in the directory.  A failed attempt puts its item back at the head of the queue
and ends the cycle, so no single item is sure to be finished by a cycle.  What drops in
every cycle is the sum of the attempts that the items have left
(`Store.attemptsLeft`): a claim uses up one, nothing gives one back, and with no backoff
a cycle that claims nothing finds nothing that waits.

`Position.Drains` says at each position of a cycle what is left, `drains_after` that
every move keeps it, and `drains_afterCycles` what that means for cycles in turn.  With the
sum at zero everything is finished, and a further cycle finds nothing (`drained_after_cycles`).
-/

namespace ArtifactRelay

open Backlog Time Worker

/-! ## Attempts left -/

namespace Backlog

namespace Row

section

variable {σ : Type} {r : Row σ} {limit : Nat}

instance : Decidable r.IsFinal := inferInstanceAs (Decidable (_ ∨ _))

/-- How many attempts an item has left under a limit; none once it is finished. -/
def attemptsLeft (limit : Nat) (r : Row σ) : Nat :=
  if r.eventType = artifactObserved ∧ ¬ r.IsFinal then
    limit - (r.attempts.whole?.getD 0).toNat
  else 0

/-- The item waits without a backoff, and has attempts left. -/
structure Awaits (limit : Nat) (r : Row σ) : Prop where
  pending : r.isIn .pending = true
  retryAfter : r.retryAfter = none
  attempts : ∃ n : Nat, r.attempts = .whole n ∧ n < limit

theorem attemptsLeft_of_isFinal (h : r.IsFinal) : r.attemptsLeft limit = 0 := by
  simp [attemptsLeft, h]

theorem attemptsLeft_of_open (hobserved : r.eventType = artifactObserved) (hopen : ¬ r.IsFinal)
    {n : Nat} (hn : r.attempts = .whole n) : r.attemptsLeft limit = limit - n := by
  simp [attemptsLeft, hobserved, hopen, hn]

theorem not_isFinal_of_isIn {s : Status} (hs : s = .pending ∨ s = .claimed)
    (h : r.isIn s = true) : ¬ r.IsFinal :=
  fun hfinal => hfinal.not_isIn hs h

theorem Awaits.attemptsLeft_pos (h : r.Awaits limit) (hobserved : r.eventType = artifactObserved) :
    0 < r.attemptsLeft limit := by
  obtain ⟨n, hn, hlt⟩ := h.attempts
  rw [attemptsLeft_of_open hobserved (not_isFinal_of_isIn (.inl rfl) h.pending) hn]
  omega

/-- A claim uses up an attempt. -/
theorem Awaits.attemptsLeft_claim (h : r.Awaits limit) (hobserved : r.eventType = artifactObserved)
    {n : Nat} (hn : r.attempts = .whole n) {worker : String} {expiry now : σ}
    (hcount : (r.claim worker expiry now).attempts = .whole (n + 1 : Nat)) :
    (r.claim worker expiry now).attemptsLeft limit < r.attemptsLeft limit := by
  have hpos := h.attemptsLeft_pos hobserved
  have hclaimed : (r.claim worker expiry now).isIn .claimed = true := isIn_claim.mpr rfl
  rw [attemptsLeft_of_open hobserved (not_isFinal_of_isIn (.inl rfl) h.pending) hn] at hpos ⊢
  rw [attemptsLeft_of_open (r := r.claim worker expiry now) hobserved
    (not_isFinal_of_isIn (.inr rfl) hclaimed) hcount]
  omega

@[simp] theorem attemptsLeft_register (hash : String) (now : σ) :
    (r.register hash now).attemptsLeft limit = r.attemptsLeft limit := rfl

/-- No outcome gives an attempt back. -/
theorem attemptsLeft_conclude (limit : Nat) (h : r.isIn .claimed = true) (o : Outcome)
    (retryAfter : Option σ) (now : σ) :
    (r.conclude o retryAfter now).attemptsLeft limit ≤ r.attemptsLeft limit := by
  have hopen := not_isFinal_of_isIn (.inr rfl) h
  unfold attemptsLeft
  rw [eventType_conclude, attempts_conclude]
  simp only [hopen, not_false_eq_true, and_true]
  split
  · rename_i hboth
    exact Nat.le_of_eq (if_pos hboth.1).symm
  · exact Nat.zero_le _

/-- An item whose claim ended is finished, or it waits: a retry without backoff is one that has
attempts left. -/
theorem isFinal_or_awaits_conclude {o : Outcome} {n : Nat} (hn : r.attempts = .whole n)
    (hretry : ∀ reason, o = .retry reason → n < limit) (now : σ) :
    (r.conclude o none now).IsFinal ∨ (r.conclude o none now).Awaits limit := by
  cases o with
  | forwarded taskRef response hash => exact .inl (.inl rfl)
  | dead reason duplicateOf => exact .inl (.inr rfl)
  | retry reason => exact .inr ⟨rfl, rfl, n, hn, hretry reason rfl⟩

end

end Row

namespace Store

variable {m : Medium} {s : Store m} {limit : Nat} {worker : String} {item : WorkItem}

/-- How many attempts all items together have left under a limit. -/
def attemptsLeft (s : Store m) (limit : Nat) : Nat :=
  s.rows.foldr (fun r n => r.attemptsLeft limit + n) 0

/-- All items are finished or wait with attempts left. -/
def IsAtRest (s : Store m) (limit : Nat) : Prop :=
  ∀ id r, s.find? id = some r → r.eventType = artifactObserved → r.IsFinal ∨ r.Awaits limit

/-- A worker holds an item and was told its count, and all other items are finished or wait with
attempts left. -/
structure IsAtWork (s : Store m) (limit : Nat) (worker : String) (item : WorkItem) : Prop where
  held : ∃ r, s.find? item.id = some r ∧ r.isHeldBy worker = true ∧
    r.attempts = .whole item.attempts
  others : ∀ id r, id ≠ item.id → s.find? id = some r → r.eventType = artifactObserved →
    r.IsFinal ∨ r.Awaits limit

/-- The sum changes by the row that is changed. -/
theorem attemptsLeft_modify (limit : Nat) (hs : s.IsNumbered) {id : Int} {r : Row m.Stamp}
    (hr : s.find? id = some r) (f : Row m.Stamp → Row m.Stamp) :
    (s.modify id f).attemptsLeft limit + r.attemptsLeft limit =
      s.attemptsLeft limit + (f r).attemptsLeft limit := by
  unfold attemptsLeft modify IsNumbered find? at *
  dsimp only
  generalize s.rows = rows at *
  induction rows with
  | nil => cases hr
  | cons q rows ih =>
    rw [List.pairwise_cons] at hs
    rw [List.find?_cons] at hr
    rw [List.map_cons, List.foldr_cons, List.foldr_cons]
    by_cases hq : q.id = id
    · have hfirst : q = r := by simpa [hq] using hr
      have hrest : rows.map (fun r => if r.id = id then f r else r) = rows := by
        -- no other row has the number
        refine (List.map_congr_left fun p hp => if_neg ?_).trans (List.map_id rows)
        exact fun hid => hs.1 p hp (hq.trans hid.symm)
      rw [if_pos hq, hrest, hfirst]
      omega
    · have hother : (q.id == id) = false := beq_false_of_ne hq
      rw [hother] at hr
      have hsum := ih hs.2 hr
      rw [if_neg hq]
      omega

theorem attemptsLeft_eq_zero_iff :
    s.attemptsLeft limit = 0 ↔ ∀ r ∈ s.rows, r.attemptsLeft limit = 0 := by
  unfold attemptsLeft
  induction s.rows with
  | nil => simp
  | cons q rows ih => rw [List.foldr_cons, Nat.add_eq_zero_iff, ih, List.forall_mem_cons]

/-- Of a backlog with so many artifacts, no more attempts are left than the limit gives to each. -/
theorem attemptsLeft_le (s : Store m) (limit : Nat) :
    s.attemptsLeft limit ≤ s.rows.countP (·.eventType == artifactObserved) * limit := by
  unfold attemptsLeft
  induction s.rows with
  | nil => exact Nat.zero_le _
  | cons r rows ih =>
    rw [List.foldr_cons, List.countP_cons, Nat.add_mul]
    have hrow : r.attemptsLeft limit ≤
        (if (r.eventType == artifactObserved) = true then 1 else 0) * limit := by
      unfold Row.attemptsLeft
      by_cases hobserved : r.eventType = artifactObserved
      · simp only [hobserved, beq_self_eq_true, if_true, Nat.one_mul]
        split <;> omega
      · simp [hobserved]
    omega

/-- A backlog at rest with no attempts left is finished. -/
theorem IsAtRest.isFinal (h : s.IsAtRest limit) (hs : s.IsNumbered)
    (hzero : s.attemptsLeft limit = 0) {r : Row m.Stamp} (hr : r ∈ s.rows)
    (hobserved : r.eventType = artifactObserved) : r.IsFinal := by
  rcases h r.id r (find?_of_mem hs hr) hobserved with hfinal | hawaits
  · exact hfinal
  · have hnone := attemptsLeft_eq_zero_iff.mp hzero r hr
    have hsome := hawaits.attemptsLeft_pos hobserved
    omega

/-- An item that was never claimed waits, with all its attempts. -/
theorem awaits_of_isReachable (hs : s.IsReachable) {id : Int} {r : Row m.Stamp}
    (hr : s.find? id = some r) (hcount : r.attempts = .whole 0) (hone : 1 ≤ limit) :
    r.Awaits limit := by
  obtain ⟨n, hrow⟩ := exists_isConsistent hs hr
  have hnone : n = 0 := by
    have hattempts := (Cell.counted_eq_whole.mp (hrow.attempts.symm.trans hcount)).1
    omega
  rw [hnone] at hrow
  refine ⟨hrow.fresh rfl, Option.not_isSome_iff_eq_none.mp fun hsome => ?_, 0, hcount, hone⟩
  exact absurd (hrow.retryAfter hsome).2 (by decide)

/-! ## Operations of a worker by itself -/

/-- A backlog at rest hands out an item that waited. -/
theorem IsAtRest.claim (hm : m.IsBackend) (hs : s.IsNumbered) (h : s.IsAtRest limit)
    {now : Instant} {lease : Span} (hclaim : (s.claimNext worker now lease).1 = .ok (some item)) :
    (s.claimNext worker now lease).2.IsAtWork limit worker item ∧
      (s.claimNext worker now lease).2.attemptsLeft limit < s.attemptsLeft limit := by
  obtain ⟨_, lastly, stamp, row, -, -, -, -, hfind, hclaimable, hread, hafter⟩ :=
    claimNext_some hs hclaim
  have hobserved := Row.eventType_of_isClaimable hclaimable
  have hawaits : row.Awaits limit := by
    refine (h item.id row hfind hobserved).resolve_left fun hfinal => ?_
    rcases Row.isClaimable_cases hclaimable with hpending | ⟨hclaimed, -⟩
    · exact hfinal.not_isIn (.inl rfl) hpending
    · exact hfinal.not_isIn (.inr rfl) hclaimed
  obtain ⟨n, hn, -⟩ := hawaits.attempts
  have htold := (Row.reads_of_read hread).attempts
  rw [Row.attempts_claim, hn] at htold
  obtain ⟨hattempts, hnext⟩ := Medium.next_of_count? hm htold
  have hcount : (row.claim worker lastly stamp).attempts = .whole (n + 1 : Nat) := by
    rw [Row.attempts_claim, hn, hnext]
  rw [hafter]
  refine ⟨⟨⟨_, find?_modify_self (fun _ => rfl) hfind, Row.isHeldBy_claim.mpr rfl, ?_⟩, ?_⟩, ?_⟩
  · rw [hcount, hattempts]
  · intro id r hid hr
    rw [find?_modify_ne (fun _ => Row.id_claim ..) hid] at hr
    exact h id r hr
  · have hsum := attemptsLeft_modify limit hs hfind (·.claim worker lastly stamp)
    have hlt := hawaits.attemptsLeft_claim hobserved hn hcount
    omega

/-- A backlog at rest that hands out nothing has no attempts left. -/
theorem IsAtRest.claim_none (hs : s.IsNumbered) (h : s.IsAtRest limit) {now : Instant}
    {lease : Span} (hclaim : (s.claimNext worker now lease).1 = .ok none) :
    s.attemptsLeft limit = 0 := by
  obtain ⟨-, stamp, -, hnone⟩ := claimNext_none hclaim
  refine attemptsLeft_eq_zero_iff.mpr fun r hr => ?_
  by_cases hobserved : r.eventType = artifactObserved
  · rcases h r.id r (find?_of_mem hs hr) hobserved with hfinal | hawaits
    · exact Row.attemptsLeft_of_isFinal hfinal
    · have hclaimable : r.isClaimable m stamp = true := by
        simp [Row.isClaimable, hobserved, hawaits.pending, hawaits.retryAfter]
      rw [hnone r hr] at hclaimable
      cases hclaimable
  · simp [Row.attemptsLeft, hobserved]

/-- A registration of the worker's item uses up nothing. -/
theorem IsAtWork.registerHash (hs : s.IsNumbered) (h : s.IsAtWork limit worker item)
    (hash : String) (now : Instant) (since : Option Instant) :
    (s.registerHash item.id hash now since).2.IsAtWork limit worker item ∧
      (s.registerHash item.id hash now since).2.attemptsLeft limit = s.attemptsLeft limit := by
  rcases s.registerHash_cases item.id hash now since with
    ⟨e, hcase⟩ | ⟨stamp, _, -, -, -, -, hcase⟩
  · rw [hcase]
    exact ⟨h, rfl⟩
  · rw [hcase]
    obtain ⟨r, hr, hheld, hcount⟩ := h.held
    refine ⟨⟨⟨_, find?_modify_self (fun _ => rfl) hr, hheld, hcount⟩, ?_⟩, ?_⟩
    · intro id q hid hq
      dsimp only at hq
      rw [find?_modify_ne (fun _ => Row.id_register ..) hid] at hq
      exact h.others id q hid hq
    · have hsum := attemptsLeft_modify limit hs hr (·.register hash stamp)
      rw [Row.attemptsLeft_register] at hsum
      exact Nat.add_right_cancel hsum

/-- Once the outcome is recorded, the backlog is at rest again. -/
theorem IsAtWork.record (hs : s.IsNumbered) (h : s.IsAtWork limit worker item) {o : Outcome}
    {retryAfter : Option Instant} {now : Instant}
    (hretry : ∀ reason, o = .retry reason → item.attempts < limit ∧ retryAfter = none)
    {updated : WorkItem} (hok : (s.record item.id worker o retryAfter now).1 = .ok updated) :
    (s.record item.id worker o retryAfter now).2.IsAtRest limit ∧
      (s.record item.id worker o retryAfter now).2.attemptsLeft limit ≤ s.attemptsLeft limit := by
  obtain ⟨r, hr, hheld, hcount⟩ := h.held
  rcases s.record_cases item.id worker o retryAfter now with
    ⟨e, hcase⟩ | ⟨stamp, retryStamp, row, -, hstamp, hrow, -, hcase⟩
  · rw [hcase] at hok
    cases hok
  · cases hr.symm.trans hrow
    have hnone : retryStamp = none := by
      rw [← hstamp]
      cases o with
      | retry reason => rw [(hretry reason rfl).2]; rfl
      | forwarded => rfl
      | dead => rfl
    subst hnone
    rw [hcase]
    constructor
    · intro id q hq hobserved
      by_cases hid : id = item.id
      · subst hid
        rw [find?_modify_self (fun _ => Row.id_conclude ..) hr] at hq
        cases hq
        exact Row.isFinal_or_awaits_conclude hcount (fun reason ho => (hretry reason ho).1) stamp
      · dsimp only at hq
        rw [find?_modify_ne (fun _ => Row.id_conclude ..) hid] at hq
        exact h.others id q hid hq hobserved
    · have hsum := attemptsLeft_modify limit hs hr (·.conclude o none stamp)
      have hle := Row.attemptsLeft_conclude limit (Row.isIn_of_isHeldBy hheld) o none stamp
      dsimp only
      omega

end Store

end Backlog

/-! ## Positions of a cycle -/

namespace Worker

/-- An operation on the backlog failed. -/
def Request.isFailure : (r : Request) → r.Answer → Bool
  | .claim .., (answer : Except Error (Option WorkItem)) => !answer.isOk
  | .registerHash .., (answer : Except Error Bool) => !answer.isOk
  | .record .., (answer : Except Error WorkItem) => !answer.isOk
  | _, _ => false

variable {m : Medium} {w : Worker} {limit budget : Nat} {s : Store m}

/-- What is left at a position of a cycle that began with so many attempts left. -/
def Position.Drains (worker : String) (limit budget : Nat) (s : Store m) : Position → Prop
  | finished _ => s.IsAtRest limit ∧ (s.attemptsLeft limit < budget ∨ s.attemptsLeft limit = 0)
  | starting .. | dating .. | claiming .. => s.IsAtRest limit ∧ s.attemptsLeft limit ≤ budget
  | looking _ _ item | checking _ _ item .. | registering _ _ item .. | submitting _ _ item .. =>
    s.IsAtWork limit worker item ∧ s.attemptsLeft limit < budget
  | deferring _ _ item _ =>
    s.IsAtWork limit worker item ∧ s.attemptsLeft limit < budget ∧ item.attempts < limit
  | recording _ _ item outcome retryAfter =>
    s.IsAtWork limit worker item ∧ s.attemptsLeft limit < budget ∧
      ∀ reason, outcome = .retry reason → item.attempts < limit ∧ retryAfter = none

/-- After an item, the backlog is at rest with less left than before. -/
theorem Position.drains_afterItem {worker : String} (hrest : s.IsAtRest limit)
    (hlt : s.attemptsLeft limit < budget) (left ended : Nat) (result : Except Error Outcome) :
    (afterItem left ended result).Drains worker limit budget s := by
  rcases afterItem_cases left ended result with ⟨_, h⟩ | ⟨_, _, h⟩
  · rw [h]
    exact ⟨hrest, .inl hlt⟩
  · rw [h]
    exact ⟨hrest, Nat.le_of_lt hlt⟩

theorem drains_registering {x : World} (hs : s.IsNumbered) {item : WorkItem}
    (h : s.IsAtWork limit w.name item ∧ s.attemptsLeft limit < budget) {hash : String}
    {now : Instant} {since : Option Instant} :
    let s' := (x.answer (.registerHash item.id hash now since) s).2
    s'.IsAtWork limit w.name item ∧ s'.attemptsLeft limit < budget := by
  intro s'
  rcases x.reach_cases s (s.registerHash item.id hash now since) with hreach | ⟨e, hreach⟩
  · obtain ⟨hwork, hsame⟩ := h.1.registerHash hs hash now since
    have hs' : s' = (s.registerHash item.id hash now since).2 := congrArg Prod.snd hreach
    rw [hs', hsame]
    exact ⟨hwork, h.2⟩
  · have hs' : s' = s := congrArg Prod.snd hreach
    rw [hs']
    exact h

/-- Every move keeps what is left, unless the worker is stopped or the backlog fails. -/
theorem drains_after (hm : m.IsBackend) (hlimit : w.settings.retry.maxAttempts = some limit)
    (hbackoff : w.settings.retry.backoff = .zero) {x : World} (hgoing : x.stopping = false)
    (hs : s.IsNumbered) {p q : Position} {r : Request} (h : p.Drains w.name limit budget s)
    (hmoves : w.Moves p r (x.answer r s).1 q) (hok : r.isFailure (x.answer r s).1 = false) :
    q.Drains w.name limit budget (x.answer r s).2 := by
  generalize hanswer : (x.answer r s).1 = answer at hmoves hok
  cases hmoves with
  | stop =>
    rw [show (x.answer .isStopping s).1 = x.stopping from rfl, hgoing] at hanswer
    cases hanswer
  | go | date => exact h
  | @claimNothing left ended now answer _ hnothing =>
    have hnone : answer = .ok none := by
      cases answer with
      | error e => cases hok
      | ok claimed =>
        cases claimed with
        | none => rfl
        | some item => exact absurd rfl (hnothing item)
    subst hnone
    have hreach := x.reach_of_fst_eq_ok hanswer
    show Position.Drains _ _ _ (x.reach s (s.claimNext w.name now w.settings.lease)).2 _
    change (x.reach s (s.claimNext w.name now w.settings.lease)).1 = _ at hanswer
    rw [hreach] at hanswer ⊢
    rw [(Store.claimNext_none hanswer).1]
    exact ⟨h.1, .inr (h.1.claim_none hs hanswer)⟩
  | @claim left ended now item =>
    have hreach := x.reach_of_fst_eq_ok hanswer
    show Position.Drains _ _ _ (x.reach s (s.claimNext w.name now w.settings.lease)).2 _
    change (x.reach s (s.claimNext w.name now w.settings.lease)).1 = _ at hanswer
    rw [hreach] at hanswer ⊢
    obtain ⟨hwork, hlt⟩ := h.1.claim hm hs hanswer
    exact ⟨hwork, Nat.lt_of_lt_of_le hlt h.2⟩
  | lose => exact ⟨h.1, h.2, nofun⟩
  | find | findUnknown | check => exact h
  | duplicate =>
    obtain ⟨hwork, hlt⟩ := drains_registering hs h
    exact ⟨hwork, hlt, nofun⟩
  | unique => exact drains_registering hs h
  | accept | giveUp => exact ⟨h.1, h.2, nofun⟩
  | refuse hleft => exact ⟨h.1, h.2, RetryPolicy.lt_of_isExhausted_eq_false hlimit hleft⟩
  | defer hretry =>
    rw [RetryPolicy.retryAfter_of_no_backoff hbackoff] at hretry
    cases hretry
    exact ⟨h.1, h.2.1, fun _ _ => ⟨h.2.2, rfl⟩⟩
  | fail herror =>
    rw [RetryPolicy.retryAfter_of_no_backoff hbackoff] at herror
    cases herror
  | @record left ended item outcome retryAfter answer =>
    cases answer with
    | error e => cases hok
    | ok updated =>
      have hreach := x.reach_of_fst_eq_ok hanswer
      show Position.Drains _ _ _
        (x.reach s (s.record item.id w.name outcome retryAfter x.clock)).2 _
      change (x.reach s (s.record item.id w.name outcome retryAfter x.clock)).1 = _ at hanswer
      rw [hreach] at hanswer ⊢
      obtain ⟨hrest, hle⟩ := h.1.record hs h.2.2 hanswer
      exact Position.drains_afterItem hrest (Nat.lt_of_le_of_lt hle h.2.1) ..

end Worker

/-! ## Cycles in turn -/

/-- A request, and what was answered. -/
structure Exchange where
  request : Request
  answer : request.Answer

/-- A store, and all that was asked and answered so far. -/
structure Journal (m : Medium) where
  store : Store m
  exchanges : List Exchange

namespace Journal

variable {m : Medium}

/-- An operation on the backlog has failed. -/
def HasFailed (j : Journal m) : Prop := ∃ e ∈ j.exchanges, e.request.isFailure e.answer = true

/-- What a request answers and leaves, each in the world that it finds. -/
def answer (worlds : Nat → World) (r : Request) (j : Journal m) : r.Answer × Journal m :=
  let (a, s) := (worlds j.exchanges.length).answer r j.store
  (a, ⟨s, j.exchanges ++ [⟨r, a⟩]⟩)

/-- What a worker by itself leaves after so many cycles. -/
def afterCycles (worlds : Nat → World) (w : Worker) : Nat → Journal m → Journal m
  | 0, j => j
  | n + 1, j => (w.cycle.run (answer worlds) (j.afterCycles worlds w n)).2

variable {worlds : Nat → World} {w : Worker} {limit : Nat}

theorem answer_eq {r : Request} {j : Journal m} {a : r.Answer} {s : Store m}
    (h : (worlds j.exchanges.length).answer r j.store = (a, s)) :
    answer worlds r j = (a, ⟨s, j.exchanges ++ [⟨r, a⟩]⟩) := by
  unfold answer
  rw [h]

theorem hasFailed_answer {r : Request} {j : Journal m} :
    (answer worlds r j).2.HasFailed ↔
      j.HasFailed ∨ r.isFailure (answer worlds r j).1 = true := by
  simp [HasFailed, answer, or_and_right, exists_or]

/-- What has failed stays on record. -/
theorem hasFailed_run {α : Type} (program : Program α) {j : Journal m} (h : j.HasFailed) :
    (program.run (answer worlds) j).2.HasFailed := by
  induction program generalizing j with
  | done a => exact h
  | ask r next ih => exact ih _ (hasFailed_answer.mpr (.inl h))

/-- A program makes calls on the store, and nothing else. -/
theorem exists_calls (worlds : Nat → World) {α : Type} (program : Program α) (j : Journal m) :
    ∃ calls, (program.run (answer worlds) j).2.store = j.store.afterAll calls := by
  induction program generalizing j with
  | done a => exact ⟨[], rfl⟩
  | ask r next ih =>
    obtain ⟨calls, hcalls⟩ := ih (answer worlds r j).1 (answer worlds r j).2
    have hrun : (Program.run (answer worlds) (.ask r next) j).2.store =
        ((worlds j.exchanges.length).answer r j.store).2.afterAll calls := hcalls
    rcases (worlds j.exchanges.length).answer_store r j.store with hsame | ⟨c, -, hcall⟩
    · exact ⟨calls, by rw [hrun, hsame]⟩
    · exact ⟨c :: calls, by rw [hrun, hcall, Store.afterAll_cons]⟩

/-- A cycle over a backlog at rest leaves it at rest, and uses up an attempt unless none was
left. -/
theorem drains_cycle (hm : m.IsBackend) (hlimit : w.settings.retry.maxAttempts = some limit)
    (hbackoff : w.settings.retry.backoff = .zero) (hbatch : 1 ≤ w.settings.batch)
    (hgoing : ∀ n, (worlds n).stopping = false) {j : Journal m} (hs : j.store.IsNumbered)
    (hrest : j.store.IsAtRest limit)
    (hkept : ¬ (w.cycle.run (answer worlds) j).2.HasFailed) :
    let left := (w.cycle.run (answer worlds) j).2
    left.store.IsAtRest limit ∧
      (left.store.attemptsLeft limit < j.store.attemptsLeft limit ∨
        left.store.attemptsLeft limit = 0) := by
  obtain ⟨batch, hbatch⟩ := Nat.exists_eq_add_of_le' hbatch
  have hprogram : w.cycle = (Position.starting batch 0).program w := by
    unfold cycle
    rw [hbatch]
    rfl
  rw [hprogram] at hkept ⊢
  refine (w.run_of_moves (P := fun (p : Position) (t : Journal m) => ¬ t.HasFailed →
    t.store.IsNumbered ∧ p.Drains w.name limit (j.store.attemptsLeft limit) t.store) ?_ ?_ hkept).2
  · intro p t r q hp hmoves hnot
    rw [hasFailed_answer, not_or, Bool.not_eq_true] at hnot
    obtain ⟨hnumbered, hdrains⟩ := hp hnot.1
    refine ⟨?_, drains_after hm hlimit hbackoff (hgoing _) hnumbered hdrains hmoves hnot.2⟩
    show ((worlds t.exchanges.length).answer r t.store).2.IsNumbered
    rcases (worlds t.exchanges.length).answer_store r t.store with hsame | ⟨c, -, hcall⟩
    · rwa [hsame]
    · rw [hcall]
      exact Store.isNumbered_after hnumbered c
  · exact fun _ => ⟨hs, hrest, Nat.le_refl _⟩

theorem exists_calls_afterCycles (worlds : Nat → World) (w : Worker) (n : Nat) (j : Journal m) :
    ∃ calls, (j.afterCycles worlds w n).store = j.store.afterAll calls := by
  induction n with
  | zero => exact ⟨[], rfl⟩
  | succ n ih =>
    obtain ⟨calls, hcalls⟩ := ih
    obtain ⟨more, hmore⟩ := exists_calls worlds w.cycle (j.afterCycles worlds w n)
    refine ⟨calls ++ more, ?_⟩
    rw [Store.afterAll_append, ← hcalls]
    exact hmore

/-- Every cycle uses up an attempt, as long as there are any. -/
theorem drains_afterCycles (hm : m.IsBackend) (hlimit : w.settings.retry.maxAttempts = some limit)
    (hbackoff : w.settings.retry.backoff = .zero) (hbatch : 1 ≤ w.settings.batch)
    (hgoing : ∀ n, (worlds n).stopping = false) {j : Journal m} (hs : j.store.IsReachable)
    (hrest : j.store.IsAtRest limit) {n : Nat}
    (hkept : ¬ (j.afterCycles worlds w n).HasFailed) :
    let left := j.afterCycles worlds w n
    left.store.IsAtRest limit ∧ left.store.attemptsLeft limit ≤ j.store.attemptsLeft limit - n := by
  induction n with
  | zero => exact ⟨hrest, Nat.le_refl _⟩
  | succ n ih =>
    have hbefore : ¬ (j.afterCycles worlds w n).HasFailed := fun h => hkept (hasFailed_run _ h)
    obtain ⟨hatRest, hle⟩ := ih hbefore
    obtain ⟨calls, hcalls⟩ := exists_calls_afterCycles worlds w n j
    have hnumbered : (j.afterCycles worlds w n).store.IsNumbered := by
      rw [hcalls]
      exact Store.isNumbered_of_isReachable (hs.afterAll calls)
    obtain ⟨hatRest', hdrop⟩ :=
      drains_cycle hm hlimit hbackoff hbatch hgoing hnumbered hatRest hkept
    refine ⟨hatRest', ?_⟩
    show (w.cycle.run (answer worlds) (j.afterCycles worlds w n)).2.store.attemptsLeft limit ≤ _
    omega

/-- A finished backlog hands out nothing. -/
theorem answer_claim_of_finished {x : World} {s : Store m}
    (hfinal : ∀ r ∈ s.rows, r.eventType = artifactObserved → r.IsFinal) (worker : String)
    (now : Instant) (lease : Span) :
    (∃ e, x.answer (.claim worker now lease) s = (.error e, s)) ∨
      x.answer (.claim worker now lease) s = (.ok none, s) := by
  rcases x.reach_cases s (s.claimNext worker now lease) with hreach | ⟨e, hreach⟩
  · have hanswer : x.answer (.claim worker now lease) s = s.claimNext worker now lease := hreach
    rw [hanswer]
    rcases s.claimNext_cases worker now lease with
      h | h | ⟨_, _, stamp, row, -, -, -, -, hrow, -⟩
    · exact .inl h
    · exact .inr h
    · have hclaimable : row.isClaimable m stamp = true := by simpa using List.find?_some hrow
      have hrowFinal := hfinal row (List.mem_of_find?_eq_some hrow)
        (Row.eventType_of_isClaimable hclaimable)
      rcases Row.isClaimable_cases hclaimable with hpending | ⟨hclaimed, -⟩
      · exact absurd hpending (hrowFinal.not_isIn (.inl rfl))
      · exact absurd hclaimed (hrowFinal.not_isIn (.inr rfl))
  · exact .inl ⟨e, hreach⟩

/-- A cycle over a finished backlog claims once, and is handed nothing. -/
theorem cycle_of_finished (hbatch : 1 ≤ w.settings.batch)
    (hgoing : ∀ n, (worlds n).stopping = false) {j : Journal m}
    (hfinal : ∀ r ∈ j.store.rows, r.eventType = artifactObserved → r.IsFinal)
    (hkept : ¬ (w.cycle.run (answer worlds) j).2.HasFailed) :
    ∃ now, w.cycle.run (answer worlds) j = (.ok 0, ⟨j.store, j.exchanges ++
      [⟨.isStopping, false⟩, ⟨.now, now⟩, ⟨.claim w.name now w.settings.lease, .ok none⟩]⟩) := by
  obtain ⟨batch, hbatch⟩ := Nat.exists_eq_add_of_le' hbatch
  let j₁ : Journal m := ⟨j.store, j.exchanges ++ [⟨.isStopping, false⟩]⟩
  let now := (worlds j₁.exchanges.length).clock
  let j₂ : Journal m := ⟨j.store, j₁.exchanges ++ [⟨.now, now⟩]⟩
  let claim : Request := .claim w.name now w.settings.lease
  let claimed := answer worlds claim j₂
  have hrun : w.cycle.run (answer worlds) j =
      (w.afterClaim batch 0 claimed.1).run (answer worlds) claimed.2 := by
    let rest (isStopping : Bool) : Program (Except Error Nat) :=
      if isStopping then .done (.ok 0)
      else .ask .now fun now => .ask (.claim w.name now w.settings.lease) (w.afterClaim batch 0)
    have hcycle : w.cycle.run (answer worlds) j =
        (rest (answer worlds .isStopping j).1).run (answer worlds)
          (answer worlds .isStopping j).2 := by
      unfold cycle
      rw [hbatch, cycleFrom_succ]
      rfl
    have hstopping : answer worlds .isStopping j = (false, j₁) :=
      answer_eq (congrArg (·, j.store) (hgoing j.exchanges.length))
    rw [hcycle, hstopping]
    rfl
  have hnothing : claimed = (.ok none, ⟨j.store, j₂.exchanges ++ [⟨claim, .ok none⟩]⟩) := by
    have hok : ¬ claimed.2.HasFailed := fun h => by
      rw [hrun] at hkept
      exact hkept (hasFailed_run _ h)
    rw [hasFailed_answer, not_or] at hok
    rcases answer_claim_of_finished (x := worlds j₂.exchanges.length) hfinal w.name now
        w.settings.lease with ⟨e, h⟩ | h
    · refine absurd ?_ hok.2
      show claim.isFailure ((worlds j₂.exchanges.length).answer claim j.store).1 = true
      rw [h]
      rfl
    · exact answer_eq h
  refine ⟨now, ?_⟩
  rw [hrun, hnothing]
  simp [afterClaim, Program.run, j₂, j₁, claim]

/-- A worker by itself drains the backlog.  Of a backlog with so many artifacts that were never
claimed, every one is forwarded or dead after as many cycles as the limit gives attempts to all
of them together, whatever the batch, the directory and the engine; and a further cycle claims
once, is handed nothing and ends nothing. -/
theorem drained_after_cycles (hm : m.IsBackend) {s : Store m} (hs : s.IsReachable)
    (hfresh : ∀ r ∈ s.rows, r.eventType = artifactObserved → r.attempts = .whole 0)
    (hone : 1 ≤ limit) (hlimit : w.settings.retry.maxAttempts = some limit)
    (hbackoff : w.settings.retry.backoff = .zero) (hbatch : 1 ≤ w.settings.batch)
    (hgoing : ∀ n, (worlds n).stopping = false) {n : Nat}
    (hn : s.rows.countP (·.eventType == artifactObserved) * limit ≤ n)
    (hkept : ¬ (afterCycles worlds w (n + 1) ⟨s, []⟩).HasFailed) :
    let drained := afterCycles worlds w n ⟨s, []⟩
    (∀ r ∈ s.rows, r.eventType = artifactObserved →
      ∃ r', drained.store.find? r.id = some r' ∧ r'.IsFinal) ∧
    ∃ now, w.cycle.run (answer worlds) drained = (.ok 0, ⟨drained.store, drained.exchanges ++
      [⟨.isStopping, false⟩, ⟨.now, now⟩, ⟨.claim w.name now w.settings.lease, .ok none⟩]⟩) := by
  intro drained
  have hnumbered := Store.isNumbered_of_isReachable hs
  have hrest : s.IsAtRest limit := fun id r hr hobserved =>
    .inr (Store.awaits_of_isReachable hs hr (hfresh r (Store.mem_of_find? hr) hobserved) hone)
  obtain ⟨calls, hcalls⟩ := exists_calls_afterCycles worlds w n ⟨s, []⟩
  have hdrained : drained.store.IsNumbered := by
    rw [hcalls]
    exact Store.isNumbered_of_isReachable (hs.afterAll calls)
  obtain ⟨hatRest, hle⟩ := drains_afterCycles hm hlimit hbackoff hbatch hgoing (j := ⟨s, []⟩) hs
    hrest (n := n) fun h => hkept (hasFailed_run _ h)
  have hzero : drained.store.attemptsLeft limit = 0 := by
    have hstart := s.attemptsLeft_le limit
    have hend : drained.store.attemptsLeft limit ≤ s.attemptsLeft limit - n := hle
    omega
  have hfinal : ∀ r ∈ drained.store.rows, r.eventType = artifactObserved → r.IsFinal :=
    fun r hr hobserved => hatRest.isFinal hdrained hzero hr hobserved
  refine ⟨fun r hr hobserved => ?_, cycle_of_finished hbatch hgoing hfinal hkept⟩
  obtain ⟨r', hr', hkind⟩ := Store.find?_afterAll hnumbered calls (Store.find?_of_mem hnumbered hr)
  have hfind : drained.store.find? r.id = some r' := by
    rw [hcalls]
    exact hr'
  exact ⟨r', hfind, hfinal r' (Store.mem_of_find? hfind) (hkind.trans hobserved)⟩

/-! ### A run on fixed inputs -/

instance (j : Journal m) : Decidable j.HasFailed :=
  inferInstanceAs (Decidable (∃ e ∈ j.exchanges, e.request.isFailure e.answer = true))

/-- The artifact `x` is there, and the engine never answers. -/
def silent (_ : Nat) : World where
  clock := Store.clock 0
  stopping := false
  folder := some [⟨[120], .folder⟩]
  reply := .error .timeout
  outage := none

/-- The worker `a`, which makes two attempts. -/
def twice : Worker :=
  Fleet.pair { WorkerSettings.standard with retry := ⟨some 2, .zero, .zero⟩ } false

/-- An item that the engine never answers for is dead after two cycles, and not before. -/
theorem drained_after_cycles_silent :
    let s := (Store.empty .embedded).afterAll [.enqueue Fleet.sighting (Store.clock 0)]
    let drained := afterCycles silent twice 2 ⟨s, []⟩
    ((afterCycles silent twice 1 ⟨s, []⟩).store.find? 1).any (·.isIn .pending) = true ∧
      (∃ r, drained.store.find? 1 = some r ∧ r.IsFinal) ∧
      (twice.cycle.run (answer silent) drained).1 = .ok 0 := by
  intro s drained
  have hfresh : ∀ r ∈ s.rows, r.eventType = artifactObserved → r.attempts = .whole 0 := by decide
  have hkept : ¬ (afterCycles silent twice 3 ⟨s, []⟩).HasFailed := by decide
  obtain ⟨hfinal, now, hlast⟩ := drained_after_cycles (.inl rfl) ⟨_, rfl⟩ hfresh
    (by decide) rfl rfl (by decide) (fun _ => rfl) (n := 2) (by decide) hkept
  have hrow : ∃ r ∈ s.rows, r.id = 1 ∧ r.eventType = artifactObserved := by decide
  obtain ⟨r, hr, hid, hobserved⟩ := hrow
  exact ⟨by decide, hid ▸ hfinal r hr hobserved, congrArg Prod.fst hlast⟩

end Journal

end ArtifactRelay
