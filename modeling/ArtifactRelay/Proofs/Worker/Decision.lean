import ArtifactRelay.Proofs.Fleet.Holding

/-!
# ArtifactRelay.Proofs.Worker.Decision

What becomes of a claimed item when nobody interferes.  The worker looks for the
artifact, asks whether its content is a duplicate, submits it if it is none, and
records the outcome.  `Worker.Settles` is the decision table: what the item is in the
end, by what was found, by the verdict on it and by the reply of the engine.

A `Ledger` is the store together with all that was asked, so that it also tells what
was submitted.  The two halves of the work are taken apart: `process_run` says what is
decided and what was asked and written for it, `recordOutcome_run` how an outcome is
written into the row that the worker holds.
-/

namespace ArtifactRelay

open Backlog Time Worker

variable {m : Medium}

/-! ## A worker by itself -/

/-- What surrounds a worker that nobody interferes with. -/
structure Surroundings where
  /-- The clock at each of its requests. -/
  clock : Nat → Instant
  folder : Option Artifact.Folder
  reply : Except Engine.Fault Engine.Acknowledgment
  /-- Why the backlog cannot be reached, if it cannot. -/
  outage : Option Error

/-- A store, and what was asked of everybody so far. -/
structure Ledger (m : Medium) where
  store : Store m
  asked : List Request

namespace Ledger

/-- What was submitted: the paths and the display names. -/
def submissions (t : Ledger m) : List (Artifact.Name × String) :=
  t.asked.filterMap fun
    | .submit path displayName => some (path, displayName)
    | _ => none

theorem submissions_submit (s : Store m) (asked : List Request) (path : Artifact.Name)
    (displayName : String) :
    (⟨s, asked ++ [.submit path displayName]⟩ : Ledger m).submissions =
      (⟨s, asked⟩ : Ledger m).submissions ++ [(path, displayName)] := by
  simp [submissions]

end Ledger

namespace Surroundings

/-- The world that a request finds. -/
def world (x : Surroundings) (n : Nat) : World := ⟨x.clock n, false, x.folder, x.reply, x.outage⟩

/-- What a request answers and leaves; it is added to what was asked. -/
def answer (x : Surroundings) (r : Request) (t : Ledger m) : r.Answer × Ledger m :=
  let (a, s) := (x.world t.asked.length).answer r t.store
  (a, ⟨s, t.asked ++ [r]⟩)

@[simp] theorem answer_now (x : Surroundings) (t : Ledger m) :
    x.answer .now t = (x.clock t.asked.length, ⟨t.store, t.asked ++ [.now]⟩) := rfl

@[simp] theorem answer_folder (x : Surroundings) (dir : String) (t : Ledger m) :
    x.answer (.folder dir) t = (x.folder, ⟨t.store, t.asked ++ [.folder dir]⟩) := rfl

@[simp] theorem answer_submit (x : Surroundings) (path : Artifact.Name) (displayName : String)
    (t : Ledger m) :
    x.answer (.submit path displayName) t =
      (x.reply, ⟨t.store, t.asked ++ [.submit path displayName]⟩) := rfl

/-- The same surroundings when the backlog can be reached. -/
def reachable (x : Surroundings) : Surroundings := { x with outage := none }

/-- What a worker finds for an item: the name of the artifact, its content, and the verdict of the
dedup check on it. -/
def finding (x : Surroundings) (w : Worker) (item : WorkItem) (claimed : Store m) :
    Option (Artifact.Name × Artifact.Content × Dedup.Verdict) :=
  (locate w.settings.scanRecent x.folder item).map fun (name, content) =>
    (name, content, ((checkContent w.settings.dedupWindow item.id content).run x.answer
      ⟨claimed, [.folder w.dir]⟩).1)

end Surroundings

/-! ## The decision table -/

namespace Worker

variable (w : Worker)

/-- What is submitted for an item. -/
def submits (item : WorkItem) :
    Option (Artifact.Name × Artifact.Content × Dedup.Verdict) → List (Artifact.Name × String)
  | none => []
  | some (_, _, .duplicate _) => []
  | some (name, _, _) => [(Artifact.pathIn w.dir name, item.displayName)]

/-- The decision on an item. -/
def decision (reply : Except Engine.Fault Engine.Acknowledgment) :
    Option (Artifact.Name × Artifact.Content × Dedup.Verdict) → Outcome
  | none => .dead ("artifact not found in " ++ w.dir) none
  | some (_, _, .duplicate hash) => .dead (w.duplicateReason hash) (some hash)
  | some (_, content, _) => outcomeOf content reply

/-- The rest of the work on an item that was found, once the verdict on its content is known. -/
def concluding (item : WorkItem) (name : Artifact.Name) (content : Artifact.Content) :
    Dedup.Verdict → Program Outcome
  | .duplicate hash => .done (.dead (w.duplicateReason hash) (some hash))
  | _ =>
    .ask (.submit (Artifact.pathIn w.dir name) item.displayName) fun answer =>
      .done (outcomeOf content answer)

/-- What a claimed item is in the end.  One that is not found or is a duplicate is dead, one that
the engine accepts is forwarded, under the first hash that was ever known for it, and one that
the engine does not accept waits for another attempt, unless that was the last one. -/
def Settles (reply : Except Engine.Fault Engine.Acknowledgment) (item : WorkItem) :
    Option (Artifact.Name × Artifact.Content × Dedup.Verdict) → WorkItem → Prop
  | none, ended =>
    ended.status = .dead ∧ ended.lastError = some ("artifact not found in " ++ w.dir) ∧
      ended.duplicateOf = none
  | some (_, content, .duplicate hash), ended =>
    content.hash? = some hash ∧ ended.status = .dead ∧
      ended.lastError = some (w.duplicateReason hash) ∧ ended.duplicateOf = some hash
  | some (_, content, _), ended =>
    match reply with
    | .ok ack =>
      ended.status = .forwarded ∧ ended.taskRef = ack.taskRef ∧
        ended.engineResponse = some ack.raw ∧ ended.lastError = none ∧
        ended.contentHash = (item.contentHash <|> content.hash?)
    | .error fault =>
      if w.settings.retry.isExhausted item.attempts then
        ended.status = .dead ∧ ended.duplicateOf = none ∧
          ended.lastError = some ("retry limit reached after " ++ toString item.attempts ++
            " attempts: " ++ fault.message)
      else
        ended.status = .pending ∧ ended.lastError = some fault.message

end Worker

/-! ## Deciding -/

namespace Surroundings

variable (x : Surroundings)

/-- The dedup check submits nothing.  It leaves the store, or the hash of the content is registered
and the verdict is what the registration tells. -/
theorem checkContent_cases (window : Dedup.Window) (id : Int) (content : Artifact.Content)
    (t : Ledger m) :
    let checked := (checkContent window id content).run x.answer t
    checked.2.submissions = t.submissions ∧
      (checked.1 = .unchecked ∧ checked.2.store = t.store ∨
        ∃ hash stamp known, content.hash? = some hash ∧
          m.stamp? (x.clock t.asked.length) = some stamp ∧
          checked.1 = .ofAnswer hash (.ok known) ∧
          checked.2.store = t.store.modify id (·.register hash stamp)) := by
  intro checked
  cases hhash : content.hash? with
  | none =>
    have hchecked : checked = (.unchecked, t) := by
      show (checkContent window id content).run x.answer t = _
      unfold checkContent
      rw [hhash]
      rfl
    rw [hchecked]
    exact ⟨rfl, .inl ⟨rfl, rfl⟩⟩
  | some hash =>
    let now := x.clock t.asked.length
    let registered := (x.world (t.asked ++ [Request.now]).length).reach t.store
      (t.store.registerHash id hash now (window.since now))
    have hchecked : checked = (.ofAnswer hash registered.1,
        ⟨registered.2, t.asked ++ [.now] ++ [.registerHash id hash now (window.since now)]⟩) := by
      show (checkContent window id content).run x.answer t = _
      unfold checkContent
      rw [hhash]
      rfl
    rw [hchecked]
    refine ⟨by simp [Ledger.submissions], ?_⟩
    rcases World.reach_cases (x.world (t.asked ++ [Request.now]).length) t.store
      (t.store.registerHash id hash now (window.since now)) with hreach | ⟨e, hreach⟩
    · rcases t.store.registerHash_cases id hash now (window.since now) with
        ⟨e, h⟩ | ⟨stamp, sinceStamp, -, hstamp, -, -, h⟩
      · left
        have hregistered : registered = (.error e, t.store) := hreach.trans h
        rw [hregistered]
        exact ⟨rfl, rfl⟩
      · right
        have hregistered : registered = _ := hreach.trans h
        rw [hregistered]
        exact ⟨hash, stamp, _, rfl, hstamp, rfl, rfl⟩
    · left
      have hregistered : registered = (.error e, t.store) := hreach
      rw [hregistered]
      exact ⟨rfl, rfl⟩

/-- What is decided on an item, and what was asked and written for it. -/
theorem process_run (w : Worker) (item : WorkItem) (s : Store m) :
    let decided := (w.process item).run x.answer ⟨s, []⟩
    decided.1 = w.decision x.reply (x.finding w item s) ∧
      decided.2.submissions = w.submits item (x.finding w item s) ∧
      (decided.2.store = s ∨
        ∃ name content verdict hash n stamp, x.finding w item s = some (name, content, verdict) ∧
          content.hash? = some hash ∧ m.stamp? (x.clock n) = some stamp ∧
          decided.2.store = s.modify item.id (·.register hash stamp)) := by
  intro decided
  cases hlocate : locate w.settings.scanRecent x.folder item with
  | none =>
    have hfinding : x.finding w item s = none := by
      unfold finding
      rw [hlocate]
      rfl
    have hdecided : decided =
        (.dead ("artifact not found in " ++ w.dir) none, ⟨s, [.folder w.dir]⟩) := by
      show (w.process item).run x.answer ⟨s, []⟩ = _
      unfold process
      simp only [Program.request_bind, Program.run, answer_folder, hlocate, Program.pure_eq]
      rfl
    rw [hdecided, hfinding]
    exact ⟨rfl, rfl, .inl rfl⟩
  | some found =>
    obtain ⟨name, content⟩ := found
    let checked := (checkContent w.settings.dedupWindow item.id content).run x.answer
      ⟨s, [.folder w.dir]⟩
    have hfinding : x.finding w item s = some (name, content, checked.1) := by
      unfold finding
      rw [hlocate]
      rfl
    obtain ⟨hsubmitted, hcases⟩ := x.checkContent_cases w.settings.dedupWindow item.id content
      (⟨s, [.folder w.dir]⟩ : Ledger m)
    have hstore : checked.2.store = s ∨ ∃ hash n stamp, content.hash? = some hash ∧
        m.stamp? (x.clock n) = some stamp ∧
        checked.2.store = s.modify item.id (·.register hash stamp) := by
      rcases hcases with ⟨-, hstore⟩ | ⟨hash, stamp, _, hhash, hstamp, -, hstore⟩
      · exact .inl hstore
      · exact .inr ⟨hash, _, stamp, hhash, hstamp, hstore⟩
    have hdecided : decided =
        (w.concluding item name content checked.1).run x.answer checked.2 := by
      show (w.process item).run x.answer ⟨s, []⟩ = _
      unfold process
      simp only [Program.request_bind, Program.run, answer_folder, hlocate, Program.pure_eq]
      exact Program.run_bind ..
    have hasked : checked.2.submissions = [] := hsubmitted
    have hwritten : ∀ t : Ledger m, t.store = checked.2.store → t.store = s ∨
        ∃ name content verdict hash n stamp, x.finding w item s = some (name, content, verdict) ∧
          content.hash? = some hash ∧ m.stamp? (x.clock n) = some stamp ∧
          t.store = s.modify item.id (·.register hash stamp) := by
      intro t ht
      rcases hstore with hsame | ⟨hash, n, stamp, hhash, hstamp, hregistered⟩
      · exact .inl (ht.trans hsame)
      · exact .inr ⟨name, content, _, hash, n, stamp, hfinding, hhash, hstamp,
          ht.trans hregistered⟩
    rw [hfinding] at hwritten ⊢
    cases hverdict : checked.1 with
    | duplicate hash =>
      rw [hverdict] at hdecided hwritten
      rw [hdecided]
      exact ⟨rfl, hasked, hwritten _ rfl⟩
    | unique =>
      rw [hverdict] at hdecided hwritten
      rw [hdecided]
      refine ⟨rfl, ?_, hwritten _ rfl⟩
      exact (Ledger.submissions_submit ..).trans (congrArg (· ++ _) hasked)
    | unchecked =>
      rw [hverdict] at hdecided hwritten
      rw [hdecided]
      refine ⟨rfl, ?_, hwritten _ rfl⟩
      exact (Ledger.submissions_submit ..).trans (congrArg (· ++ _) hasked)

/-! ## Recording -/

/-- The end of a backoff is kept where its start is. -/
theorem keeps_of_retryAfter (hm : m.IsBackend) {p : RetryPolicy} {attempts : Nat}
    {now u : Instant} (hnow : m.Keeps now) (h : p.retryAfter attempts now = .ok (some u)) :
    m.Keeps u := by
  unfold RetryPolicy.retryAfter at h
  split at h
  · cases h
  · split at h
    · rename_i t ht
      cases h
      obtain ⟨d, hd, hadd⟩ := Option.bind_eq_some_iff.mp ht
      unfold Delay.toSpan? at hd
      split at hd
      · cases hd
        exact hnow.add? hm (Int.natCast_nonneg _) hadd
      · cases hd
    · cases h

/-- How an outcome is recorded while the backlog can be reached: once, after the retry policy, and
nothing is submitted for it. -/
theorem recordOutcome_run (policy : RetryPolicy) (worker : String) (item : WorkItem)
    (outcome : Outcome) (t : Ledger m)
    (hbackoff : ∀ n, ∃ until?, policy.retryAfter item.attempts (x.clock n) = .ok until?) :
    ∃ n until?, (∀ u ∈ until?, ∃ k, policy.retryAfter item.attempts (x.clock k) = .ok (some u)) ∧
      let recorded := (recordOutcome policy worker item outcome).run x.reachable.answer t
      let resolved := policy.resolve item.attempts outcome
      let result := t.store.record item.id worker resolved until? (x.clock n)
      recorded.1 = result.1.map (fun updated => (resolved, updated)) ∧
        recorded.2.store = result.2 ∧ recorded.2.submissions = t.submissions := by
  have hfinal : (∀ reason, policy.resolve item.attempts outcome ≠ .retry reason) →
      (recordOutcome policy worker item outcome).run x.reachable.answer t =
        let resolved := policy.resolve item.attempts outcome
        let result := t.store.record item.id worker resolved none (x.clock t.asked.length)
        (result.1.map fun updated => (resolved, updated),
          ⟨result.2, t.asked ++ [.record item.id worker resolved none]⟩) := by
    intro hne
    unfold recordOutcome
    cases hresolved : policy.resolve item.attempts outcome with
    | retry reason => exact absurd hresolved (hne reason)
    | forwarded taskRef response hash => rfl
    | dead reason duplicateOf => rfl
  cases hresolved : policy.resolve item.attempts outcome with
  | retry reason =>
    obtain ⟨until?, huntil⟩ := hbackoff t.asked.length
    refine ⟨(t.asked ++ [Request.now]).length, until?, ?_, ?_⟩
    · rintro u ⟨⟩
      exact ⟨_, huntil⟩
    have hrecorded : (recordOutcome policy worker item outcome).run x.reachable.answer t =
        let result := t.store.record item.id worker (.retry reason) until?
          (x.clock (t.asked ++ [Request.now]).length)
        (result.1.map fun updated => (.retry reason, updated),
          ⟨result.2, t.asked ++ [.now] ++ [.record item.id worker (.retry reason) until?]⟩) := by
      unfold recordOutcome
      rw [hresolved]
      simp only [Program.request_bind, Program.pure_eq, Program.done_bind, Program.run, answer_now]
      rw [show x.reachable.clock = x.clock from rfl, huntil]
      rfl
    rw [hrecorded]
    exact ⟨rfl, rfl, by simp [Ledger.submissions]⟩
  | forwarded taskRef response hash =>
    rw [hfinal (by rw [hresolved]; nofun), hresolved]
    exact ⟨t.asked.length, none, by simp, rfl, rfl, by simp [Ledger.submissions]⟩
  | dead reason duplicateOf =>
    rw [hfinal (by rw [hresolved]; nofun), hresolved]
    exact ⟨t.asked.length, none, by simp, rfl, rfl, by simp [Ledger.submissions]⟩

end Surroundings

namespace Backlog.Store

/-- The holder of a row that reads back ends its claim, if the medium keeps the texts and the
instants. -/
theorem record_of_held {s : Store m} {id : Int} {r : Row m.Stamp} {worker : String} {o : Outcome}
    {retryAfter : Option Instant} {now : Instant} (hr : s.find? id = some r)
    (hheld : r.isHeldBy worker = true) (hlegible : r.IsLegible m)
    (hcount : (m.count? r.attempts).isSome = true) (hworker : m.keepsText worker = true)
    (htexts : ∀ text ∈ o.texts, m.keepsText text = true) (hnow : m.Keeps now)
    (hretry : ∀ u ∈ retryAfter, m.Keeps u) :
    ∃ stamp retryStamp ended,
      s.record id worker o retryAfter now =
        (.ok ended, s.modify id (·.conclude o retryStamp stamp)) ∧
      (r.conclude o retryStamp stamp).Reads m ended ∧
      (s.modify id (·.conclude o retryStamp stamp)).get id = .ok ended := by
  obtain ⟨stamp, hstamp, hread⟩ := hnow
  obtain ⟨retryStamp, hretryStamp, hretryRead⟩ : ∃ retryStamp,
      m.stampOption (if o.target = .pending then retryAfter else none) = .ok retryStamp ∧
        ∀ y ∈ retryStamp, (m.instant? y).isSome = true := by
    generalize hu : (if o.target = .pending then retryAfter else none) = u
    have hkeeps : ∀ t ∈ u, m.Keeps t := by
      intro t ht
      rw [← hu] at ht
      split at ht
      · exact hretry t ht
      · cases ht
    cases u with
    | none => exact ⟨none, rfl, nofun⟩
    | some t =>
      obtain ⟨y, hy, hyread⟩ := hkeeps t rfl
      refine ⟨some y, by simp [Medium.stampOption, Medium.stamp_eq_ok.mpr hy, Except.map], ?_⟩
      rintro z ⟨⟩
      exact hyread
  obtain ⟨count, hcount⟩ := Option.isSome_iff_exists.mp hcount
  obtain ⟨ended, hended⟩ := (hlegible.conclude o hretryRead hread).read_eq_ok (n := count)
    (by rw [Row.attempts_conclude]; exact hcount)
  refine ⟨stamp, retryStamp, ended, ?_, Row.reads_of_read hended, ?_⟩
  · rw [record_of_kept hworker htexts hstamp hretryStamp, hr]
    dsimp only
    rw [if_pos hheld, hended]
  · rw [get, find?_modify_self (fun _ => Row.id_conclude ..) hr]
    exact hended

/-- A worker that was handed an item holds its row, which reads back as the item. -/
theorem claimed_row {s : Store m} (hs : s.IsReachable) {worker : String} {start : Instant}
    {lease : Span} {item : WorkItem}
    (hclaim : (s.claimNext worker start lease).1 = .ok (some item)) :
    m.keepsText worker = true ∧ ∃ r, (s.claimNext worker start lease).2.find? item.id = some r ∧
      r.isHeldBy worker = true ∧ r.IsLegible m ∧ r.Reads m item := by
  obtain ⟨_, lastly, stamp, row, -, -, -, hworker, hrow, -, hread, hafter⟩ :=
    claimNext_some (isNumbered_of_isReachable hs) hclaim
  obtain ⟨n, hn⟩ := isCounted_of_isReachable hs _ _ hrow
  have hreads := Row.reads_of_read hread
  have hcount : ∃ n : Nat, (row.claim worker lastly stamp).attempts = .counted n :=
    ⟨n + 1, by rw [Row.attempts_claim, hn, Cell.next_counted]⟩
  refine ⟨hworker, row.claim worker lastly stamp, ?_, Row.isHeldBy_claim.mpr rfl,
    hreads.isLegible hcount, hreads⟩
  rw [hafter]
  exact find?_modify_self (fun _ => Row.id_claim ..) hrow

end Backlog.Store

/-! ## The whole work on an item -/

namespace Surroundings

variable (x : Surroundings)

/-- A duplicate is one of the content that was found. -/
theorem hash?_of_duplicate {w : Worker} {item : WorkItem} {s : Store m} {name : Artifact.Name}
    {content : Artifact.Content} {hash : String}
    (h : x.finding w item s = some (name, content, .duplicate hash)) :
    content.hash? = some hash := by
  obtain ⟨⟨name', content'⟩, -, hfound⟩ := Option.map_eq_some_iff.mp h
  simp only [Prod.mk.injEq] at hfound
  obtain ⟨rfl, rfl, hverdict⟩ := hfound
  rcases (x.checkContent_cases w.settings.dedupWindow item.id content'
    (⟨s, [.folder w.dir]⟩ : Ledger m)).2 with ⟨hunchecked, -⟩ | ⟨known, _, answer, hhash, -, h, -⟩
  · rw [hunchecked] at hverdict
    cases hverdict
  · rw [h] at hverdict
    cases answer with
    | true => cases hverdict; exact hhash
    | false => cases hverdict

/-- A row that is concluded by the decision on its item reads back as the table says. -/
theorem settles_of_reads {w : Worker} {item ended : WorkItem} {s : Store m} {r : Row m.Stamp}
    {stamp : m.Stamp} {retryStamp : Option m.Stamp}
    (hcontent : ∀ name content verdict, x.finding w item s = some (name, content, verdict) →
      (r.contentHash <|> content.hash?) = (item.contentHash <|> content.hash?))
    (hreads : (r.conclude (w.settings.retry.resolve item.attempts
      (w.decision x.reply (x.finding w item s))) retryStamp stamp).Reads m ended) :
    w.Settles x.reply item (x.finding w item s) ended := by
  cases hfinding : x.finding w item s with
  | none =>
    rw [hfinding] at hreads
    exact ⟨hreads.name_status rfl, hreads.lastError, hreads.duplicateOf⟩
  | some found =>
    obtain ⟨name, content, verdict⟩ := found
    rw [hfinding] at hreads
    -- what is not a duplicate goes to the engine, checked or not
    have hsent : w.decision x.reply (some (name, content, verdict)) = outcomeOf content x.reply →
        w.Settles x.reply item (some (name, content, .unique)) ended := by
      intro hdecision
      rw [hdecision] at hreads
      cases hreply : x.reply with
      | ok ack =>
        rw [hreply] at hreads
        have htask : m.number (ack.taskRef.elim .null .whole) = .ok ended.taskRef := hreads.taskRef
        have hnumber : ended.taskRef = ack.taskRef := by
          cases hack : ack.taskRef with
          | none => rw [hack] at htask; exact (Except.ok.inj htask).symm
          | some n => rw [hack] at htask; exact (Except.ok.inj htask).symm
        exact ⟨hreads.name_status rfl, hnumber, hreads.engineResponse, hreads.lastError,
          hreads.contentHash.trans (hcontent _ _ _ hfinding)⟩
      | error fault =>
        rw [hreply] at hreads
        simp only [Worker.Settles]
        by_cases hlast : w.settings.retry.isExhausted item.attempts = true
        · have hresolved : w.settings.retry.resolve item.attempts
              (outcomeOf content (.error fault)) = .dead ("retry limit reached after " ++
                toString item.attempts ++ " attempts: " ++ fault.message) none := if_pos hlast
          rw [hresolved] at hreads
          rw [if_pos hlast]
          exact ⟨hreads.name_status rfl, hreads.duplicateOf, hreads.lastError⟩
        · have hresolved : w.settings.retry.resolve item.attempts
              (outcomeOf content (.error fault)) = .retry fault.message := if_neg hlast
          rw [hresolved] at hreads
          rw [if_neg hlast]
          exact ⟨hreads.name_status rfl, hreads.lastError⟩
    cases verdict with
    | duplicate hash =>
      exact ⟨x.hash?_of_duplicate hfinding, hreads.name_status rfl, hreads.lastError,
        hreads.duplicateOf⟩
    | unique => exact hsent rfl
    | unchecked => exact hsent rfl

/-- What is written for a decision leaves the row held and legible, and every other row.  The hash
of the content that was found does not displace one that is there. -/
theorem held_of_written {found : Option (Artifact.Name × Artifact.Content × Dedup.Verdict)}
    {claimed s : Store m} {r : Row m.Stamp} {id : Int} {worker : String}
    (hclock : ∀ n, m.Keeps (x.clock n)) (hr : claimed.find? id = some r)
    (hheld : r.isHeldBy worker = true) (hlegible : r.IsLegible m)
    (hwritten : s = claimed ∨
      ∃ name content verdict hash n stamp, found = some (name, content, verdict) ∧
        content.hash? = some hash ∧ m.stamp? (x.clock n) = some stamp ∧
        s = claimed.modify id (·.register hash stamp)) :
    ∃ r₁, s.find? id = some r₁ ∧ r₁.isHeldBy worker = true ∧ r₁.IsLegible m ∧
      r₁.attempts = r.attempts ∧ (∀ i, i ≠ id → s.find? i = claimed.find? i) ∧
      ∀ name content verdict, found = some (name, content, verdict) →
        (r₁.contentHash <|> content.hash?) = (r.contentHash <|> content.hash?) := by
  rcases hwritten with rfl | ⟨name, content, verdict, hash, n, stamp, hfound, hhash, hstamp, rfl⟩
  · exact ⟨r, hr, hheld, hlegible, rfl, fun _ _ => rfl, fun _ _ _ _ => rfl⟩
  · refine ⟨r.register hash stamp, Store.find?_modify_self (fun _ => rfl) hr, hheld,
      hlegible.register ((hclock n).instant?_isSome hstamp), rfl,
      fun i hi => Store.find?_modify_ne (fun _ => rfl) hi, ?_⟩
    intro name' content' verdict' hfound'
    cases hfound.symm.trans hfound'
    rw [hhash, Row.contentHash_register]
    cases r.contentHash <;> rfl

/-- A claimed item that nobody interferes with.  The engine is called once if an artifact is found
and is no duplicate, and not at all otherwise.  Up to the record, nothing is written but the hash
of the content into the row of the item, where there is none, and the instant.  If the medium
keeps the instants of the clock and the texts of the outcome, the outcome is recorded, and the
item is what the decision table says. -/
theorem settles_claimed (hm : m.IsBackend) {s : Store m} (hs : s.IsReachable) (w : Worker)
    {start : Instant} {lease : Span} {item : WorkItem}
    (hclaim : (s.claimNext w.name start lease).1 = .ok (some item))
    (hbackoff : ∀ n, ∃ until?,
      w.settings.retry.retryAfter item.attempts (x.clock n) = .ok until?) :
    let claimed := (s.claimNext w.name start lease).2
    let found := x.finding w item claimed
    let decided := (w.process item).run x.answer ⟨claimed, []⟩
    let resolved := w.settings.retry.resolve item.attempts decided.1
    let recorded := (recordOutcome w.settings.retry w.name item decided.1).run
      x.reachable.answer decided.2
    recorded.2.submissions = w.submits item found ∧
    (decided.2.store = claimed ∨
      ∃ name content verdict hash n stamp, found = some (name, content, verdict) ∧
        content.hash? = some hash ∧ m.stamp? (x.clock n) = some stamp ∧
        decided.2.store = claimed.modify item.id (·.register hash stamp)) ∧
    ((∀ n, m.Keeps (x.clock n)) → (∀ text ∈ resolved.texts, m.keepsText text = true) →
      ∃ ended, recorded.1 = .ok (resolved, ended) ∧
        recorded.2.store.get item.id = .ok ended ∧
        (∀ id, id ≠ item.id → recorded.2.store.find? id = claimed.find? id) ∧
        w.Settles x.reply item found ended) := by
  intro claimed found decided resolved recorded
  obtain ⟨hworker, r, hr, hheld, hlegible, hreads⟩ := Store.claimed_row hs hclaim
  obtain ⟨hdecision, hsubmitted, hwritten⟩ := x.process_run w item claimed
  obtain ⟨n, until?, huntil, hanswer, hstore, hasked⟩ :=
    x.recordOutcome_run w.settings.retry w.name item decided.1 decided.2 hbackoff
  refine ⟨hasked.trans hsubmitted, hwritten, fun hclock htexts => ?_⟩
  obtain ⟨r₁, hr₁, hheld₁, hlegible₁, hattempts₁, hothers, hcontent⟩ :=
    x.held_of_written hclock hr hheld hlegible hwritten
  have hkeeps : ∀ u ∈ until?, m.Keeps u := fun u hu => by
    obtain ⟨k, hk⟩ := huntil u hu
    exact keeps_of_retryAfter hm (hclock k) hk
  have hcount : (m.count? r₁.attempts).isSome = true := by
    rw [hattempts₁, hreads.attempts]
    rfl
  obtain ⟨stamp, retryStamp, ended, hrecord, hended, hget⟩ :=
    Store.record_of_held hr₁ hheld₁ hlegible₁ hcount hworker htexts (hclock n) hkeeps
  have hfinal : recorded.2.store = decided.2.store.modify item.id
      (·.conclude resolved retryStamp stamp) := hstore.trans (congrArg Prod.snd hrecord)
  refine ⟨ended, ?_, by rw [hfinal]; exact hget, fun id hid => ?_, ?_⟩
  · rw [hanswer]
    show (decided.2.store.record item.id w.name resolved until? (x.clock n)).1.map _ = _
    rw [hrecord]
    rfl
  · rw [hfinal, Store.find?_modify_ne (fun _ => Row.id_conclude ..) hid]
    exact hothers id hid
  · have hresolved : resolved = w.settings.retry.resolve item.attempts
        (w.decision x.reply found) :=
      congrArg (w.settings.retry.resolve item.attempts) hdecision
    rw [hresolved] at hended
    refine x.settles_of_reads (fun name content verdict hfound => ?_) hended
    rw [hreads.contentHash]
    exact hcontent name content verdict hfound

/-! ### Runs on fixed inputs -/

/-- The clock stands still, and the artifact `x` is there, though it cannot be read. -/
def still (now : Instant) (reply : Except Engine.Fault Engine.Acknowledgment) : Surroundings where
  clock := fun _ => now
  folder := some [⟨[120], .folder⟩]
  reply := reply
  outage := none

/-- The engine accepts what is submitted, and names a task. -/
def accepting : Surroundings := still (Store.clock 1) (.ok ⟨some 7, "{}"⟩)

/-- The engine does not answer. -/
def refusing : Surroundings := still (Store.clock 1) (.error .timeout)

/-- The item `x` as the worker `a` is handed it for ten minutes. -/
def handed : WorkItem where
  id := 1
  eventType := artifactObserved
  sourceIp := "10.0.0.1"
  filenameHint := none
  storedNameHint := some "x"
  loggedHash := some "c0ffee"
  status := .claimed
  leaseUntil := some (Store.clock 600)
  claimedBy := some "a"
  attempts := 1
  retryAfter := none
  contentHash := none
  taskRef := none
  engineResponse := none
  duplicateOf := none
  lastError := none
  createdAt := Store.clock 0
  updatedAt := Store.clock 0

/-- A store with the item `x`. -/
def sighted (m : Medium) : Store m :=
  (Store.empty m).afterAll [.enqueue Fleet.sighting (Store.clock 0)]

/-- The store after the worker `a` was handed the item. -/
def taken (m : Medium) : Store m :=
  ((sighted m).claimNext "a" (Store.clock 0) (.ofMinutes 10)).2

/-- The worker `a`, which makes so many attempts. -/
def trying (attempts : Nat) : Worker :=
  Fleet.pair { WorkerSettings.standard with retry := ⟨some attempts, .zero, .zero⟩ } false

/-- What the worker `a` decides on the item. -/
def decided (x : Surroundings) (m : Medium) (attempts : Nat) : Outcome × Ledger m :=
  ((trying attempts).process handed).run x.answer ⟨taken m, []⟩

/-- What it records. -/
def recorded (x : Surroundings) (m : Medium) (attempts : Nat) :
    Except Error (Outcome × WorkItem) × Ledger m :=
  (recordOutcome (trying attempts).settings.retry "a" handed (x.decided m attempts).1).run
    x.reachable.answer (x.decided m attempts).2

/-- The engine accepts the artifact and names a task. -/
theorem settles_claimed_accepted :
    (accepting.recorded .server 10).2.submissions =
        [(Artifact.pathIn "uploads" [120], "upload.bin")] ∧
      ∃ ended, (accepting.recorded .server 10).2.store.get 1 = .ok ended ∧
        ended.status = .forwarded ∧ ended.taskRef = some 7 ∧
        ended.contentHash = some "c0ffee" := by
  have hs : (sighted .server).IsReachable := ⟨_, rfl⟩
  have hclaim : ((sighted .server).claimNext (trying 10).name (Store.clock 0) (.ofMinutes 10)).1 =
      .ok (some handed) := by rfl
  have hnow : (Store.clock 1).IsFourDigit := by decide
  have hclock : ∀ n, Medium.server.Keeps (accepting.clock n) := fun _ =>
    Medium.keeps_of_isFourDigit (.inr rfl) hnow
  have hbackoff : ∀ n, ∃ until?,
      (trying 10).settings.retry.retryAfter handed.attempts (accepting.clock n) = .ok until? :=
    fun _ => ⟨none, rfl⟩
  have hfound : accepting.finding (trying 10) handed
      ((sighted .server).claimNext (trying 10).name (Store.clock 0) (.ofMinutes 10)).2 =
        some ([120], .logged "c0ffee", .unique) := by rfl
  have htexts : ∀ text ∈ ((trying 10).settings.retry.resolve handed.attempts
      (accepting.decided .server 10).1).texts, Medium.server.keepsText text = true := by decide
  obtain ⟨hsubmitted, -, hended⟩ :=
    accepting.settles_claimed (.inr rfl) hs (trying 10) hclaim hbackoff
  obtain ⟨ended, -, hget, -, hsettles⟩ := hended hclock htexts
  rw [hfound] at hsubmitted hsettles
  obtain ⟨hstatus, htask, -, -, hhash⟩ := hsettles
  exact ⟨hsubmitted, ended, hget, hstatus, htask, hhash⟩

/-- An instant before the calendar of a server. -/
def ancient : Instant := Store.clock (-300000000000)

/-- Three ways out of the decision table when the reservations of `settles_claimed` are dropped.
At the last attempt, an item that the engine does not accept is dead.  A server refuses a reply
with a zero character, and instants before its calendar, and the item stays claimed. -/
theorem settles_not_always :
    (refusing.recorded .embedded 1).2.store.get 1 = .ok { handed with
      status := .dead
      leaseUntil := none
      claimedBy := none
      contentHash := some "c0ffee"
      lastError := some
        "retry limit reached after 1 attempts: engine did not answer within the timeout"
      updatedAt := Store.clock 1 } ∧
    ((still (Store.clock 1) (.ok ⟨none, "\x00"⟩)).recorded .server 10).1 = .error .database ∧
    ((still (Store.clock 1) (.ok ⟨none, "\x00"⟩)).recorded .server 10).2.store.get 1 =
      .ok { handed with contentHash := some "c0ffee", updatedAt := Store.clock 1 } ∧
    ((still ancient (.ok ⟨none, "{}"⟩)).recorded .server 10).1 = .error .database ∧
    ((still ancient (.ok ⟨none, "{}"⟩)).recorded .server 10).2.store.get 1 = .ok handed := by
  exact ⟨by rfl, by rfl, by rfl, by rfl, by rfl⟩

end Surroundings

end ArtifactRelay
