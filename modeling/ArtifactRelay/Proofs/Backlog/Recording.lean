import ArtifactRelay.Proofs.Backlog.Preservation

/-!
# ArtifactRelay.Proofs.Backlog.Recording

What a record answers, and what it leaves.  Ownership of the item decides alone: the
holder's outcome is written and the item is answered as it is then, whether or not its
lease still runs, and everybody else is told why nothing is written
(`record_exact`).  The answers exclude each other and leave no case out.

The item that the holder gets is stated on items, not on rows (`WorkItem.concluded`).
Rows and items agree because a row reads back as one item and as no other
(`Row.read_eq_ok_iff`).
-/

namespace ArtifactRelay

open Text Time

namespace WorkItem

/-- The worker holds the item, under a lease that may have ended. -/
def IsHeldBy (item : WorkItem) (worker : String) : Prop :=
  item.status = .claimed ∧ item.claimedBy = some worker

/-- The item after its claim ended with an outcome. -/
def concluded (item : WorkItem) (o : Outcome) (retryAfter : Option Instant) (now : Instant) :
    WorkItem :=
  match o with
  | .forwarded taskRef response contentHash =>
    { item with
      status := .forwarded
      leaseUntil := none
      claimedBy := none
      retryAfter := none
      contentHash := item.contentHash <|> contentHash
      taskRef := taskRef
      engineResponse := some response
      lastError := none
      updatedAt := now }
  | .dead reason duplicateOf =>
    { item with
      status := .dead
      leaseUntil := none
      claimedBy := none
      retryAfter := none
      duplicateOf := duplicateOf
      lastError := some reason
      updatedAt := now }
  | .retry reason =>
    { item with
      status := .pending
      leaseUntil := none
      claimedBy := none
      retryAfter := retryAfter
      lastError := some reason
      updatedAt := now }

end WorkItem

namespace Backlog

variable {m : Medium}

/-! ## Rows and their items -/

namespace Row

variable {r : Row m.Stamp} {item : WorkItem}

theorem read_eq_ok_iff : r.read m = .ok item ↔ r.Reads m item := by
  refine ⟨reads_of_read, fun h => ?_⟩
  unfold read
  rw [h.status, h.attempts, h.leaseUntil, h.retryAfter, h.createdAt, h.updatedAt, h.taskRef,
    ← h.id, ← h.eventType, ← h.sourceIp, ← h.filenameHint, ← h.storedNameHint, ← h.loggedHash,
    ← h.claimedBy, ← h.contentHash, ← h.engineResponse, ← h.duplicateOf, ← h.lastError]
  rfl

theorem Reads.isHeldBy_iff (h : r.Reads m item) {worker : String} :
    item.IsHeldBy worker ↔ r.isHeldBy worker = true := by
  unfold WorkItem.IsHeldBy
  rw [h.status_eq_iff, h.claimedBy, isIn_iff, Row.isHeldBy_iff]

/-- What a row reads back as is concluded as the row is. -/
theorem Reads.conclude (h : r.Reads m item) {o : Outcome} {retryStamp : Option m.Stamp}
    {stamp : m.Stamp} {retryAfter : Option Instant} {now : Instant}
    (hretry : o.target = .pending → m.instantOption retryStamp = .ok retryAfter)
    (hnow : m.instant stamp = .ok now) :
    (r.conclude o retryStamp stamp).Reads m (item.concluded o retryAfter now) := by
  cases o with
  | forwarded taskRef response contentHash =>
    exact { h with
      status := rfl
      leaseUntil := rfl
      claimedBy := rfl
      retryAfter := rfl
      contentHash := congrArg (· <|> contentHash) h.contentHash
      taskRef := by cases taskRef <;> rfl
      engineResponse := rfl
      lastError := rfl
      updatedAt := hnow }
  | dead reason duplicateOf =>
    exact { h with
      status := rfl
      leaseUntil := rfl
      claimedBy := rfl
      retryAfter := rfl
      duplicateOf := rfl
      lastError := rfl
      updatedAt := hnow }
  | retry reason =>
    exact { h with
      status := rfl
      leaseUntil := rfl
      claimedBy := rfl
      retryAfter := hretry rfl
      lastError := rfl
      updatedAt := hnow }

end Row

namespace Medium

/-- What is kept of an instant is what is read back of it. -/
theorem Keeps.exists_kept {t : Instant} (h : m.Keeps t) :
    ∃ x u, m.stamp? t = some x ∧ m.instant x = .ok u ∧ m.kept? t = some u := by
  obtain ⟨x, hx, hread⟩ := h
  obtain ⟨u, hu⟩ := Option.isSome_iff_exists.mp hread
  exact ⟨x, u, hx, by simp [instant, hu], kept?_eq_some_iff.mpr ⟨x, hx, hu⟩⟩

theorem exists_kept_option {t : Option Instant} (h : ∀ u ∈ t, m.Keeps u) :
    ∃ x, m.stampOption t = .ok x ∧ m.instantOption x = .ok (t.bind m.kept?) := by
  cases t with
  | none => exact ⟨none, rfl, rfl⟩
  | some u =>
    obtain ⟨x, v, hx, hread, hkept⟩ := (h u rfl).exists_kept
    refine ⟨some x, ?_, ?_⟩
    · simp [stampOption, stamp_eq_ok.mpr hx, Except.map]
    · simp [instantOption, hread, Except.map, hkept]

end Medium

namespace Store

/-- What a record by `worker` is to answer and to leave, if `now` and the end of the backoff are
kept as `time` and `retryAfter`. -/
structure RecordsByOwner (s : Store m) (id : Int) (worker : String) (o : Outcome)
    (retryAfter : Option Instant) (time : Instant) (result : Except Error WorkItem × Store m) :
    Prop where
  /-- The holder of the item succeeds, and nobody else. -/
  accepted : (∃ ended, result.1 = .ok ended) ↔
    ∃ item, s.get id = .ok item ∧ item.IsHeldBy worker
  /-- The item is answered and kept as the outcome ends it. -/
  written : ∀ item, s.get id = .ok item → item.IsHeldBy worker →
    result.1 = .ok (item.concluded o retryAfter time) ∧ result.2.get id = result.1
  /-- No other item is changed, and no result. -/
  beside : result.2.AgreesBut s id
  /-- Nothing is changed by a failure. -/
  failed : ∀ e, result.1 = .error e → result.2 = s
  missing : result.1 = .error (.noItem id) ↔ s.find? id = none
  final : ∀ source target, result.1 = .error (.invalidTransition source target) ↔
    target = o.target ∧ source.isTerminal = true ∧
      ∃ item, s.get id = .ok item ∧ item.status = source
  lost : ∀ key name, result.1 = .error (.leaseLost key name) ↔
    key = id ∧ name = worker ∧ ∃ item, s.get id = .ok item ∧ item.status.isTerminal = false ∧
      ¬ item.IsHeldBy worker
  /-- These are all answers. -/
  complete : s.find? id = none ∨ ∃ item, s.get id = .ok item

/-- A record of what is kept finds no item, is written by the holder, or is rejected. -/
theorem record_cases_of_kept {s : Store m} {id : Int} {worker : String} {o : Outcome}
    {retryAfter : Option Instant} {now : Instant}
    (hreads : ∀ r, s.find? id = some r → ∃ item, r.Reads m item)
    (htexts : ∀ text ∈ worker :: o.texts, m.keepsText text = true) (hnow : m.Keeps now)
    (hretry : o.target = .pending → ∀ t ∈ retryAfter, m.Keeps t) :
    ∃ time, m.kept? now = some time ∧
      ((s.find? id = none ∧
          s.record id worker o retryAfter now = (.error (.noItem id), s)) ∨
        ∃ item, s.get id = .ok item ∧ item.id = id ∧
          ((item.IsHeldBy worker ∧ ∃ s₁ : Store m, s₁.AgreesBut s id ∧
              s₁.get id = .ok (item.concluded o (retryAfter.bind m.kept?) time) ∧
              s.record id worker o retryAfter now =
                (.ok (item.concluded o (retryAfter.bind m.kept?) time), s₁)) ∨
            (¬ item.IsHeldBy worker ∧
              s.record id worker o retryAfter now =
                (.error (rejectedWrite item worker o.target), s)))) := by
  obtain ⟨stamp, time, hstamp, hread, hkept⟩ := hnow.exists_kept
  obtain ⟨retryStamp, hretryStamp, hretryRead⟩ :
      ∃ x, m.stampOption (if o.target = .pending then retryAfter else none) = .ok x ∧
        (o.target = .pending → m.instantOption x = .ok (retryAfter.bind m.kept?)) := by
    by_cases hpending : o.target = .pending
    · obtain ⟨x, hx, hxread⟩ := Medium.exists_kept_option (hretry hpending)
      exact ⟨x, by rw [if_pos hpending, hx], fun _ => hxread⟩
    · exact ⟨none, by rw [if_neg hpending]; rfl, fun h => absurd h hpending⟩
  have hrecord : s.record id worker o retryAfter now = _ :=
    record_of_kept (htexts worker List.mem_cons_self)
      (fun text ht => htexts text (List.mem_cons_of_mem _ ht)) hstamp hretryStamp
  refine ⟨time, hkept, ?_⟩
  cases hrow : s.find? id with
  | none =>
    rw [hrow] at hrecord
    exact .inl ⟨rfl, hrecord⟩
  | some row =>
    obtain ⟨item, hitem⟩ := hreads row hrow
    have hget : s.get id = .ok item := by
      rw [get, hrow]
      exact Row.read_eq_ok_iff.mpr hitem
    rw [hrow] at hrecord
    refine .inr ⟨item, hget, hitem.id.trans (id_of_find? hrow), ?_⟩
    by_cases hheld : item.IsHeldBy worker
    · have hconcluded := Row.read_eq_ok_iff.mpr (hitem.conclude hretryRead hread)
      refine .inl ⟨hheld, s.modify id (·.conclude o retryStamp stamp),
        agreesBut_modify s id fun _ => Row.id_conclude .., ?_, ?_⟩
      · rw [get, find?_modify_self (fun _ => Row.id_conclude ..) hrow]
        exact hconcluded
      · rw [hrecord]
        dsimp only
        rw [if_pos (hitem.isHeldBy_iff.mp hheld), hconcluded]
    · refine .inr ⟨hheld, ?_⟩
      rw [hrecord]
      dsimp only
      rw [if_neg fun h => hheld (hitem.isHeldBy_iff.mpr h), Row.read_eq_ok_iff.mpr hitem]

section

variable {s : Store m} {id : Int} {worker : String} {o : Outcome} {retryAfter : Option Instant}
  {time : Instant}

theorem recordsByOwner_of_missing (h : s.find? id = none) :
    s.RecordsByOwner id worker o retryAfter time (.error (.noItem id), s) := by
  have hget : ∀ item, s.get id ≠ .ok item := by
    intro item hitem
    rw [get, h] at hitem
    cases hitem
  refine ⟨⟨?_, ?_⟩, fun item hitem => absurd hitem (hget item), agreesBut_refl s id,
    fun _ _ => rfl, ⟨fun _ => h, fun _ => rfl⟩, fun source target => ⟨?_, ?_⟩,
    fun key name => ⟨?_, ?_⟩, .inl h⟩
  · rintro ⟨_, hok⟩
    cases hok
  · rintro ⟨item, hitem, -⟩
    exact absurd hitem (hget item)
  · intro hfinal
    cases hfinal
  · rintro ⟨-, -, item, hitem, -⟩
    exact absurd hitem (hget item)
  · intro hlost
    cases hlost
  · rintro ⟨-, -, item, hitem, -⟩
    exact absurd hitem (hget item)

theorem find?_ne_none_of_get {item : WorkItem} (h : s.get id = .ok item) : s.find? id ≠ none := by
  obtain ⟨r, hr, -⟩ := exists_reads_of_get h
  rw [hr]
  exact nofun

theorem recordsByOwner_of_held {item : WorkItem} (hget : s.get id = .ok item)
    (hheld : item.IsHeldBy worker) {s₁ : Store m} (hbeside : s₁.AgreesBut s id)
    (hs₁ : s₁.get id = .ok (item.concluded o retryAfter time)) :
    s.RecordsByOwner id worker o retryAfter time
      (.ok (item.concluded o retryAfter time), s₁) := by
  have hitem : ∀ i, s.get id = .ok i → i = item :=
    fun i hi => Except.ok.inj (hi.symm.trans hget)
  exact {
    accepted := ⟨fun _ => ⟨item, hget, hheld⟩, fun _ => ⟨_, rfl⟩⟩
    written := fun i hi _ => by
      rw [hitem i hi]
      exact ⟨rfl, hs₁⟩
    beside := hbeside
    failed := nofun
    missing := ⟨nofun, fun hnone => absurd hnone (find?_ne_none_of_get hget)⟩
    final := fun source target => by
      refine ⟨nofun, ?_⟩
      rintro ⟨-, hterminal, i, hi, rfl⟩
      rw [hitem i hi, hheld.1] at hterminal
      cases hterminal
    lost := fun key name => by
      refine ⟨nofun, ?_⟩
      rintro ⟨-, -, i, hi, -, hnot⟩
      exact absurd hheld (hitem i hi ▸ hnot)
    complete := .inr ⟨item, hget⟩ }

/-- A write is rejected because the item is finished, or else because the claim is lost. -/
theorem rejectedWrite_cases (item : WorkItem) (worker : String) (target : Status) :
    (item.status.isTerminal = true ∧
        rejectedWrite item worker target = .invalidTransition item.status target) ∨
      (item.status.isTerminal = false ∧
        rejectedWrite item worker target = .leaseLost item.id worker) := by
  unfold rejectedWrite
  cases item.status.isTerminal
  · exact .inr ⟨rfl, rfl⟩
  · exact .inl ⟨rfl, rfl⟩

theorem recordsByOwner_of_not_held {item : WorkItem} (hget : s.get id = .ok item)
    (hid : item.id = id) (hnot : ¬ item.IsHeldBy worker) :
    s.RecordsByOwner id worker o retryAfter time
      (.error (rejectedWrite item worker o.target), s) := by
  have hitem : ∀ i, s.get id = .ok i → i = item :=
    fun i hi => Except.ok.inj (hi.symm.trans hget)
  have hcases := rejectedWrite_cases item worker o.target
  generalize rejectedWrite item worker o.target = e at hcases ⊢
  exact {
    accepted := by
      refine ⟨fun ⟨_, hok⟩ => (nomatch hok), ?_⟩
      rintro ⟨i, hi, hheld⟩
      exact absurd (hitem i hi ▸ hheld) hnot
    written := fun i hi hheld => absurd (hitem i hi ▸ hheld) hnot
    beside := agreesBut_refl s id
    failed := fun _ _ => rfl
    missing := by
      refine ⟨fun he => ?_, fun hnone => absurd hnone (find?_ne_none_of_get hget)⟩
      cases he
      rcases hcases with ⟨-, he⟩ | ⟨-, he⟩ <;> cases he
    final := fun source target => by
      constructor
      · intro he
        cases he
        rcases hcases with ⟨hterminal, he⟩ | ⟨-, he⟩
        · cases he
          exact ⟨rfl, hterminal, item, hget, rfl⟩
        · cases he
      · rintro ⟨rfl, hterminal, i, hi, rfl⟩
        obtain rfl := hitem i hi
        rcases hcases with ⟨-, rfl⟩ | ⟨hopen, -⟩
        · rfl
        · cases hterminal.symm.trans hopen
    lost := fun key name => by
      constructor
      · intro he
        cases he
        rcases hcases with ⟨-, he⟩ | ⟨hopen, he⟩
        · cases he
        · cases he
          exact ⟨hid, rfl, item, hget, hopen, hnot⟩
      · rintro ⟨rfl, rfl, i, hi, hopen, -⟩
        obtain rfl := hitem i hi
        rcases hcases with ⟨hterminal, -⟩ | ⟨-, rfl⟩
        · cases hterminal.symm.trans hopen
        · rw [hid]
    complete := .inr ⟨item, hget⟩ }

end

/-- **A record is decided by ownership.**  In every reachable backlog, and for every item that reads
back if there is one, and every worker and outcome that the medium can keep. -/
theorem record_exact (hm : m.IsBackend) {s : Store m} (hs : s.IsReachable) {id : Int}
    (hcount : ¬ s.IsOvercounted id) (htold : ¬ s.IsUntold id) {worker : String} {o : Outcome}
    {retryAfter : Option Instant} {now : Instant}
    (htexts : ∀ text ∈ worker :: o.texts, m.keepsText text = true) (hnow : m.Keeps now)
    (hretry : o.target = .pending → ∀ t ∈ retryAfter, m.Keeps t) :
    ∃ time, m.kept? now = some time ∧
      s.RecordsByOwner id worker o (retryAfter.bind m.kept?) time
        (s.record id worker o retryAfter now) := by
  have hreads : ∀ r, s.find? id = some r → ∃ item, r.Reads m item := by
    intro r hr
    rcases read_cases hm hs hr with ⟨item, hitem⟩ | ⟨-, hover⟩ | ⟨-, huntold⟩
    · exact ⟨item, Row.reads_of_read hitem⟩
    · exact absurd hover hcount
    · exact absurd huntold htold
  obtain ⟨time, hkept, hcases⟩ := record_cases_of_kept hreads htexts hnow hretry
  refine ⟨time, hkept, ?_⟩
  rcases hcases with ⟨hnone, h⟩ | ⟨item, hget, hid, ⟨hheld, s₁, hbeside, hs₁, h⟩ | ⟨hnot, h⟩⟩
  · rw [h]
    exact recordsByOwner_of_missing hnone
  · rw [h]
    exact recordsByOwner_of_held hget hheld hbeside hs₁
  · rw [h]
    exact recordsByOwner_of_not_held hget hid hnot

/-- A worker whose lease is over, and whose item nobody took, gives it back until an instant that is
kept to the microsecond. -/
theorem record_exact_expired :
    let later : Instant := ⟨1700000120, 1500, by decide, by decide, by decide, by decide⟩
    let s := (empty .server).afterAll [.enqueue seen (clock 0),
      .claim "a" (clock 0) (.ofSeconds 60)]
    let result := s.record 1 "a" (.retry "refused") (some later) (clock 61)
    s.RecordsByOwner 1 "a" (.retry "refused") (some later.cut) (clock 61) result ∧
      ∃ ended, result.1 = .ok ended ∧ ended.status = .pending ∧
        ended.retryAfter = some later.cut := by
  intro later s result
  have hitem : ∃ item, s.get 1 = .ok item ∧ item.IsHeldBy "a" := ⟨_, rfl, rfl, rfl⟩
  obtain ⟨item, hget, hheld⟩ := hitem
  have hcut : (some later).bind Medium.server.kept? = some later.cut := by decide +kernel
  have hclock : Medium.server.kept? (clock 61) = some (clock 61) := by rfl
  have htexts : ∀ text ∈ "a" :: (Outcome.retry "refused").texts,
      Medium.server.keepsText text = true := by decide
  have hretry : ∀ t ∈ some later, Medium.server.Keeps t := by
    rintro _ ⟨⟩
    exact Medium.keeps_of_isFourDigit (.inr rfl) (by decide)
  have hexact : ∃ time, Medium.server.kept? (clock 61) = some time ∧
      s.RecordsByOwner 1 "a" (.retry "refused") ((some later).bind Medium.server.kept?) time
        result :=
    record_exact (.inr rfl) ⟨_, rfl⟩ (fun hover => Medium.embedded_ne_server hover.1.symm)
      (fun huntold => huntold.get_ne_ok item hget) htexts
      (Medium.keeps_of_isFourDigit (.inr rfl) (by decide)) fun _ => hretry
  obtain ⟨time, htime, hrecords⟩ := hexact
  rw [hcut] at hrecords
  obtain rfl := Option.some.inj (hclock.symm.trans htime)
  exact ⟨hrecords, _, (hrecords.written item hget hheld).1, rfl, rfl⟩

/-- Two ways out of `record_exact` when its reservations are dropped.  In a file, an item that was
claimed 2^32 times does not read back, so neither its holder nor another worker is answered by
ownership.  On a server a text with a zero character is refused, whoever holds the item, and
whether or not there is one. -/
theorem record_not_always :
    (∃ calls : List Call, (∀ c ∈ calls, c.IsFourDigit) ∧
      let s := (empty .embedded).afterAll calls
      (∃ r, s.find? 1 = some r ∧ r.isHeldBy "a" = true) ∧
        (s.record 1 "a" (.retry "refused") none (clock 0)).1 = .error .storage ∧
        (s.record 1 "b" (.retry "refused") none (clock 0)).1 = .error .storage) ∧
    let s := (empty .server).afterAll [.enqueue seen (clock 0),
      .claim "a" (clock 0) (.ofSeconds 60)]
    (∃ r, s.find? 1 = some r ∧ r.isHeldBy "a" = true) ∧
      (s.record 1 "a" (.retry "\x00") none (clock 0)).1 = .error .database ∧
      s.find? 2 = none ∧
      (s.record 2 "a" (.retry "\x00") none (clock 0)).1 = .error .database := by
  refine ⟨⟨.enqueue seen (clock 0) :: .claim "a" (clock 0) (.ofSeconds (-1)) ::
      List.replicate 4294967295 (.claim "a" (clock 0) (.ofSeconds (-1))), ?_, ?_⟩, ?_⟩
  · intro c hc
    rcases List.mem_cons.mp hc with rfl | hc
    · decide
    · rcases List.mem_cons.mp hc with rfl | hc
      · decide
      · rw [List.eq_of_mem_replicate hc]
        decide
  · rw [afterAll_claims]
    exact ⟨⟨_, rfl, rfl⟩, by rfl, by rfl⟩
  · exact ⟨⟨_, rfl, rfl⟩, by rfl, by rfl, by rfl⟩

end Store

end Backlog

end ArtifactRelay
