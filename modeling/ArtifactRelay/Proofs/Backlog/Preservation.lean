import ArtifactRelay.Proofs.Backlog.Consistency

/-!
# ArtifactRelay.Proofs.Backlog.Preservation

What no run alters.  An item that is there stays there, under its number and with all
that it was observed as; a content hash stays once it is set, whoever sets it; and the
count of claims goes up by one with each claim that takes the item, and with nothing
else (`Row.Continues`).  Each change of a row continues it, so a call does, and a run
does by `Row.Continues.trans`.

Beside the row that it changes a call leaves the backlog as it was.  A claim, a
registration and a record change one row at most, and never the results
(`AgreesBut`).
-/

namespace ArtifactRelay

open Text Time

/-- The item is the one that was there before, so many claims later. -/
structure WorkItem.Continues (item before : WorkItem) (claims : Nat) : Prop where
  id : item.id = before.id
  eventType : item.eventType = before.eventType
  sourceIp : item.sourceIp = before.sourceIp
  filenameHint : item.filenameHint = before.filenameHint
  storedNameHint : item.storedNameHint = before.storedNameHint
  loggedHash : item.loggedHash = before.loggedHash
  createdAt : item.createdAt = before.createdAt
  contentHash : ∀ hash, before.contentHash = some hash → item.contentHash = some hash
  attempts : item.attempts = before.attempts + claims

namespace Backlog

/-! ## Rows -/

namespace Row

/-- The row is the one that was there before, so many claims later. -/
structure Continues {σ : Type} (r before : Row σ) (claims : Nat) : Prop where
  id : r.id = before.id
  eventType : r.eventType = before.eventType
  sourceIp : r.sourceIp = before.sourceIp
  filenameHint : r.filenameHint = before.filenameHint
  storedNameHint : r.storedNameHint = before.storedNameHint
  loggedHash : r.loggedHash = before.loggedHash
  createdAt : r.createdAt = before.createdAt
  contentHash : ∀ hash, before.contentHash = some hash → r.contentHash = some hash
  attempts : ∀ n, before.attempts = .counted n → r.attempts = .counted (n + claims)

section

variable {σ : Type}

theorem continues_refl (r : Row σ) : r.Continues r 0 := by
  constructor <;> simp

theorem Continues.trans {p q r : Row σ} {j k : Nat} (hqr : q.Continues r j)
    (hpq : p.Continues q k) : p.Continues r (j + k) where
  id := hpq.id.trans hqr.id
  eventType := hpq.eventType.trans hqr.eventType
  sourceIp := hpq.sourceIp.trans hqr.sourceIp
  filenameHint := hpq.filenameHint.trans hqr.filenameHint
  storedNameHint := hpq.storedNameHint.trans hqr.storedNameHint
  loggedHash := hpq.loggedHash.trans hqr.loggedHash
  createdAt := hpq.createdAt.trans hqr.createdAt
  contentHash hash h := hpq.contentHash hash (hqr.contentHash hash h)
  attempts n h := by
    rw [hpq.attempts _ (hqr.attempts n h), Nat.add_assoc]

theorem continues_claim (r : Row σ) (worker : String) (expiry now : σ) :
    (r.claim worker expiry now).Continues r 1 := by
  refine ⟨rfl, rfl, rfl, rfl, rfl, rfl, rfl, fun _ h => h, fun n hn => ?_⟩
  rw [attempts_claim, hn, Cell.next_counted]

theorem continues_register (r : Row σ) (hash : String) (now : σ) :
    (r.register hash now).Continues r 0 := by
  refine ⟨rfl, rfl, rfl, rfl, rfl, rfl, rfl, fun known h => ?_, fun _ h => h⟩
  rw [contentHash_register, h]
  rfl

theorem continues_conclude (r : Row σ) (o : Outcome) (retryAfter : Option σ) (now : σ) :
    (r.conclude o retryAfter now).Continues r 0 := by
  have hhash : ∀ hash, r.contentHash = some hash →
      (r.conclude o retryAfter now).contentHash = some hash :=
    fun _ h => contentHash_conclude r now o retryAfter h
  cases o <;> exact ⟨rfl, rfl, rfl, rfl, rfl, rfl, rfl, hhash, fun _ h => h⟩

end

/-- What a row reads back as is continued where the row is. -/
theorem Continues.item {m : Medium} (hm : m.IsBackend) {r before : Row m.Stamp} {claims : Nat}
    (h : r.Continues before claims) (hcount : ∃ n, before.attempts = .counted n)
    {item earlier : WorkItem} (hitem : r.Reads m item) (hearlier : before.Reads m earlier) :
    item.Continues earlier claims where
  id := by rw [hitem.id, hearlier.id, h.id]
  eventType := by rw [hitem.eventType, hearlier.eventType, h.eventType]
  sourceIp := by rw [hitem.sourceIp, hearlier.sourceIp, h.sourceIp]
  filenameHint := by rw [hitem.filenameHint, hearlier.filenameHint, h.filenameHint]
  storedNameHint := by rw [hitem.storedNameHint, hearlier.storedNameHint, h.storedNameHint]
  loggedHash := by rw [hitem.loggedHash, hearlier.loggedHash, h.loggedHash]
  createdAt := by
    have hsame := hitem.createdAt
    rw [h.createdAt, hearlier.createdAt] at hsame
    exact (Except.ok.inj hsame).symm
  contentHash hash hknown := by
    rw [hearlier.contentHash] at hknown
    rw [hitem.contentHash, h.contentHash hash hknown]
  attempts := by
    obtain ⟨n, hn⟩ := hcount
    have hbefore := hearlier.attempts
    have hafter := hitem.attempts
    rw [hn] at hbefore
    rw [h.attempts n hn] at hafter
    rw [(Medium.eq_of_count?_counted hm hbefore).1, (Medium.eq_of_count?_counted hm hafter).1]

end Row

namespace Store

variable {m : Medium}

/-! ## Items along a run -/

open Classical in
/-- A call continues every row, and counts itself if it is a claim that took the row. -/
theorem continues_after {s : Store m} (hs : s.IsNumbered) (c : Call) {id : Int}
    {r : Row m.Stamp} (hr : s.find? id = some r) :
    ∃ r', (s.after c).find? id = some r' ∧
      r'.Continues r (if s.IsTakenBy id c then 1 else 0) := by
  obtain ⟨r', hr', hchange⟩ := find?_after hs c hr
  refine ⟨r', hr', ?_⟩
  cases hchange with
  | same =>
    rw [if_neg (not_isTakenBy_of_eq (hr'.trans hr.symm))]
    exact Row.continues_refl r
  | claim =>
    split
    · exact Row.continues_claim ..
    · rename_i hnot
      rw [eq_of_not_isTakenBy hr hr' hnot]
      exact Row.continues_refl r
  | register =>
    simpa [IsTakenBy] using Row.continues_register r _ _
  | conclude =>
    simpa [IsTakenBy] using Row.continues_conclude r _ _ _

/-- A run continues every row, and counts the claims that took it. -/
theorem continues_afterAll {s : Store m} (hs : s.IsNumbered) (calls : List Call) {id : Int}
    {r : Row m.Stamp} (hr : s.find? id = some r) :
    ∃ r', (s.afterAll calls).find? id = some r' ∧ r'.Continues r (s.takings id calls) := by
  induction calls generalizing s r with
  | nil => exact ⟨r, hr, Row.continues_refl r⟩
  | cons c calls ih =>
    obtain ⟨q, hq, hfirst⟩ := continues_after hs c hr
    obtain ⟨r', hr', hrest⟩ := ih (isNumbered_after hs c) hq
    exact ⟨r', hr', hfirst.trans hrest⟩

/-- An item that is added has the next number, and it is there. -/
theorem enqueue_some {s : Store m} {o : Observation} {now : Instant} {item : WorkItem}
    (h : (s.enqueue o now).1 = .ok item) :
    item.id = s.nextId ∧ ∃ r ∈ (s.enqueue o now).2.rows, r.id = item.id := by
  rcases s.enqueue_cases o now with ⟨e, hcase⟩ | ⟨stamp, -, hcase⟩
  · rw [hcase] at h
    cases h
  · rw [hcase] at h ⊢
    have hread : (Row.ofObservation s.nextId stamp o).read m = .ok item := h
    have hid : item.id = s.nextId := (Row.reads_of_read hread).id
    exact ⟨hid, _, List.mem_append_right _ (List.mem_singleton_self _), hid.symm⟩

/-- An item that is added later has a larger number. -/
theorem id_lt_id_of_enqueue {s : Store m} (hs : s.IsNumbered) {o o' : Observation}
    {now now' : Instant} {first second : WorkItem} (hfirst : (s.enqueue o now).1 = .ok first)
    {calls : List Call}
    (hsecond : (((s.enqueue o now).2.afterAll calls).enqueue o' now').1 = .ok second) :
    first.id < second.id := by
  obtain ⟨-, r, hr, hid⟩ := enqueue_some hfirst
  have hnumbered : (s.enqueue o now).2.IsNumbered := isNumbered_after hs (.enqueue o now)
  obtain ⟨r', hr', -⟩ := find?_afterAll hnumbered calls (find?_of_mem hnumbered hr)
  rw [(enqueue_some hsecond).1, ← hid, ← id_of_find? hr']
  exact id_lt_nextId _ (mem_of_find? hr')

/-! ## One call -/

/-- The store differs from the one before in the row of one number at most. -/
structure AgreesBut (s before : Store m) (id : Int) : Prop where
  ids : s.rows.map (·.id) = before.rows.map (·.id)
  rows : ∀ key, key ≠ id → s.find? key = before.find? key
  reports : s.reports = before.reports

theorem agreesBut_refl (s : Store m) (id : Int) : s.AgreesBut s id :=
  ⟨rfl, fun _ _ => rfl, rfl⟩

theorem agreesBut_modify (s : Store m) (id : Int) {f : Row m.Stamp → Row m.Stamp}
    (hf : ∀ r, (f r).id = r.id) : (s.modify id f).AgreesBut s id :=
  ⟨ids_modify s id hf, fun _ hne => find?_modify_ne hf hne, rfl⟩

/-- A claim hands out nothing and leaves the backlog as it was, or it changes one row, and hands
out its item if any. -/
theorem claimNext_modify (s : Store m) (worker : String) (now : Instant) (lease : Span) :
    ((∀ item, (s.claimNext worker now lease).1 ≠ .ok (some item)) ∧
      (s.claimNext worker now lease).2 = s) ∨
    ∃ (row : Row m.Stamp) (lastly stamp : m.Stamp),
      (∀ item, (s.claimNext worker now lease).1 = .ok (some item) → item.id = row.id) ∧
      (s.claimNext worker now lease).2 = s.modify row.id (·.claim worker lastly stamp) := by
  rcases s.claimNext_cases worker now lease with
    ⟨e, h⟩ | h | ⟨_, lastly, stamp, row, -, -, -, -, -, -, h⟩
  · rw [h]
    exact .inl ⟨fun _ => nofun, rfl⟩
  · rw [h]
    exact .inl ⟨fun _ => nofun, rfl⟩
  · rw [h]
    refine .inr ⟨row, lastly, stamp, fun item hitem => ?_, rfl⟩
    cases hread : (row.claim worker lastly stamp).read m with
    | error e => rw [hread] at hitem; cases hitem
    | ok claimed =>
      rw [hread] at hitem
      cases hitem
      exact (Row.reads_of_read hread).id

/-- A claim changes one row at most, and none if it finds nothing.  The worker holds the row then,
and it is the one of the item that the worker is handed. -/
theorem agreesBut_claimNext {s : Store m} (hs : s.IsNumbered) (worker : String) (now : Instant)
    (lease : Span) :
    ∃ id, (s.claimNext worker now lease).2.AgreesBut s id ∧
      (∀ item, (s.claimNext worker now lease).1 = .ok (some item) → item.id = id) ∧
      ((s.claimNext worker now lease).1 = .ok none → (s.claimNext worker now lease).2 = s) ∧
      (s.Takes id worker now lease →
        ∃ r, (s.claimNext worker now lease).2.find? id = some r ∧ r.isHeldBy worker = true) := by
  rcases s.claimNext_modify worker now lease with
    ⟨hnothing, hkept⟩ | ⟨row, lastly, stamp, hhanded, hchanged⟩
  · refine ⟨0, ?_, fun item h => absurd h (hnothing item), fun _ => hkept, fun h => h.isHeldBy hs⟩
    rw [hkept]
    exact agreesBut_refl s 0
  · refine ⟨row.id, ?_, hhanded, fun h => (claimNext_none h).1, fun h => h.isHeldBy hs⟩
    rw [hchanged]
    exact agreesBut_modify s row.id fun _ => rfl

theorem agreesBut_registerHash (s : Store m) (id : Int) (hash : String) (now : Instant)
    (since : Option Instant) : (s.registerHash id hash now since).2.AgreesBut s id := by
  rcases s.registerHash_cases id hash now since with ⟨e, h⟩ | ⟨_, _, -, -, -, -, h⟩
  · rw [h]
    exact agreesBut_refl s id
  · rw [h]
    exact agreesBut_modify s id fun _ => rfl

theorem agreesBut_record (s : Store m) (id : Int) (worker : String) (o : Outcome)
    (retryAfter : Option Instant) (now : Instant) :
    (s.record id worker o retryAfter now).2.AgreesBut s id := by
  rcases s.record_cases id worker o retryAfter now with ⟨e, h⟩ | ⟨_, _, _, -, -, -, -, h⟩
  · rw [h]
    exact agreesBut_refl s id
  · rw [h]
    exact agreesBut_modify s id fun _ => Row.id_conclude ..

/-! ## Any run -/

/-- No run takes an item away, alters what it was observed as or a content hash that was set, or
counts anything but the claims that took it; so it is in the backlog, and so it reads back.  Of two
items that are added the later one has the larger number.  And no claim, registration or record
changes more than the row of the item that it hands out or names, or the results. -/
theorem run_preserves (hm : m.IsBackend) {s : Store m} (hs : s.IsReachable) (calls : List Call) :
    (∀ id r, s.find? id = some r → ∃ r', (s.afterAll calls).find? id = some r' ∧
      r'.Continues r (s.takings id calls)) ∧
    (∀ id earlier item, s.get id = .ok earlier → (s.afterAll calls).get id = .ok item →
      item.Continues earlier (s.takings id calls)) ∧
    (∀ o now first o' now' second, (s.enqueue o now).1 = .ok first →
      (((s.enqueue o now).2.afterAll calls).enqueue o' now').1 = .ok second →
        first.id < second.id) ∧
    (∀ worker now lease, ∃ id, (s.claimNext worker now lease).2.AgreesBut s id ∧
      (∀ item, (s.claimNext worker now lease).1 = .ok (some item) → item.id = id) ∧
      ((s.claimNext worker now lease).1 = .ok none → (s.claimNext worker now lease).2 = s) ∧
      (s.Takes id worker now lease →
        ∃ r, (s.claimNext worker now lease).2.find? id = some r ∧ r.isHeldBy worker = true)) ∧
    (∀ id hash now since, (s.registerHash id hash now since).2.AgreesBut s id) ∧
    ∀ id worker o retryAfter now, (s.record id worker o retryAfter now).2.AgreesBut s id := by
  have hnumbered := isNumbered_of_isReachable hs
  have hcounted := isCounted_of_isReachable hs
  refine ⟨fun id r hr => continues_afterAll hnumbered calls hr, ?_,
    fun _ _ _ _ _ _ h h' => id_lt_id_of_enqueue hnumbered h h', agreesBut_claimNext hnumbered,
    s.agreesBut_registerHash, s.agreesBut_record⟩
  intro id earlier item hearlier hitem
  obtain ⟨r, hr, hreads⟩ := exists_reads_of_get hearlier
  obtain ⟨r', hr', hcontinues⟩ := continues_afterAll hnumbered calls hr
  obtain ⟨_, hsame, hreads'⟩ := exists_reads_of_get hitem
  cases hr'.symm.trans hsame
  exact hcontinues.item hm (hcounted id r hr) hreads' hreads

/-- A second worker registers another hash and forwards the file with a third: the first one
stays. -/
theorem run_preserves_first_hash :
    let s := (empty .server).afterAll [.enqueue seen (clock 0),
      .claim "a" (clock 0) (.ofSeconds 60), .registerHash 1 "h" (clock 1) none,
      .record 1 "a" (.retry "refused") none (clock 2)]
    let later : List Call := [.claim "b" (clock 3) (.ofSeconds 60),
      .registerHash 1 "other" (clock 4) none,
      .record 1 "b" (.forwarded none "ok" (some "third")) none (clock 5)]
    ∃ r r', s.find? 1 = some r ∧ r.attempts = .whole 1 ∧ (s.afterAll later).find? 1 = some r' ∧
      r'.isIn .forwarded = true ∧ r'.contentHash = some "h" ∧
      r'.Continues r (s.takings 1 later) := by
  intro s later
  have hs : s.IsReachable := ⟨_, rfl⟩
  have hrow : ∃ r ∈ s.find? 1, r.attempts = .whole 1 ∧ r.contentHash = some "h" := by decide
  have hforwarded : ∃ r ∈ (s.afterAll later).find? 1, r.isIn .forwarded = true := by decide
  obtain ⟨r, hr, hcount, hhash⟩ := hrow
  obtain ⟨q, hq, hstatus⟩ := hforwarded
  obtain ⟨r', hr', hcontinues⟩ := (run_preserves (.inr rfl) hs later).1 1 r hr
  cases hq.symm.trans hr'
  exact ⟨r, q, hr, hcount, hr', hstatus, hcontinues.contentHash "h" hhash, hcontinues⟩

end Store

end Backlog

end ArtifactRelay
