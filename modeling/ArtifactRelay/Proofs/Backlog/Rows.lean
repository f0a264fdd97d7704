import ArtifactRelay.Backlog.Row

/-!
# ArtifactRelay.Proofs.Backlog.Rows

What the three changes of a row do to its fields, and when a row reads back.

A row is written if it holds what the backlog writes, whatever the medium makes of
its stamps: a known state, a count of claims, a number of a task or none.  It is
legible if its stamps can be read too.  A written row reads back unless its count of
claims is past what a count can be, which is refused, or one of its stamps is of no
instant (`IsWritten.read_cases`).
-/

namespace ArtifactRelay.Backlog

open Text Time

namespace Row

/-! ## Fields after a change -/

section

variable {σ : Type} (r : Row σ) (worker hash : String) (expiry now : σ) (o : Outcome)
  (retryAfter : Option σ)

@[simp] theorem id_claim : (r.claim worker expiry now).id = r.id := rfl

@[simp] theorem status_claim : (r.claim worker expiry now).status = Status.claimed.name := rfl

@[simp] theorem claimedBy_claim : (r.claim worker expiry now).claimedBy = some worker := rfl

@[simp] theorem attempts_claim : (r.claim worker expiry now).attempts = r.attempts.next := rfl

/-- A claim is counted, so it changes its row while the count can go up. -/
theorem claim_ne {n : Nat} (hn : r.attempts = .counted n) (hle : n ≤ maxSigned64) :
    r.claim worker expiry now ≠ r := by
  intro hsame
  have hcount := congrArg Row.attempts hsame
  rw [attempts_claim, hn, Cell.next_counted, Cell.counted_inj hle] at hcount
  omega

@[simp] theorem id_register : (r.register hash now).id = r.id := rfl

@[simp] theorem contentHash_register :
    (r.register hash now).contentHash = some (r.contentHash.getD hash) := rfl

@[simp] theorem id_conclude : (r.conclude o retryAfter now).id = r.id := by cases o <;> rfl

@[simp] theorem eventType_conclude :
    (r.conclude o retryAfter now).eventType = r.eventType := by cases o <;> rfl

@[simp] theorem status_conclude :
    (r.conclude o retryAfter now).status = o.target.name := by cases o <;> rfl

@[simp] theorem claimedBy_conclude :
    (r.conclude o retryAfter now).claimedBy = none := by cases o <;> rfl

@[simp] theorem leaseUntil_conclude :
    (r.conclude o retryAfter now).leaseUntil = none := by cases o <;> rfl

@[simp] theorem attempts_conclude :
    (r.conclude o retryAfter now).attempts = r.attempts := by cases o <;> rfl

@[simp] theorem updatedAt_conclude :
    (r.conclude o retryAfter now).updatedAt = now := by cases o <;> rfl

@[simp] theorem createdAt_conclude :
    (r.conclude o retryAfter now).createdAt = r.createdAt := by cases o <;> rfl

/-- The stamps of a row. -/
def stamps : List σ := r.createdAt :: r.updatedAt :: (r.leaseUntil.toList ++ r.retryAfter.toList)

theorem mem_stamps_of_leaseUntil {r : Row σ} {x : σ} (h : x ∈ r.leaseUntil) : x ∈ r.stamps := by
  simp [stamps, Option.mem_def.mp h]

theorem mem_stamps_of_retryAfter {r : Row σ} {x : σ} (h : x ∈ r.retryAfter) : x ∈ r.stamps := by
  simp [stamps, Option.mem_def.mp h]

theorem mem_stamps_claim {x : σ} (h : x ∈ (r.claim worker expiry now).stamps) :
    x = expiry ∨ x = now ∨ x ∈ r.stamps := by
  simp only [stamps, claim, Option.toList_some, Option.toList_none, List.append_nil,
    List.mem_cons, List.not_mem_nil, or_false] at h ⊢
  rcases h with h | h | h
  · exact .inr (.inr (.inl h))
  · exact .inr (.inl h)
  · exact .inl h

theorem mem_stamps_register {x : σ} (h : x ∈ (r.register hash now).stamps) :
    x = now ∨ x ∈ r.stamps := by
  simp only [stamps, register, List.mem_cons] at h ⊢
  rcases h with h | h | h
  · exact .inr (.inl h)
  · exact .inl h
  · exact .inr (.inr (.inr h))

theorem mem_stamps_conclude {x : σ} (h : x ∈ (r.conclude o retryAfter now).stamps) :
    x ∈ retryAfter.toList ∨ x = now ∨ x ∈ r.stamps := by
  have hretry : x ∈ (r.conclude o retryAfter now).retryAfter.toList → x ∈ retryAfter.toList := by
    cases o with
    | retry => exact fun hx => hx
    | _ => exact nofun
  simp only [stamps, leaseUntil_conclude, createdAt_conclude, updatedAt_conclude, List.mem_cons,
    Option.toList_none, List.nil_append] at h ⊢
  rcases h with h | h | h
  · exact .inr (.inr (.inl h))
  · exact .inr (.inl h)
  · exact .inl (hretry h)

/-- An outcome never takes a content hash away, or changes it. -/
theorem contentHash_conclude {hash : String} (h : r.contentHash = some hash) :
    (r.conclude o retryAfter now).contentHash = some hash := by
  cases o <;> simp [conclude, h]

end

/-! ## States -/

section

variable {σ : Type} {r : Row σ}

theorem isIn_iff {s : Status} : r.isIn s = true ↔ r.status = s.name := beq_iff_eq

/-- A row is in one state. -/
theorem eq_of_isIn {s t : Status} (hs : r.isIn s = true) (ht : r.isIn t = true) : s = t :=
  Status.name_injective ((isIn_iff.mp hs).symm.trans (isIn_iff.mp ht))

theorem isIn_claim {worker : String} {expiry now : σ} {s : Status} :
    (r.claim worker expiry now).isIn s = true ↔ s = .claimed := by
  rw [isIn_iff, status_claim]
  exact ⟨fun h => (Status.name_injective h).symm, fun h => h ▸ rfl⟩

theorem isIn_conclude {o : Outcome} {retryAfter : Option σ} {now : σ} {s : Status} :
    (r.conclude o retryAfter now).isIn s = true ↔ s = o.target := by
  rw [isIn_iff, status_conclude]
  exact ⟨fun h => (Status.name_injective h).symm, fun h => h ▸ rfl⟩

theorem isHeldBy_iff {worker : String} :
    r.isHeldBy worker = true ↔ r.status = Status.claimed.name ∧ r.claimedBy = some worker := by
  simp [isHeldBy, isIn]

theorem isIn_of_isHeldBy {worker : String} (h : r.isHeldBy worker = true) :
    r.isIn .claimed = true :=
  isIn_iff.mpr (isHeldBy_iff.mp h).1

/-- A row has one holder at most. -/
theorem eq_of_isHeldBy {v w : String} (hv : r.isHeldBy v = true) (hw : r.isHeldBy w = true) :
    v = w :=
  Option.some.inj ((isHeldBy_iff.mp hv).2.symm.trans (isHeldBy_iff.mp hw).2)

/-- A claim makes its worker the holder, and nobody else. -/
theorem isHeldBy_claim {v w : String} {expiry now : σ} :
    (r.claim v expiry now).isHeldBy w = true ↔ v = w := by
  rw [isHeldBy_iff, claimedBy_claim, status_claim, Option.some.injEq]
  exact and_iff_right rfl

@[simp] theorem isHeldBy_register (hash : String) (now : σ) (w : String) :
    (r.register hash now).isHeldBy w = r.isHeldBy w := rfl

/-- Nobody holds a row after an outcome. -/
@[simp] theorem isHeldBy_conclude (o : Outcome) (retryAfter : Option σ) (now : σ) (w : String) :
    (r.conclude o retryAfter now).isHeldBy w = false := by
  simp [isHeldBy]

/-- An outcome ends a claim, so it changes its row. -/
theorem conclude_ne {worker : String} (h : r.isHeldBy worker = true) (o : Outcome)
    (retryAfter : Option σ) (now : σ) : r.conclude o retryAfter now ≠ r := by
  intro hsame
  have hfree := isHeldBy_conclude (r := r) o retryAfter now worker
  rw [hsame, h] at hfree
  cases hfree

end

section

variable {m : Medium} {r : Row m.Stamp}

/-- A row that may be claimed waits, or its lease is over. -/
theorem isClaimable_cases {now : m.Stamp} (h : r.isClaimable m now = true) :
    r.isIn .pending = true ∨
      r.isIn .claimed = true ∧ ∃ lease, r.leaseUntil = some lease ∧ m.below lease now = true := by
  simp only [isClaimable, Bool.and_eq_true, Bool.or_eq_true, Option.any_eq_true] at h
  obtain ⟨-, ⟨hpending, -⟩ | ⟨hclaimed, lease, hlease, hbelow⟩⟩ := h
  · exact .inl hpending
  · exact .inr ⟨hclaimed, lease, hlease, hbelow⟩

/-- Only observed artifacts may be claimed. -/
theorem eventType_of_isClaimable {now : m.Stamp} (h : r.isClaimable m now = true) :
    r.eventType = artifactObserved := by
  unfold isClaimable at h
  exact beq_iff_eq.mp (Bool.and_eq_true_iff.mp h).1

theorem not_isClaimable_of_forwarded (h : r.isIn .forwarded = true) (now : m.Stamp) :
    ¬ r.isClaimable m now = true := by
  intro hclaimable
  rcases isClaimable_cases hclaimable with hpending | ⟨hclaimed, -⟩
  · cases eq_of_isIn h hpending
  · cases eq_of_isIn h hclaimed

/-! ## Reading back -/

/-- What a row that reads back says of its item. -/
structure Reads (m : Medium) (r : Row m.Stamp) (item : WorkItem) : Prop where
  id : item.id = r.id
  eventType : item.eventType = r.eventType
  sourceIp : item.sourceIp = r.sourceIp
  filenameHint : item.filenameHint = r.filenameHint
  storedNameHint : item.storedNameHint = r.storedNameHint
  loggedHash : item.loggedHash = r.loggedHash
  status : Status.ofName? r.status = some item.status
  leaseUntil : m.instantOption r.leaseUntil = .ok item.leaseUntil
  claimedBy : item.claimedBy = r.claimedBy
  attempts : m.count? r.attempts = some item.attempts
  retryAfter : m.instantOption r.retryAfter = .ok item.retryAfter
  contentHash : item.contentHash = r.contentHash
  taskRef : m.number r.taskRef = .ok item.taskRef
  engineResponse : item.engineResponse = r.engineResponse
  duplicateOf : item.duplicateOf = r.duplicateOf
  lastError : item.lastError = r.lastError
  createdAt : m.instant r.createdAt = .ok item.createdAt
  updatedAt : m.instant r.updatedAt = .ok item.updatedAt

theorem reads_of_read {item : WorkItem} (h : r.read m = .ok item) : r.Reads m item := by
  unfold read at h
  cases hstatus : Status.ofName? r.status with
  | none => simp [hstatus] at h
  | some status =>
    cases hcount : m.count? r.attempts with
    | none => simp [hstatus, hcount] at h
    | some attempts =>
      simp only [hstatus, hcount, bind, Except.bind] at h
      repeat' split at h
      all_goals first
        | cases h; constructor <;> first | rfl | assumption
        | cases h

/-- The item of a row that reads back is in the state of the row. -/
theorem Reads.name_status {item : WorkItem} (h : r.Reads m item) {s : Status}
    (hs : r.status = s.name) : item.status = s := by
  have hread := h.status
  rw [hs, Status.ofName?_name] at hread
  exact (Option.some.inj hread).symm

theorem Reads.status_eq_iff {item : WorkItem} (h : r.Reads m item) {s : Status} :
    item.status = s ↔ r.isIn s = true := by
  constructor
  · rintro rfl
    exact isIn_iff.mpr (Status.name_of_ofName? h.status).symm
  · exact fun hs => h.name_status (isIn_iff.mp hs)

/-- An instant is read where a stamp is kept. -/
theorem isSome_of_instantOption {x : Option m.Stamp} {t : Option Instant}
    (h : m.instantOption x = .ok t) : t.isSome = x.isSome := by
  cases x with
  | none => cases h; rfl
  | some y =>
    change (m.instant y).map some = .ok t at h
    cases hy : m.instant y with
    | error e => rw [hy] at h; cases h
    | ok u => rw [hy] at h; cases h; rfl

/-- A number is read where one is kept. -/
theorem ne_null_of_number {c : Cell} {n : Int} (h : m.number c = .ok (some n)) : c ≠ .null := by
  rintro rfl
  cases h

/-- A row that holds what the backlog writes, whatever its stamps. -/
structure IsWritten {σ : Type} (r : Row σ) : Prop where
  status : ∃ s : Status, r.status = s.name
  attempts : ∃ n : Nat, r.attempts = .counted n
  taskRef : r.taskRef = .null ∨ ∃ n, r.taskRef = .whole n

/-- A row that holds what the backlog writes, and whose stamps can be read. -/
structure IsLegible (m : Medium) (r : Row m.Stamp) : Prop extends r.IsWritten where
  stamps : ∀ x ∈ r.stamps, (m.instant? x).isSome = true

/-- A stamp is of no instant, or it is read. -/
theorem instant_cases (x : m.Stamp) :
    m.instant? x = none ∧ m.instant x = .error m.unreadable ∨ ∃ t, m.instant x = .ok t := by
  unfold Medium.instant
  cases m.instant? x with
  | none => exact .inl ⟨rfl, rfl⟩
  | some t => exact .inr ⟨t, rfl⟩

theorem instantOption_cases (x : Option m.Stamp) :
    (∃ y ∈ x, m.instant? y = none) ∧ m.instantOption x = .error m.unreadable ∨
      ∃ t, m.instantOption x = .ok t := by
  cases x with
  | none => exact .inr ⟨none, rfl⟩
  | some y =>
    show _ ∧ (m.instant y).map some = _ ∨ ∃ t, (m.instant y).map some = .ok t
    rcases instant_cases y with ⟨hnone, herror⟩ | ⟨t, ht⟩
    · exact .inl ⟨⟨y, rfl, hnone⟩, by rw [herror]; rfl⟩
    · exact .inr ⟨some t, by rw [ht]; rfl⟩

theorem number_eq_ok {c : Cell} (h : c = .null ∨ ∃ n, c = .whole n) :
    ∃ n, m.number c = .ok n := by
  rcases h with rfl | ⟨n, rfl⟩
  · exact ⟨none, rfl⟩
  · exact ⟨some n, rfl⟩

/-- A written row is refused for its count, stops at a stamp that is of no instant, or reads
back. -/
theorem IsWritten.read_cases (h : r.IsWritten) :
    m.count? r.attempts = none ∧ r.read m = .error m.refusal ∨
      (∃ n, m.count? r.attempts = some n) ∧
        ((∃ x ∈ r.stamps, m.instant? x = none) ∧ r.read m = .error m.unreadable ∨
          ∃ item, r.read m = .ok item) := by
  obtain ⟨s, hs⟩ := h.status
  obtain ⟨task, htask⟩ := number_eq_ok (m := m) h.taskRef
  unfold read
  simp only [hs, Status.ofName?_name]
  cases hcount : m.count? r.attempts with
  | none => exact .inl ⟨rfl, rfl⟩
  | some n =>
    refine .inr ⟨⟨n, rfl⟩, ?_⟩
    rcases instantOption_cases r.leaseUntil with ⟨⟨x, hx, hnone⟩, herror⟩ | ⟨_, hlease⟩
    · exact .inl ⟨⟨x, mem_stamps_of_leaseUntil hx, hnone⟩, by rw [herror]; rfl⟩
    rcases instantOption_cases r.retryAfter with ⟨⟨x, hx, hnone⟩, herror⟩ | ⟨_, hretry⟩
    · exact .inl ⟨⟨x, mem_stamps_of_retryAfter hx, hnone⟩, by rw [hlease, herror]; rfl⟩
    rcases instant_cases r.createdAt with ⟨hnone, herror⟩ | ⟨_, hcreated⟩
    · exact .inl ⟨⟨_, by simp [stamps], hnone⟩, by rw [hlease, hretry, herror]; rfl⟩
    rcases instant_cases r.updatedAt with ⟨hnone, herror⟩ | ⟨_, hupdated⟩
    · exact .inl ⟨⟨_, by simp [stamps], hnone⟩, by rw [hlease, hretry, hcreated, herror]; rfl⟩
    rw [hlease, hretry, hcreated, hupdated, htask]
    exact .inr ⟨_, rfl⟩

theorem IsLegible.read_eq_ok (h : r.IsLegible m) {n : Nat}
    (hcount : m.count? r.attempts = some n) : ∃ item, r.read m = .ok item := by
  rcases h.read_cases with ⟨hnone, -⟩ | ⟨-, ⟨⟨x, hx, hnone⟩, -⟩ | hitem⟩
  · cases hcount.symm.trans hnone
  · have hsome := h.stamps x hx
    rw [hnone] at hsome
    cases hsome
  · exact hitem

theorem instant?_isSome_of_instant {x : m.Stamp} {t : Instant} (h : m.instant x = .ok t) :
    (m.instant? x).isSome = true := by
  cases hread : m.instant? x with
  | some u => rfl
  | none =>
    unfold Medium.instant at h
    rw [hread] at h
    cases h

theorem instant?_isSome_of_instantOption {x : Option m.Stamp} {t : Option Instant}
    (h : m.instantOption x = .ok t) : ∀ y ∈ x, (m.instant? y).isSome = true := by
  intro y hy
  rw [Option.mem_def.mp hy] at h
  change (m.instant y).map some = .ok t at h
  cases hread : m.instant y with
  | ok u => exact instant?_isSome_of_instant hread
  | error e => rw [hread] at h; cases h

theorem Reads.instant?_isSome {item : WorkItem} (h : r.Reads m item) :
    ∀ x ∈ r.stamps, (m.instant? x).isSome = true := by
  intro x hx
  simp only [stamps, List.mem_cons, List.mem_append, Option.mem_toList] at hx
  rcases hx with rfl | rfl | hx | hx
  · exact instant?_isSome_of_instant h.createdAt
  · exact instant?_isSome_of_instant h.updatedAt
  · exact instant?_isSome_of_instantOption h.leaseUntil x hx
  · exact instant?_isSome_of_instantOption h.retryAfter x hx

/-- A row that reads back holds what the backlog writes, if its count is one of claims. -/
theorem Reads.isLegible {item : WorkItem} (h : r.Reads m item)
    (hcount : ∃ n : Nat, r.attempts = .counted n) : r.IsLegible m where
  status := ⟨item.status, (Status.name_of_ofName? h.status).symm⟩
  attempts := hcount
  taskRef := by
    have hnumber := h.taskRef
    cases htask : r.taskRef with
    | null => exact .inl rfl
    | whole n => exact .inr ⟨n, rfl⟩
    | real x => rw [htask] at hnumber; cases hnumber
    | text s => rw [htask] at hnumber; cases hnumber
  stamps := h.instant?_isSome

/-! ## Written and legible rows stay so -/

theorem isWritten_ofObservation {σ : Type} (id : Int) (now : σ) (o : Observation) :
    (ofObservation id now o).IsWritten :=
  ⟨⟨.pending, rfl⟩, ⟨0, rfl⟩, .inl rfl⟩

section

variable {σ : Type} {q : Row σ}

theorem IsWritten.claim (h : q.IsWritten) (worker : String) (expiry now : σ) :
    (q.claim worker expiry now).IsWritten where
  status := ⟨.claimed, rfl⟩
  attempts := by
    obtain ⟨n, hn⟩ := h.attempts
    exact ⟨n + 1, by rw [attempts_claim, hn, Cell.next_counted]⟩
  taskRef := h.taskRef

theorem IsWritten.conclude (h : q.IsWritten) (o : Outcome) (retryAfter : Option σ) (now : σ) :
    (q.conclude o retryAfter now).IsWritten where
  status := ⟨o.target, status_conclude ..⟩
  attempts := by rw [attempts_conclude]; exact h.attempts
  taskRef := by
    cases o with
    | forwarded taskRef response hash =>
      cases taskRef with
      | none => exact .inl rfl
      | some n => exact .inr ⟨n, rfl⟩
    | dead reason duplicateOf => exact h.taskRef
    | retry reason => exact h.taskRef

end

theorem IsLegible.claim (h : r.IsLegible m) {worker : String} {expiry now : m.Stamp}
    (hexpiry : (m.instant? expiry).isSome = true) (hnow : (m.instant? now).isSome = true) :
    (r.claim worker expiry now).IsLegible m where
  toIsWritten := h.toIsWritten.claim worker expiry now
  stamps x hx := by
    rcases mem_stamps_claim _ _ _ _ hx with rfl | rfl | hx
    · exact hexpiry
    · exact hnow
    · exact h.stamps x hx

theorem IsLegible.register (h : r.IsLegible m) {hash : String} {now : m.Stamp}
    (hnow : (m.instant? now).isSome = true) : (r.register hash now).IsLegible m where
  toIsWritten := ⟨h.status, h.attempts, h.taskRef⟩
  stamps x hx := by
    rcases mem_stamps_register _ _ _ hx with rfl | hx
    · exact hnow
    · exact h.stamps x hx

theorem IsLegible.conclude (h : r.IsLegible m) (o : Outcome) {retryAfter : Option m.Stamp}
    {now : m.Stamp} (hretry : ∀ x ∈ retryAfter, (m.instant? x).isSome = true)
    (hnow : (m.instant? now).isSome = true) : (r.conclude o retryAfter now).IsLegible m where
  toIsWritten := h.toIsWritten.conclude o retryAfter now
  stamps x hx := by
    rcases mem_stamps_conclude _ _ _ _ hx with hx | rfl | hx
    · exact hretry x (Option.mem_toList.mp hx)
    · exact hnow
    · exact h.stamps x hx

end

end Row

end ArtifactRelay.Backlog
