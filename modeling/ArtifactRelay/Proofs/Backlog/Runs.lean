import ArtifactRelay.Proofs.Backlog.Stamps
import ArtifactRelay.Proofs.Backlog.Steps

/-!
# ArtifactRelay.Proofs.Backlog.Runs

Runs of a store, row by row.  No two rows of a reachable store have one number, so a
number names one row for good.  A call leaves that row as it is or makes one of the
three changes to it (`Row.Changes`), and it never takes the row away (`find?_after`).

`Along` says that something holds of every call of a run and of the store it finds;
`along_induction` carries an invariant through such a run.
-/

namespace ArtifactRelay.Backlog

open Text Time

/-! ## Calls -/

/-- The instants of a call. -/
def Call.instants : Call → List Instant
  | enqueue _ now => [now]
  | claim _ now lease => now :: (now.add? lease).toList
  | registerHash _ _ now since => now :: since.toList
  | record _ _ _ retryAfter now => now :: retryAfter.toList
  | report a => [a.reportedAt]

/-- The instants that a call may write into a row. -/
def Call.written : Call → List Instant
  | enqueue _ now => [now]
  | claim _ now lease => now :: (now.add? lease).toList
  | registerHash _ _ now _ => [now]
  | record _ _ _ retryAfter now => now :: retryAfter.toList
  | report _ => []

/-- The instants of a call are of the years 0 to 9999. -/
def Call.IsFourDigit : Call → Prop
  | enqueue _ now => now.IsFourDigit
  | claim _ now lease => now.IsFourDigit ∧ ∀ t ∈ now.add? lease, t.IsFourDigit
  | registerHash _ _ now since => now.IsFourDigit ∧ ∀ t ∈ since, t.IsFourDigit
  | record _ _ _ retryAfter now => now.IsFourDigit ∧ ∀ t ∈ retryAfter, t.IsFourDigit
  | report a => a.reportedAt.IsFourDigit

instance : (c : Call) → Decidable c.IsFourDigit
  | .enqueue _ now => inferInstanceAs (Decidable now.IsFourDigit)
  | .claim _ now lease =>
    inferInstanceAs (Decidable (now.IsFourDigit ∧ ∀ t ∈ now.add? lease, t.IsFourDigit))
  | .registerHash _ _ now since =>
    inferInstanceAs (Decidable (now.IsFourDigit ∧ ∀ t ∈ since, t.IsFourDigit))
  | .record _ _ _ retryAfter now =>
    inferInstanceAs (Decidable (now.IsFourDigit ∧ ∀ t ∈ retryAfter, t.IsFourDigit))
  | .report a => inferInstanceAs (Decidable a.reportedAt.IsFourDigit)

/-- An observation is added. -/
def Call.isEnqueue : Call → Bool
  | enqueue .. => true
  | _ => false

/-- What a call may do to a row. -/
inductive Row.Changes (m : Medium) : Call → Row m.Stamp → Row m.Stamp → Prop
  | same (c : Call) (r : Row m.Stamp) : Changes m c r r
  | claim {worker : String} {now expiry : Instant} {lease : Span} {lastly stamp : m.Stamp}
      {r : Row m.Stamp} (hexpiry : now.add? lease = some expiry)
      (hlastly : m.stamp? expiry = some lastly) (hstamp : m.stamp? now = some stamp)
      (hworker : m.keepsText worker = true) (hclaimable : r.isClaimable m stamp = true)
      (hcount : m.keepsCount r.attempts.next = true) :
      Changes m (.claim worker now lease) r (r.claim worker lastly stamp)
  | register {hash : String} {now : Instant} {since : Option Instant} {stamp : m.Stamp}
      {r : Row m.Stamp} (hstamp : m.stamp? now = some stamp) :
      Changes m (.registerHash r.id hash now since) r (r.register hash stamp)
  | conclude {worker : String} {o : Outcome} {retryAfter : Option Instant} {now : Instant}
      {stamp : m.Stamp} {retryStamp : Option m.Stamp} {r : Row m.Stamp}
      (hstamp : m.stamp? now = some stamp)
      (hretry : (if o.target = .pending then retryAfter else none).bind m.stamp? = retryStamp)
      (hheld : r.isHeldBy worker = true) :
      Changes m (.record r.id worker o retryAfter now) r (r.conclude o retryStamp stamp)

/-- The count of claims stays one, and a claim is what moves it. -/
theorem Row.Changes.attempts {m : Medium} {c : Call} {r r' : Row m.Stamp} (h : Changes m c r r')
    {n : Nat} (hn : r.attempts = .counted n) : ∃ k : Nat, r'.attempts = .counted k := by
  cases h with
  | same => exact ⟨n, hn⟩
  | claim => exact ⟨n + 1, by rw [attempts_claim, hn, Cell.next_counted]⟩
  | register => exact ⟨n, hn⟩
  | conclude => exact ⟨n, by rw [attempts_conclude, hn]⟩

/-- The count of claims stays one that the medium keeps. -/
theorem Row.Changes.keepsCount {m : Medium} {c : Call} {r r' : Row m.Stamp} (h : Changes m c r r')
    (hr : m.keepsCount r.attempts = true) : m.keepsCount r'.attempts = true := by
  cases h with
  | same => exact hr
  | claim _ _ _ _ _ hcount => exact hcount
  | register => exact hr
  | conclude => rwa [attempts_conclude]

/-- A written row stays one. -/
theorem Row.Changes.isWritten {m : Medium} {c : Call} {r r' : Row m.Stamp} (h : Changes m c r r')
    (hr : r.IsWritten) : r'.IsWritten := by
  cases h with
  | same => exact hr
  | claim => exact hr.claim ..
  | register => exact ⟨hr.status, hr.attempts, hr.taskRef⟩
  | conclude => exact hr.conclude ..

/-- What an item was observed as stays. -/
theorem Row.Changes.eventType {m : Medium} {c : Call} {r r' : Row m.Stamp}
    (h : Changes m c r r') : r'.eventType = r.eventType := by
  cases h with
  | conclude => exact eventType_conclude ..
  | _ => rfl

/-- The stamp that a record writes as the end of a backoff is that of the end it was given. -/
theorem exists_of_mem_retryStamp {m : Medium} {o : Outcome} {retryAfter : Option Instant}
    {retryStamp : Option m.Stamp}
    (h : (if o.target = .pending then retryAfter else none).bind m.stamp? = retryStamp)
    {x : m.Stamp} (hx : x ∈ retryStamp) : ∃ t, retryAfter = some t ∧ m.stamp? t = some x := by
  rw [← h] at hx
  obtain ⟨t, ht, hx⟩ := Option.bind_eq_some_iff.mp hx
  split at ht
  · exact ⟨t, ht, hx⟩
  · cases ht

/-- A row gets no stamps but those of the instants of the call. -/
theorem Row.Changes.mem_stamps {m : Medium} {c : Call} {r r' : Row m.Stamp} (h : Changes m c r r')
    {x : m.Stamp} (hx : x ∈ r'.stamps) : x ∈ r.stamps ∨ ∃ t ∈ c.written, m.stamp? t = some x := by
  cases h with
  | same => exact .inl hx
  | claim hexpiry hlastly hstamp =>
    rcases mem_stamps_claim _ _ _ _ hx with rfl | rfl | hx
    · exact .inr ⟨_, by simp [Call.written, hexpiry], hlastly⟩
    · exact .inr ⟨_, by simp [Call.written], hstamp⟩
    · exact .inl hx
  | register hstamp =>
    rcases mem_stamps_register _ _ _ hx with rfl | hx
    · exact .inr ⟨_, by simp [Call.written], hstamp⟩
    · exact .inl hx
  | conclude hstamp hretry =>
    rcases mem_stamps_conclude _ _ _ _ hx with hx | rfl | hx
    · obtain ⟨t, ht, hx⟩ := exists_of_mem_retryStamp hretry (Option.mem_toList.mp hx)
      exact .inr ⟨t, by simp [Call.written, ht], hx⟩
    · exact .inr ⟨_, by simp [Call.written], hstamp⟩
    · exact .inl hx

namespace Store

variable {m : Medium}

/-! ## Rows by their numbers -/

/-- No two rows have one number. -/
def IsNumbered (s : Store m) : Prop := s.rows.Pairwise fun r q => r.id ≠ q.id

theorem id_of_find? {s : Store m} {id : Int} {r : Row m.Stamp} (h : s.find? id = some r) :
    r.id = id := by
  simpa using List.find?_some h

theorem mem_of_find? {s : Store m} {id : Int} {r : Row m.Stamp} (h : s.find? id = some r) :
    r ∈ s.rows :=
  List.mem_of_find?_eq_some h

/-- An item that is read has a row. -/
theorem exists_reads_of_get {s : Store m} {id : Int} {item : WorkItem} (h : s.get id = .ok item) :
    ∃ r, s.find? id = some r ∧ r.Reads m item := by
  unfold get at h
  split at h
  · rename_i r hr
    exact ⟨r, hr, Row.reads_of_read h⟩
  · cases h

theorem find?_of_mem {s : Store m} (hs : s.IsNumbered) {r : Row m.Stamp} (h : r ∈ s.rows) :
    s.find? r.id = some r := by
  unfold IsNumbered find? at *
  generalize s.rows = rows at *
  induction rows with
  | nil => cases h
  | cons q rows ih =>
    rw [List.pairwise_cons] at hs
    rw [List.find?_cons]
    rcases List.mem_cons.mp h with rfl | hmem
    · simp
    · have hne : (q.id == r.id) = false := by simpa using hs.1 r hmem
      simp [hne, ih hs.2 hmem]

/-- The numbers of all rows are below the next one. -/
theorem id_lt_nextId (s : Store m) {r : Row m.Stamp} (h : r ∈ s.rows) : r.id < s.nextId := by
  have hfold : ∀ (rows : List (Row m.Stamp)) (n : Nat),
      n ≤ rows.foldl (fun n r => max n r.id.toNat) n ∧
        ∀ r ∈ rows, r.id.toNat ≤ rows.foldl (fun n r => max n r.id.toNat) n := by
    intro rows
    induction rows with
    | nil => simp
    | cons q rows ih =>
      intro n
      obtain ⟨hle, hall⟩ := ih (max n q.id.toNat)
      refine ⟨by rw [List.foldl_cons]; omega, fun r hr => ?_⟩
      rw [List.foldl_cons]
      rcases List.mem_cons.mp hr with rfl | hr
      · omega
      · exact hall r hr
  have hle := (hfold s.rows s.lastId).2 r h
  unfold nextId
  omega

theorem nextId_modify (s : Store m) (id : Int) {f : Row m.Stamp → Row m.Stamp}
    (hf : ∀ r, (f r).id = r.id) : (s.modify id f).nextId = s.nextId := by
  have hid : ∀ (n : Nat) (r : Row m.Stamp),
      max n (if r.id = id then f r else r).id.toNat = max n r.id.toNat := by
    intro n r
    split
    · rw [hf]
    · rfl
  unfold nextId modify
  simp only [List.foldl_map, hid]

/-- An item that is added has the next number, and the number after it is the next one. -/
theorem nextId_append (s : Store m) {row : Row m.Stamp} (hid : row.id = s.nextId) :
    (⟨s.rows ++ [row], s.nextId, s.reports⟩ : Store m).nextId = s.nextId + 1 := by
  have hfold : ∀ (rows : List (Row m.Stamp)) (n : Nat), (∀ r ∈ rows, r.id < n) →
      rows.foldl (fun n r => max n r.id.toNat) n = n := by
    intro rows n hrows
    induction rows with
    | nil => rfl
    | cons r rows ih =>
      have hlt := hrows r List.mem_cons_self
      have hmax : max n r.id.toNat = n := by omega
      rw [List.foldl_cons, hmax]
      exact ih fun r hr => hrows r (List.mem_cons_of_mem _ hr)
  have hsame := hfold s.rows s.nextId fun r hr => s.id_lt_nextId hr
  show (s.rows ++ [row]).foldl (fun n r => max n r.id.toNat) s.nextId + 1 = _
  rw [List.foldl_append, hsame, List.foldl_cons, List.foldl_nil, hid]
  omega

/-- Only an item that is added uses a number up. -/
theorem nextId_after_le (s : Store m) (c : Call) :
    (s.after c).nextId ≤ s.nextId + (if c.isEnqueue then 1 else 0) := by
  cases c with
  | enqueue o now =>
    show (s.enqueue o now).2.nextId ≤ s.nextId + 1
    rcases s.enqueue_cases o now with ⟨e, h⟩ | ⟨stamp, -, h⟩
    · rw [h]
      exact Nat.le_succ _
    · rw [h]
      exact Nat.le_of_eq (s.nextId_append rfl)
  | claim worker now lease =>
    show (s.claimNext worker now lease).2.nextId ≤ s.nextId
    rcases s.claimNext_cases worker now lease with ⟨e, h⟩ | h | ⟨_, _, _, _, -, -, -, -, -, -, h⟩
    · exact Nat.le_of_eq (by rw [h])
    · exact Nat.le_of_eq (by rw [h])
    · exact Nat.le_of_eq (by rw [h]; exact nextId_modify _ _ fun _ => rfl)
  | registerHash id hash now since =>
    show (s.registerHash id hash now since).2.nextId ≤ s.nextId
    rcases s.registerHash_cases id hash now since with ⟨e, h⟩ | ⟨_, _, -, -, -, -, h⟩
    · exact Nat.le_of_eq (by rw [h])
    · exact Nat.le_of_eq (by rw [h]; exact nextId_modify _ _ fun _ => rfl)
  | record id worker o retryAfter now =>
    show (s.record id worker o retryAfter now).2.nextId ≤ s.nextId
    rcases s.record_cases id worker o retryAfter now with ⟨e, h⟩ | ⟨_, _, _, -, -, -, -, h⟩
    · exact Nat.le_of_eq (by rw [h])
    · exact Nat.le_of_eq (by rw [h]; exact nextId_modify _ _ fun _ => Row.id_conclude ..)
  | report a =>
    show (s.report a).2.nextId ≤ s.nextId
    rcases s.report_cases a with ⟨e, h⟩ | ⟨_, _, -, -, h⟩
    · exact Nat.le_of_eq (by rw [h])
    · exact Nat.le_of_eq (by rw [h]; rfl)

/-- The row of a number after a row was changed. -/
theorem find?_modify (s : Store m) (id key : Int) {f : Row m.Stamp → Row m.Stamp}
    (hf : ∀ r, (f r).id = r.id) :
    (s.modify id f).find? key = (s.find? key).map fun r => if r.id = id then f r else r := by
  have hkey : ((·.id == key) ∘ fun r : Row m.Stamp => if r.id = id then f r else r) =
      (·.id == key) := by
    funext r
    by_cases h : r.id = id <;> simp [h, hf]
  unfold find? modify
  rw [List.find?_map, hkey]

theorem find?_modify_self {s : Store m} {id : Int} {r : Row m.Stamp}
    {f : Row m.Stamp → Row m.Stamp} (hf : ∀ r, (f r).id = r.id) (h : s.find? id = some r) :
    (s.modify id f).find? id = some (f r) := by
  rw [find?_modify s id id hf, h]
  simp [id_of_find? h]

theorem find?_modify_ne {s : Store m} {id key : Int} {f : Row m.Stamp → Row m.Stamp}
    (hf : ∀ r, (f r).id = r.id) (h : key ≠ id) : (s.modify id f).find? key = s.find? key := by
  rw [find?_modify s id key hf]
  cases hfind : s.find? key with
  | none => rfl
  | some r => simp [id_of_find? hfind, h]

theorem ids_modify (s : Store m) (id : Int) {f : Row m.Stamp → Row m.Stamp}
    (hf : ∀ r, (f r).id = r.id) : (s.modify id f).rows.map (·.id) = s.rows.map (·.id) := by
  unfold modify
  rw [List.map_map]
  refine List.map_congr_left fun r _ => ?_
  show (if r.id = id then f r else r).id = r.id
  split
  · exact hf r
  · rfl

theorem IsNumbered.modify {s : Store m} (hs : s.IsNumbered) (id : Int)
    {f : Row m.Stamp → Row m.Stamp} (hf : ∀ r, (f r).id = r.id) :
    (s.modify id f).IsNumbered := by
  have hids := List.pairwise_map.mpr hs
  rw [← s.ids_modify id hf] at hids
  exact List.pairwise_map.mp hids

/-- A call keeps the numbers of the rows and their order, and adds the next one at most. -/
theorem ids_after (s : Store m) (c : Call) :
    (s.after c).rows.map (·.id) = s.rows.map (·.id) ∨
      (s.after c).rows.map (·.id) = s.rows.map (·.id) ++ [(s.nextId : Int)] := by
  cases c with
  | enqueue o now =>
    show (s.enqueue o now).2.rows.map (·.id) = _ ∨ (s.enqueue o now).2.rows.map (·.id) = _
    rcases s.enqueue_cases o now with ⟨e, h⟩ | ⟨stamp, -, h⟩
    · rw [h]; exact .inl rfl
    · rw [h]; exact .inr (List.map_append ..)
  | claim worker now lease =>
    show (s.claimNext worker now lease).2.rows.map (·.id) = _ ∨ _
    rcases s.claimNext_cases worker now lease with
      ⟨e, h⟩ | h | ⟨_, _, _, row, -, -, -, -, -, -, h⟩
    · rw [h]; exact .inl rfl
    · rw [h]; exact .inl rfl
    · rw [h]; exact .inl (ids_modify _ _ fun _ => rfl)
  | registerHash id hash now since =>
    show (s.registerHash id hash now since).2.rows.map (·.id) = _ ∨ _
    rcases s.registerHash_cases id hash now since with ⟨e, h⟩ | ⟨_, _, -, -, -, -, h⟩
    · rw [h]; exact .inl rfl
    · rw [h]; exact .inl (ids_modify _ _ fun _ => rfl)
  | record id worker o retryAfter now =>
    show (s.record id worker o retryAfter now).2.rows.map (·.id) = _ ∨ _
    rcases s.record_cases id worker o retryAfter now with ⟨e, h⟩ | ⟨_, _, _, -, -, -, -, h⟩
    · rw [h]; exact .inl rfl
    · rw [h]; exact .inl (ids_modify _ _ fun _ => Row.id_conclude ..)
  | report a =>
    show (s.report a).2.rows.map (·.id) = _ ∨ _
    rcases s.report_cases a with ⟨e, h⟩ | ⟨_, _, -, -, h⟩
    · rw [h]; exact .inl rfl
    · rw [h]; exact .inl rfl

/-- What holds of every two numbers in their order still does after a call, if it holds of the
next number and all below it. -/
theorem pairwise_ids_after {R : Int → Int → Prop} {s : Store m}
    (hnext : ∀ r ∈ s.rows, R r.id s.nextId) (hs : (s.rows.map (·.id)).Pairwise R) (c : Call) :
    ((s.after c).rows.map (·.id)).Pairwise R := by
  rcases s.ids_after c with h | h
  · rw [h]
    exact hs
  · rw [h]
    refine List.pairwise_append.mpr ⟨hs, List.pairwise_singleton .., fun i hi j hj => ?_⟩
    obtain ⟨r, hr, rfl⟩ := List.mem_map.mp hi
    cases List.mem_singleton.mp hj
    exact hnext r hr

theorem isNumbered_after {s : Store m} (hs : s.IsNumbered) (c : Call) :
    (s.after c).IsNumbered :=
  List.pairwise_map.mp (pairwise_ids_after
    (fun _ hr => Int.ne_of_lt (s.id_lt_nextId hr)) (List.pairwise_map.mpr hs) c)

theorem isNumbered_of_isReachable {s : Store m} (h : s.IsReachable) : s.IsNumbered :=
  h.induction (p := IsNumbered) List.Pairwise.nil fun _ c hs => isNumbered_after hs c

/-- The rows of a reachable store are in the order of their numbers. -/
theorem pairwise_ids_of_isReachable {s : Store m} (h : s.IsReachable) :
    (s.rows.map (·.id)).Pairwise (· < ·) :=
  h.induction (p := fun s => (s.rows.map (·.id)).Pairwise (· < ·)) List.Pairwise.nil
    fun s c hs => pairwise_ids_after (fun _ hr => s.id_lt_nextId hr) hs c

/-! ## One row through a call -/

/-- A call keeps every row, but for one of the three changes. -/
theorem find?_after {s : Store m} (hs : s.IsNumbered) (c : Call) {id : Int} {r : Row m.Stamp}
    (hr : s.find? id = some r) :
    ∃ r', (s.after c).find? id = some r' ∧ Row.Changes m c r r' := by
  have hid := id_of_find? hr
  cases c with
  | enqueue o now =>
    refine ⟨r, ?_, .same ..⟩
    show (s.enqueue o now).2.find? id = some r
    rcases s.enqueue_cases o now with ⟨e, h⟩ | ⟨stamp, -, h⟩
    · rw [h]; exact hr
    · rw [h]
      unfold find? at hr ⊢
      rw [List.find?_append, hr]
      rfl
  | claim worker now lease =>
    show ∃ r', (s.claimNext worker now lease).2.find? id = some r' ∧ _
    rcases s.claimNext_cases worker now lease with
      ⟨e, h⟩ | h |
        ⟨expiry, lastly, stamp, row, hexpiry, hlastly, hstamp, hworker, hrow, hcount, h⟩
    · rw [h]; exact ⟨r, hr, .same ..⟩
    · rw [h]; exact ⟨r, hr, .same ..⟩
    · rw [h]
      have hfind := find?_of_mem hs (List.mem_of_find?_eq_some hrow)
      by_cases hsame : row.id = id
      · rw [hsame, hr] at hfind
        cases hfind
        rw [hsame]
        have hclaimable : r.isClaimable m stamp = true := by simpa using List.find?_some hrow
        exact ⟨_, find?_modify_self (fun _ => Row.id_claim ..) hr,
          .claim hexpiry hlastly hstamp hworker hclaimable hcount⟩
      · refine ⟨r, ?_, .same ..⟩
        rw [find?_modify_ne (fun _ => Row.id_claim ..) (Ne.symm hsame)]
        exact hr
  | registerHash key hash now since =>
    show ∃ r', (s.registerHash key hash now since).2.find? id = some r' ∧ _
    rcases s.registerHash_cases key hash now since with ⟨e, h⟩ | ⟨stamp, _, -, hstamp, -, -, h⟩
    · rw [h]; exact ⟨r, hr, .same ..⟩
    · rw [h]
      by_cases hsame : id = key
      · subst hsame
        refine ⟨_, find?_modify_self (fun _ => Row.id_register ..) hr, ?_⟩
        rw [← hid]
        exact .register hstamp
      · refine ⟨r, ?_, .same ..⟩
        rw [find?_modify_ne (fun _ => Row.id_register ..) hsame]
        exact hr
  | record key worker o retryAfter now =>
    show ∃ r', (s.record key worker o retryAfter now).2.find? id = some r' ∧ _
    rcases s.record_cases key worker o retryAfter now with
      ⟨e, h⟩ | ⟨stamp, retryStamp, row, hstamp, hretry, hrow, hheld, h⟩
    · rw [h]; exact ⟨r, hr, .same ..⟩
    · rw [h]
      by_cases hsame : id = key
      · subst hsame
        rw [hr] at hrow
        cases hrow
        refine ⟨_, find?_modify_self (fun _ => Row.id_conclude ..) hr, ?_⟩
        rw [← hid]
        exact .conclude hstamp hretry hheld
      · refine ⟨r, ?_, .same ..⟩
        rw [find?_modify_ne (fun _ => Row.id_conclude ..) hsame]
        exact hr
  | report a =>
    refine ⟨r, ?_, .same ..⟩
    show (s.report a).2.find? id = some r
    rcases s.report_cases a with ⟨e, h⟩ | ⟨_, _, -, -, h⟩
    · rw [h]; exact hr
    · rw [h]; exact hr

/-- A row that was not there before is a fresh observation. -/
theorem find?_after_of_none {s : Store m} {c : Call} {id : Int} {r : Row m.Stamp}
    (hnone : s.find? id = none) (hr : (s.after c).find? id = some r) :
    ∃ o now stamp, c = .enqueue o now ∧ m.stamp? now = some stamp ∧ id = s.nextId ∧
      r = .ofObservation id stamp o := by
  have hmodify : ∀ key (f : Row m.Stamp → Row m.Stamp), (∀ r, (f r).id = r.id) →
      (s.modify key f).find? id ≠ some r := by
    intro key f hf
    rw [find?_modify s key id hf, hnone]
    exact nofun
  have hsame : s.find? id ≠ some r := by rw [hnone]; exact nofun
  cases c with
  | enqueue o now =>
    change (s.enqueue o now).2.find? id = some r at hr
    rcases s.enqueue_cases o now with ⟨e, h⟩ | ⟨stamp, hstamp, h⟩
    · rw [h] at hr; exact absurd hr hsame
    · rw [h] at hr
      unfold find? at hnone hr
      rw [List.find?_append, hnone, Option.none_or, List.find?_singleton] at hr
      split at hr
      · rename_i hid
        cases hr
        have hkey : id = s.nextId := (beq_iff_eq.mp hid).symm
        exact ⟨o, now, stamp, rfl, hstamp, hkey, by rw [hkey]⟩
      · cases hr
  | claim worker now lease =>
    change (s.claimNext worker now lease).2.find? id = some r at hr
    rcases s.claimNext_cases worker now lease with ⟨e, h⟩ | h | ⟨_, _, _, _, -, -, -, -, -, -, h⟩
    · rw [h] at hr; exact absurd hr hsame
    · rw [h] at hr; exact absurd hr hsame
    · rw [h] at hr; exact absurd hr (hmodify _ _ fun _ => rfl)
  | registerHash key hash now since =>
    change (s.registerHash key hash now since).2.find? id = some r at hr
    rcases s.registerHash_cases key hash now since with ⟨e, h⟩ | ⟨_, _, -, -, -, -, h⟩
    · rw [h] at hr; exact absurd hr hsame
    · rw [h] at hr; exact absurd hr (hmodify _ _ fun _ => rfl)
  | record key worker o retryAfter now =>
    change (s.record key worker o retryAfter now).2.find? id = some r at hr
    rcases s.record_cases key worker o retryAfter now with ⟨e, h⟩ | ⟨_, _, _, -, -, -, -, h⟩
    · rw [h] at hr; exact absurd hr hsame
    · rw [h] at hr; exact absurd hr (hmodify _ _ fun _ => Row.id_conclude ..)
  | report a =>
    change (s.report a).2.find? id = some r at hr
    rcases s.report_cases a with ⟨e, h⟩ | ⟨_, _, -, -, h⟩
    · rw [h] at hr; exact absurd hr hsame
    · rw [h] at hr; exact absurd hr hsame

/-- A call keeps the results, or adds one to them that has the stamp of an instant. -/
theorem reports_after (s : Store m) (c : Call) :
    (s.after c).reports = s.reports ∨ ∃ reports a t, s.reports = some reports ∧
      m.stamp? t = some a.reportedAt ∧ (s.after c).reports = some (reports ++ [a]) := by
  cases c with
  | enqueue o now =>
    show (s.enqueue o now).2.reports = _ ∨ _
    rcases s.enqueue_cases o now with ⟨e, h⟩ | ⟨_, -, h⟩ <;> rw [h] <;> exact .inl rfl
  | claim worker now lease =>
    show (s.claimNext worker now lease).2.reports = _ ∨ _
    rcases s.claimNext_cases worker now lease with
      ⟨e, h⟩ | h | ⟨_, _, _, _, -, -, -, -, -, -, h⟩ <;> rw [h] <;> exact .inl rfl
  | registerHash key hash now since =>
    show (s.registerHash key hash now since).2.reports = _ ∨ _
    rcases s.registerHash_cases key hash now since with ⟨e, h⟩ | ⟨_, _, -, -, -, -, h⟩ <;>
      rw [h] <;> exact .inl rfl
  | record key worker o retryAfter now =>
    show (s.record key worker o retryAfter now).2.reports = _ ∨ _
    rcases s.record_cases key worker o retryAfter now with
      ⟨e, h⟩ | ⟨_, _, _, -, -, -, -, h⟩ <;> rw [h] <;> exact .inl rfl
  | report b =>
    show (s.report b).2.reports = _ ∨ ∃ reports a t, _ ∧ _ ∧ (s.report b).2.reports = _
    rcases s.report_cases b with ⟨e, h⟩ | ⟨reports, _, hreports, hstamp, h⟩
    · rw [h]; exact .inl rfl
    · rw [h]; exact .inr ⟨reports, _, _, hreports, hstamp, rfl⟩

/-- No call takes a report away. -/
theorem mem_reports_after {s : Store m} (c : Call) {a : Report m.Stamp}
    (ha : a ∈ s.reports.getD []) : a ∈ (s.after c).reports.getD [] := by
  rcases s.reports_after c with h | ⟨reports, _, _, hreports, -, h⟩
  · rwa [h]
  · rw [h]
    rw [hreports] at ha
    exact List.mem_append_left _ ha

theorem isSome_reports_after (s : Store m) (c : Call) :
    (s.after c).reports.isSome = s.reports.isSome := by
  rcases s.reports_after c with hsame | ⟨_, _, _, hreports, -, hadded⟩
  · rw [hsame]
  · rw [hadded, hreports]; rfl

theorem isSome_reports_of_isReachable {s : Store m} (h : s.IsReachable) :
    s.reports.isSome = true :=
  h.induction (p := fun s => s.reports.isSome = true) rfl fun s c hs => by
    rw [isSome_reports_after, hs]

/-- The results of a reachable store have the stamps of instants. -/
theorem exists_stamp_of_mem_reports {s : Store m} (h : s.IsReachable) {a : Report m.Stamp}
    (ha : a ∈ s.reports.getD []) : ∃ t, m.stamp? t = some a.reportedAt := by
  refine h.induction (p := fun s => ∀ a ∈ s.reports.getD [], ∃ t, m.stamp? t = some a.reportedAt)
    (fun _ hnone => nomatch hnone) (fun s c hs a ha => ?_) a ha
  rcases s.reports_after c with hsame | ⟨reports, b, t, hreports, hstamp, hadded⟩
  · exact hs a (hsame ▸ ha)
  · rw [hadded, Option.getD_some, List.mem_append, List.mem_singleton] at ha
    rcases ha with ha | rfl
    · exact hs a (by rwa [hreports])
    · exact ⟨t, hstamp⟩

/-- What holds of fresh rows and is kept by the changes that a call makes holds of all rows after
it. -/
theorem rows_after {P : Row m.Stamp → Prop} {s : Store m} (hs : s.IsNumbered)
    (h : ∀ id r, s.find? id = some r → P r) {c : Call}
    (fresh : ∀ o now id stamp, c = .enqueue o now → m.stamp? now = some stamp →
      P (.ofObservation id stamp o))
    (change : ∀ r r', Row.Changes m c r r' → P r → P r') :
    ∀ id r, (s.after c).find? id = some r → P r := by
  intro id r hr
  cases hfind : s.find? id with
  | none =>
    obtain ⟨o, now, stamp, hc, hstamp, -, rfl⟩ := find?_after_of_none hfind hr
    exact fresh o now id stamp hc hstamp
  | some q =>
    obtain ⟨r', hr', hchange⟩ := find?_after hs c hfind
    cases hr.symm.trans hr'
    exact change q r hchange (h id q hfind)

/-- What holds of all rows is kept by every call, and so it holds of every reachable store. -/
theorem rows_of_isReachable {P : Row m.Stamp → Prop}
    (fresh : ∀ o now id stamp, m.stamp? now = some stamp → P (.ofObservation id stamp o))
    (change : ∀ c r r', Row.Changes m c r r' → P r → P r') {s : Store m} (h : s.IsReachable) :
    ∀ id r, s.find? id = some r → P r :=
  (h.induction (p := fun s => s.IsNumbered ∧ ∀ id r, s.find? id = some r → P r)
    ⟨List.Pairwise.nil, fun _ _ hr => nomatch hr⟩
    fun _ c hs => ⟨isNumbered_after hs.1 c, rows_after hs.1 hs.2
      (fun o now id stamp _ => fresh o now id stamp) fun r r' => change c r r'⟩).2

/-- Every count of claims is one. -/
def IsCounted (s : Store m) : Prop :=
  ∀ id r, s.find? id = some r → ∃ n : Nat, r.attempts = .counted n

theorem isCounted_after {s : Store m} (hs : s.IsNumbered) (hcounted : s.IsCounted) (c : Call) :
    (s.after c).IsCounted :=
  rows_after hs hcounted (fun _ _ _ _ _ _ => ⟨0, rfl⟩) fun _ _ h ⟨_, hn⟩ => h.attempts hn

theorem isCounted_of_isReachable {s : Store m} (h : s.IsReachable) : s.IsCounted :=
  rows_of_isReachable (fun _ _ _ _ _ => ⟨0, rfl⟩) (fun _ _ _ h ⟨_, hn⟩ => h.attempts hn) h

/-- Every count of claims is one that the medium keeps. -/
theorem keepsCount_of_isReachable (hm : m.IsBackend) {s : Store m} (h : s.IsReachable) :
    ∀ id r, s.find? id = some r → m.keepsCount r.attempts = true :=
  rows_of_isReachable (fun _ _ _ _ _ => Medium.keepsCount_of_le hm (n := 0) fun _ => by decide)
    (fun _ _ _ h => h.keepsCount) h

/-- All rows hold what the backlog writes. -/
theorem isWritten_of_isReachable {s : Store m} (h : s.IsReachable) :
    ∀ id r, s.find? id = some r → r.IsWritten :=
  rows_of_isReachable (fun o _ id stamp _ => Row.isWritten_ofObservation id stamp o)
    (fun _ _ _ h => h.isWritten) h

/-- Every stamp in a row is that of an instant. -/
def IsStamped (s : Store m) : Prop :=
  ∀ id r, s.find? id = some r → ∀ x ∈ r.stamps, ∃ t, m.stamp? t = some x

theorem isStamped_of_isReachable {s : Store m} (h : s.IsReachable) : s.IsStamped := by
  refine rows_of_isReachable (fun o now id stamp hstamp x hx => ?_)
    (fun c r r' h hr x hx => ?_) h
  · have hsame : x = stamp := by simpa [Row.stamps, Row.ofObservation] using hx
    exact ⟨now, hsame ▸ hstamp⟩
  · rcases h.mem_stamps hx with hx | ⟨t, -, ht⟩
    · exact hr x hx
    · exact ⟨t, ht⟩

/-! ## Runs -/

theorem afterAll_append (s : Store m) (first second : List Call) :
    s.afterAll (first ++ second) = (s.afterAll first).afterAll second :=
  List.foldl_append ..

theorem IsReachable.afterAll {s : Store m} (h : s.IsReachable) (calls : List Call) :
    (s.afterAll calls).IsReachable := by
  obtain ⟨before, rfl⟩ := h
  exact ⟨before ++ calls, (afterAll_append ..).symm⟩

theorem IsReachable.after {s : Store m} (h : s.IsReachable) (c : Call) : (s.after c).IsReachable :=
  h.afterAll [c]

/-- No run takes an item away, or makes it one of another kind. -/
theorem find?_afterAll {s : Store m} (hs : s.IsNumbered) (calls : List Call) {id : Int}
    {r : Row m.Stamp} (hr : s.find? id = some r) :
    ∃ r', (s.afterAll calls).find? id = some r' ∧ r'.eventType = r.eventType := by
  induction calls generalizing s r with
  | nil => exact ⟨r, hr, rfl⟩
  | cons c calls ih =>
    obtain ⟨q, hq, hchange⟩ := find?_after hs c hr
    obtain ⟨r', hr', hkind⟩ := ih (isNumbered_after hs c) hq
    exact ⟨r', hr', hkind.trans hchange.eventType⟩

/-- Something holds of every call of a run and of the store that it finds. -/
def Along (p : Store m → Call → Prop) : Store m → List Call → Prop
  | _, [] => True
  | s, c :: calls => p s c ∧ Along p (s.after c) calls

/-- What every call of a run keeps holds at its end. -/
theorem along_induction {p : Store m → Call → Prop} {I : Store m → Prop}
    (step : ∀ s c, p s c → I s → I (s.after c)) {s : Store m} {calls : List Call}
    (h : s.Along p calls) (hs : I s) : I (s.afterAll calls) := by
  induction calls generalizing s with
  | nil => exact hs
  | cons c calls ih => exact ih h.2 (step s c h.1 hs)

end Store

end ArtifactRelay.Backlog
