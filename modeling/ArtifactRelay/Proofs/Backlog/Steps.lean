import ArtifactRelay.Backlog.Call
import ArtifactRelay.Proofs.Backlog.Rows

/-!
# ArtifactRelay.Proofs.Backlog.Steps

What one operation answers and leaves.  Each has one lemma that lists its cases
(`enqueue_cases`, `claimNext_cases`, `registerHash_cases`, `record_cases`), and what
is proved about runs rests on these lists alone.

An operation is prepared by steps that may fail, so its cases are read off what the
last of them answers: `bind_eq_ok` and `bind_eq_error` take the steps apart.
-/

namespace ArtifactRelay

open Text Time

/-- The texts that an outcome writes. -/
def Outcome.texts : Outcome → List String
  | forwarded _ response contentHash => response :: contentHash.toList
  | dead reason duplicateOf => reason :: duplicateOf.toList
  | retry reason => [reason]

/-- The texts of an observation. -/
def Observation.texts (o : Observation) : List String :=
  o.eventType :: o.sourceIp ::
    (o.filenameHint.toList ++ o.storedNameHint.toList ++ o.loggedHash.toList)

namespace Backlog

/-! ## Steps that may fail -/

theorem bind_eq_ok {ε α β : Type} {x : Except ε α} {f : α → Except ε β} {b : β} :
    x >>= f = .ok b ↔ ∃ a, x = .ok a ∧ f a = .ok b := by
  cases x <;> simp [bind, Except.bind]

/-- A step that is taken under a condition alone. -/
theorem ite_bind_eq_ok {ε β : Type} {c : Prop} [Decidable c] {x : Except ε Unit}
    {f : Unit → Except ε β} {b : β} :
    (if c then x >>= f else f ()) = .ok b ↔ (c → x = .ok ()) ∧ f () = .ok b := by
  split
  · rename_i hc
    rw [bind_eq_ok]
    exact ⟨fun ⟨_, hx, hf⟩ => ⟨fun _ => hx, hf⟩, fun ⟨hx, hf⟩ => ⟨(), hx hc, hf⟩⟩
  · rename_i hc
    exact ⟨fun hf => ⟨fun h => absurd h hc, hf⟩, And.right⟩

theorem bind_eq_error {ε α β : Type} {x : Except ε α} {f : α → Except ε β} {e : ε} :
    x >>= f = .error e ↔ x = .error e ∨ ∃ a, x = .ok a ∧ f a = .error e := by
  cases x <;> simp [bind, Except.bind]

namespace Medium

variable {m : Medium}

theorem require_eq_ok {kept : Bool} {u : Unit} : m.require kept = .ok u ↔ kept = true := by
  cases kept <;> simp [require]

theorem require_eq_error {kept : Bool} {e : Error} :
    m.require kept = .error e ↔ kept = false ∧ e = m.refusal := by
  cases kept <;> simp [require, eq_comm]

theorem stamp_eq_ok {t : Instant} {x : m.Stamp} : m.stamp t = .ok x ↔ m.stamp? t = some x := by
  unfold stamp
  cases m.stamp? t <;> simp

theorem stamp_eq_error {t : Instant} {e : Error} :
    m.stamp t = .error e ↔ m.stamp? t = none ∧ e = m.refusal := by
  unfold stamp
  cases m.stamp? t <;> simp [eq_comm]

theorem stampOption_eq_ok {t : Option Instant} {x : Option m.Stamp} :
    m.stampOption t = .ok x ↔ t.bind m.stamp? = x ∧ t.isSome = x.isSome := by
  cases t with
  | none => cases x <;> simp [stampOption]
  | some u =>
    unfold stampOption stamp
    cases hu : m.stamp? u <;> cases x <;> simp [Except.map, hu]

theorem stampOption_eq_error {t : Option Instant} {e : Error} :
    m.stampOption t = .error e ↔ (∃ u, t = some u ∧ m.stamp? u = none) ∧ e = m.refusal := by
  cases t with
  | none => simp [stampOption]
  | some u =>
    unfold stampOption stamp
    cases hu : m.stamp? u <;> simp [Except.map, hu, eq_comm]

/-- An outcome is refused for one of its texts. -/
theorem requireOutcome_eq_error {o : Outcome} {e : Error}
    (h : Store.requireOutcome m o = .error e) :
    e = m.refusal ∧ ∃ s ∈ o.texts, m.keepsText s = false := by
  unfold Store.requireOutcome requireText requireTextOption at h
  cases o with
  | forwarded taskRef response contentHash =>
    rcases bind_eq_error.mp h with h | ⟨_, -, h⟩
    · obtain ⟨hs, rfl⟩ := require_eq_error.mp h
      exact ⟨rfl, response, by simp [Outcome.texts], hs⟩
    · obtain ⟨hs, rfl⟩ := require_eq_error.mp h
      cases contentHash with
      | none => cases hs
      | some hash => exact ⟨rfl, hash, by simp [Outcome.texts], hs⟩
  | dead reason duplicateOf =>
    rcases bind_eq_error.mp h with h | ⟨_, -, h⟩
    · obtain ⟨hs, rfl⟩ := require_eq_error.mp h
      exact ⟨rfl, reason, by simp [Outcome.texts], hs⟩
    · obtain ⟨hs, rfl⟩ := require_eq_error.mp h
      cases duplicateOf with
      | none => cases hs
      | some hash => exact ⟨rfl, hash, by simp [Outcome.texts], hs⟩
  | retry reason =>
    obtain ⟨hs, rfl⟩ := require_eq_error.mp h
    exact ⟨rfl, reason, by simp [Outcome.texts], hs⟩

/-! ## Steps that do not fail -/

theorem require_of_kept {kept : Bool} (h : kept = true) : m.require kept = .ok () :=
  require_eq_ok.mpr h

theorem requireText_of_keepsText {s : String} (h : m.keepsText s = true) :
    m.requireText s = .ok () :=
  require_of_kept h

theorem requireTextOption_of_keepsText {s : Option String}
    (h : ∀ text ∈ s.toList, m.keepsText text = true) : m.requireTextOption s = .ok () := by
  refine require_of_kept ?_
  cases s with
  | none => rfl
  | some text => exact h text (by simp)

theorem stampOption_of_kept {t : Option Instant} (h : ∀ u ∈ t, (m.stamp? u).isSome = true) :
    m.stampOption t = .ok (t.bind m.stamp?) := by
  refine stampOption_eq_ok.mpr ⟨rfl, ?_⟩
  cases t with
  | none => rfl
  | some u => exact (h u rfl).symm

/-- A file keeps every instant. -/
theorem stampOption_embedded (t : Option Instant) :
    embedded.stampOption t = .ok (t.map (·.toMicros)) := by
  cases t <;> rfl

/-- An outcome is accepted if its texts are kept. -/
theorem requireOutcome_of_keepsText {o : Outcome} (h : ∀ text ∈ o.texts, m.keepsText text = true) :
    Store.requireOutcome m o = .ok () := by
  cases o with
  | forwarded taskRef response contentHash =>
    have hresponse := requireText_of_keepsText (h response List.mem_cons_self)
    have hhash : m.requireTextOption contentHash = .ok () :=
      requireTextOption_of_keepsText fun text ht => h text (List.mem_cons_of_mem _ ht)
    show (m.requireText response >>= fun _ => m.requireTextOption contentHash) = .ok ()
    rw [hresponse, hhash]
    rfl
  | dead reason duplicateOf =>
    have hreason := requireText_of_keepsText (h reason List.mem_cons_self)
    have hhash : m.requireTextOption duplicateOf = .ok () :=
      requireTextOption_of_keepsText fun text ht => h text (List.mem_cons_of_mem _ ht)
    show (m.requireText reason >>= fun _ => m.requireTextOption duplicateOf) = .ok ()
    rw [hreason, hhash]
    rfl
  | retry reason => exact requireText_of_keepsText (h reason List.mem_cons_self)

end Medium

namespace Store

variable {m : Medium}

/-- What fails while it is prepared changes nothing. -/
theorem perform_cases {α : Type} (s : Store m)
    (prepared : Except Error (Except Error α × Store m)) :
    (∃ e, prepared = .error e ∧ s.perform prepared = (.error e, s)) ∨
      ∃ result, prepared = .ok result ∧ s.perform prepared = result := by
  cases prepared with
  | error e => exact .inl ⟨e, rfl, rfl⟩
  | ok result => exact .inr ⟨result, rfl, rfl⟩

/-! ## The cases of each operation -/

/-- An observation is refused, or it becomes a pending row. -/
theorem enqueue_cases (s : Store m) (o : Observation) (now : Instant) :
    (∃ e, s.enqueue o now = (.error e, s)) ∨
    ∃ stamp, m.stamp? now = some stamp ∧
      s.enqueue o now =
        ((Row.ofObservation s.nextId stamp o).read m,
          ⟨s.rows ++ [Row.ofObservation s.nextId stamp o], s.nextId, s.reports⟩) := by
  unfold enqueue
  rcases perform_cases s _ with ⟨e, -, h⟩ | ⟨result, hresult, h⟩
  · exact .inl ⟨e, h⟩
  · rw [h]
    simp only [bind_eq_ok, Medium.stamp_eq_ok] at hresult
    obtain ⟨_, -, _, -, _, -, _, -, _, -, stamp, hstamp, _, -, hresult⟩ := hresult
    cases hresult
    exact .inr ⟨stamp, hstamp, rfl⟩

/-- A claim is refused, finds nothing, or takes the first claimable row. -/
theorem claimNext_cases (s : Store m) (worker : String) (now : Instant) (lease : Span) :
    (∃ e, s.claimNext worker now lease = (.error e, s)) ∨
    s.claimNext worker now lease = (.ok none, s) ∨
    ∃ expiry lastly stamp row,
      now.add? lease = some expiry ∧ m.stamp? expiry = some lastly ∧ m.stamp? now = some stamp ∧
      m.keepsText worker = true ∧ s.rows.find? (·.isClaimable m stamp) = some row ∧
      m.keepsCount row.attempts.next = true ∧
      s.claimNext worker now lease =
        (((row.claim worker lastly stamp).read m).map some,
          s.modify row.id (·.claim worker lastly stamp)) := by
  unfold claimNext
  rcases perform_cases s _ with ⟨e, -, h⟩ | ⟨result, hresult, h⟩
  · exact .inl ⟨e, h⟩
  · rw [h]
    simp only [bind_eq_ok, Medium.stamp_eq_ok, Medium.requireText, Medium.require_eq_ok] at hresult
    obtain ⟨expiry, hexpiry, lastly, hlastly, stamp, hstamp, _, hworker, hresult⟩ := hresult
    have hadd : now.add? lease = some expiry := by
      unfold leaseEnd at hexpiry
      split at hexpiry
      · rename_i t ht
        cases hexpiry
        exact ht
      · cases hexpiry
    split at hresult
    · cases hresult
      exact .inr (.inl rfl)
    · rename_i row hrow
      simp only [bind_eq_ok, Medium.require_eq_ok] at hresult
      obtain ⟨_, hcount, hresult⟩ := hresult
      cases hresult
      exact .inr (.inr ⟨expiry, lastly, stamp, row, hadd, hlastly, hstamp, hworker, hrow, hcount,
        rfl⟩)

/-- A claim that is handed nothing finds no claimable row, and changes nothing. -/
theorem claimNext_none {s : Store m} {worker : String} {now : Instant} {lease : Span}
    (h : (s.claimNext worker now lease).1 = .ok none) :
    (s.claimNext worker now lease).2 = s ∧
      ∃ stamp, m.stamp? now = some stamp ∧ ∀ r ∈ s.rows, r.isClaimable m stamp = false := by
  unfold claimNext at h ⊢
  rcases perform_cases s _ with ⟨e, -, hcase⟩ | ⟨result, hresult, hcase⟩
  · rw [hcase] at h
    cases h
  · rw [hcase] at h ⊢
    simp only [bind_eq_ok, Medium.stamp_eq_ok] at hresult
    obtain ⟨_, -, _, -, stamp, hstamp, _, -, hresult⟩ := hresult
    split at hresult
    · rename_i hnone
      cases hresult
      refine ⟨rfl, stamp, hstamp, fun r hr => ?_⟩
      simpa using List.find?_eq_none.mp hnone r hr
    · rename_i row hrow
      simp only [bind_eq_ok] at hresult
      obtain ⟨_, -, hresult⟩ := hresult
      cases hresult
      dsimp only at h
      generalize (row.claim worker _ stamp).read m = read at h
      cases read <;> cases h

/-- Whether the rows and the results make `hash` a duplicate for the row `id`. -/
def hasDuplicate (s : Store m) (id : Int) (hash : String) (now : m.Stamp)
    (since : Option m.Stamp) : Bool :=
  s.rows.any (·.duplicates m id hash now since) ||
    (s.reports.getD []).any (·.duplicates m hash since)

/-- The row that is written makes no duplicate for itself. -/
theorem any_duplicates_modify (s : Store m) (id : Int) {f : Row m.Stamp → Row m.Stamp}
    (hf : ∀ r, (f r).id = r.id) (hash : String) (now : m.Stamp) (since : Option m.Stamp) :
    (s.modify id f).rows.any (·.duplicates m id hash now since) =
      s.rows.any (·.duplicates m id hash now since) := by
  unfold modify
  rw [List.any_map]
  congr 1
  funext r
  by_cases hid : r.id = id
  · simp [Row.duplicates, hid, hf]
  · simp [hid]

theorem hasDuplicate_modify (s : Store m) (id : Int) {f : Row m.Stamp → Row m.Stamp}
    (hf : ∀ r, (f r).id = r.id) (hash : String) (now : m.Stamp) (since : Option m.Stamp) :
    (s.modify id f).hasDuplicate id hash now since = s.hasDuplicate id hash now since := by
  unfold hasDuplicate
  rw [any_duplicates_modify s id hf, reports_modify]

/-- A copy that is active makes a duplicate unless it was last written before what counts. -/
theorem exists_since_of_hasDuplicate {s : Store m} {id : Int} {hash : String} {now : m.Stamp}
    {since : Option m.Stamp} (h : s.hasDuplicate id hash now since = false) {r : Row m.Stamp}
    (hr : r ∈ s.rows) (hid : r.id ≠ id) (hcontent : r.contentHash = some hash)
    (hactive : r.isActive m now = true) :
    ∃ first, since = some first ∧ m.atMost first r.updatedAt = false := by
  have hrow := List.any_eq_false.mp (Bool.or_eq_false_iff.mp h).1 r hr
  have hne : (r.id != id) = true := bne_iff_ne.mpr hid
  have hcopy : (r.contentHash == some hash) = true := beq_iff_eq.mpr hcontent
  cases since with
  | none => simp [Row.duplicates, hcopy, hne, hactive] at hrow
  | some first => exact ⟨first, rfl, by simpa [Row.duplicates, hcopy, hne, hactive] using hrow⟩

/-- A registration is refused, or it changes its row and tells what it finds then. -/
theorem registerHash_cases (s : Store m) (id : Int) (hash : String) (now : Instant)
    (since : Option Instant) :
    (∃ e, s.registerHash id hash now since = (.error e, s)) ∨
    ∃ stamp sinceStamp, m.keepsText hash = true ∧ m.stamp? now = some stamp ∧
      since.bind m.stamp? = sinceStamp ∧ since.isSome = sinceStamp.isSome ∧
      s.registerHash id hash now since =
        (.ok ((s.modify id (·.register hash stamp)).hasDuplicate id hash stamp sinceStamp),
          s.modify id (·.register hash stamp)) := by
  unfold registerHash
  rcases perform_cases s _ with ⟨e, -, h⟩ | ⟨result, hresult, h⟩
  · exact .inl ⟨e, h⟩
  · rw [h]
    simp only [bind_eq_ok, Medium.stamp_eq_ok, Medium.stampOption_eq_ok, Medium.requireText,
      Medium.require_eq_ok] at hresult
    obtain ⟨_, hhash, stamp, hstamp, sinceStamp, ⟨hsince, hsome⟩, hresult⟩ := hresult
    refine .inr ⟨stamp, sinceStamp, hhash, hstamp, hsince, hsome, ?_⟩
    unfold hasDuplicate
    split at hresult
    · rename_i reports hreports
      cases hresult
      rw [hreports]
      rfl
    · rename_i hreports
      simp only [bind_eq_ok, Medium.require_eq_ok, Bool.and_eq_true] at hresult
      obtain ⟨_, ⟨hknown, -⟩, hresult⟩ := hresult
      cases hresult
      rw [hknown]
      rfl

/-- A record is refused, or its worker holds the row and the outcome is written. -/
theorem record_cases (s : Store m) (id : Int) (worker : String) (o : Outcome)
    (retryAfter : Option Instant) (now : Instant) :
    (∃ e, s.record id worker o retryAfter now = (.error e, s)) ∨
    ∃ stamp retryStamp row, m.stamp? now = some stamp ∧
      (if o.target = .pending then retryAfter else none).bind m.stamp? = retryStamp ∧
      s.find? id = some row ∧ row.isHeldBy worker = true ∧
      s.record id worker o retryAfter now =
        ((row.conclude o retryStamp stamp).read m,
          s.modify id (·.conclude o retryStamp stamp)) := by
  unfold record
  rcases perform_cases s _ with ⟨e, -, h⟩ | ⟨result, hresult, h⟩
  · exact .inl ⟨e, h⟩
  · rw [h]
    simp only [bind_eq_ok, Medium.stamp_eq_ok, Medium.stampOption_eq_ok] at hresult
    obtain ⟨_, -, _, -, stamp, hstamp, retryStamp, ⟨hretry, -⟩, hresult⟩ := hresult
    split at hresult
    · cases hresult
    · rename_i row hrow
      split at hresult
      · rename_i hheld
        cases hresult
        exact .inr ⟨stamp, retryStamp, row, hstamp, hretry, hrow, hheld, rfl⟩
      · simp only [bind_eq_ok] at hresult
        obtain ⟨_, -, hresult⟩ := hresult
        cases hresult

/-- A record for a row that its worker does not hold changes nothing.  It answers why the row
is not to be written, unless it is refused or the row does not read back. -/
theorem record_of_not_held {s : Store m} {id : Int} {row : Row m.Stamp} {worker : String}
    (hrow : s.find? id = some row) (hheld : row.isHeldBy worker = false) (o : Outcome)
    (retryAfter : Option Instant) (now : Instant) :
    ∃ e, s.record id worker o retryAfter now = (.error e, s) ∧
      ((∃ item, row.read m = .ok item ∧ e = rejectedWrite item worker o.target) ∨
        row.read m = .error e ∨
        (e = m.refusal ∧
          ((∃ text ∈ worker :: o.texts, m.keepsText text = false) ∨
            m.stamp? now = none ∨ ∃ t, retryAfter = some t ∧ m.stamp? t = none))) := by
  unfold record
  rcases perform_cases s _ with ⟨e, herror, h⟩ | ⟨result, hresult, -⟩
  · refine ⟨e, h, ?_⟩
    simp only [bind_eq_error, Medium.requireText, Medium.require_eq_error, Medium.stamp_eq_error,
      Medium.stampOption_eq_error, hrow, hheld, Bool.false_eq_true, if_false] at herror
    rcases herror with ⟨htext, rfl⟩ | ⟨_, -, herror⟩
    · exact .inr (.inr ⟨rfl, .inl ⟨worker, by simp, htext⟩⟩)
    rcases herror with houtcome | ⟨_, -, herror⟩
    · obtain ⟨rfl, text, hmem, htext⟩ := Medium.requireOutcome_eq_error houtcome
      exact .inr (.inr ⟨rfl, .inl ⟨text, by simp [hmem], htext⟩⟩)
    rcases herror with ⟨hnow, rfl⟩ | ⟨_, -, herror⟩
    · exact .inr (.inr ⟨rfl, .inr (.inl hnow)⟩)
    rcases herror with ⟨⟨t, ht, hstamp⟩, rfl⟩ | ⟨_, -, herror⟩
    · split at ht
      · exact .inr (.inr ⟨rfl, .inr (.inr ⟨t, ht, hstamp⟩)⟩)
      · cases ht
    rcases herror with hread | ⟨item, hread, herror⟩
    · exact .inr (.inl hread)
    · cases herror
      exact .inl ⟨item, hread, rfl⟩
  · simp only [bind_eq_ok, hrow, hheld, Bool.false_eq_true, if_false] at hresult
    obtain ⟨_, -, _, -, _, -, _, -, _, -, hresult⟩ := hresult
    cases hresult

/-- A report is refused, or it is added to the results. -/
theorem report_cases (s : Store m) (a : AnalysisRecord) :
    (∃ e, s.report a = (.error e, s)) ∨
    ∃ reports stamp, s.reports = some reports ∧ m.stamp? a.reportedAt = some stamp ∧
      s.report a =
        (.ok (),
          ⟨s.rows, s.lastId, some (reports ++ [⟨a.contentHash, a.taskRef, stamp⟩])⟩) := by
  unfold report
  rcases perform_cases s _ with ⟨e, -, h⟩ | ⟨result, hresult, h⟩
  · exact .inl ⟨e, h⟩
  · rw [h]
    simp only [bind_eq_ok, Medium.stamp_eq_ok] at hresult
    obtain ⟨_, -, stamp, hstamp, hresult⟩ := hresult
    split at hresult
    · cases hresult
    · rename_i reports hreports
      cases hresult
      exact .inr ⟨reports, stamp, hreports, hstamp, rfl⟩

/-! ## Operations whose arguments are kept -/

theorem enqueue_of_kept {s : Store m} {o : Observation} {now : Instant} {stamp : m.Stamp}
    (htexts : ∀ text ∈ o.texts, m.keepsText text = true) (hstamp : m.stamp? now = some stamp)
    (hnext : s.nextId ≤ maxSigned64) :
    s.enqueue o now =
      ((Row.ofObservation s.nextId stamp o).read m,
        ⟨s.rows ++ [Row.ofObservation s.nextId stamp o], s.nextId, s.reports⟩) := by
  have hevent : m.requireText o.eventType = .ok () :=
    Medium.requireText_of_keepsText (htexts _ (by simp [Observation.texts]))
  have hsource : m.requireText o.sourceIp = .ok () :=
    Medium.requireText_of_keepsText (htexts _ (by simp [Observation.texts]))
  have hname : m.requireTextOption o.filenameHint = .ok () :=
    Medium.requireTextOption_of_keepsText fun _ ht => htexts _ (by simp [Observation.texts, ht])
  have hstored : m.requireTextOption o.storedNameHint = .ok () :=
    Medium.requireTextOption_of_keepsText fun _ ht => htexts _ (by simp [Observation.texts, ht])
  have hlogged : m.requireTextOption o.loggedHash = .ok () :=
    Medium.requireTextOption_of_keepsText fun _ ht => htexts _ (by simp [Observation.texts, ht])
  unfold enqueue
  rw [hevent, hsource, hname, hstored, hlogged, Medium.stamp_eq_ok.mpr hstamp,
    Medium.require_of_kept (decide_eq_true hnext)]
  rfl

theorem claimNext_of_out_of_range {s : Store m} {worker : String} {now : Instant} {lease : Span}
    (h : now.add? lease = none) :
    s.claimNext worker now lease = (.error (.config (.leaseOutOfRange lease)), s) := by
  unfold claimNext leaseEnd
  rw [h]
  rfl

theorem claimNext_of_idle {s : Store m} {worker : String} {now expiry : Instant} {lease : Span}
    {lastly stamp : m.Stamp} (hexpiry : now.add? lease = some expiry)
    (hlastly : m.stamp? expiry = some lastly) (hstamp : m.stamp? now = some stamp)
    (hworker : m.keepsText worker = true)
    (hidle : s.rows.find? (·.isClaimable m stamp) = none) :
    s.claimNext worker now lease = (.ok none, s) := by
  unfold claimNext leaseEnd
  rw [hexpiry]
  simp only [bind, Except.bind, Medium.stamp_eq_ok.mpr hlastly, Medium.stamp_eq_ok.mpr hstamp,
    Medium.requireText_of_keepsText hworker, hidle]
  rfl

theorem claimNext_of_claimable {s : Store m} {worker : String} {now expiry : Instant}
    {lease : Span} {lastly stamp : m.Stamp} {row : Row m.Stamp}
    (hexpiry : now.add? lease = some expiry) (hlastly : m.stamp? expiry = some lastly)
    (hstamp : m.stamp? now = some stamp) (hworker : m.keepsText worker = true)
    (hrow : s.rows.find? (·.isClaimable m stamp) = some row)
    (hcount : m.keepsCount row.attempts.next = true) :
    s.claimNext worker now lease =
      (((row.claim worker lastly stamp).read m).map some,
        s.modify row.id (·.claim worker lastly stamp)) := by
  unfold claimNext leaseEnd
  rw [hexpiry]
  simp only [bind, Except.bind, Medium.stamp_eq_ok.mpr hlastly, Medium.stamp_eq_ok.mpr hstamp,
    Medium.requireText_of_keepsText hworker, hrow, Row.attempts_claim,
    Medium.require_of_kept hcount]
  rfl

theorem registerHash_of_kept {s : Store m} {id : Int} {hash : String} {now : Instant}
    {since : Option Instant} {stamp : m.Stamp} {sinceStamp : Option m.Stamp}
    (hhash : m.keepsText hash = true) (hstamp : m.stamp? now = some stamp)
    (hsince : m.stampOption since = .ok sinceStamp) (hreports : s.reports.isSome = true) :
    s.registerHash id hash now since =
      (.ok ((s.modify id (·.register hash stamp)).hasDuplicate id hash stamp sinceStamp),
        s.modify id (·.register hash stamp)) := by
  obtain ⟨reports, hreports⟩ := Option.isSome_iff_exists.mp hreports
  unfold registerHash hasDuplicate
  simp only [bind, Except.bind, Medium.requireText_of_keepsText hhash,
    Medium.stamp_eq_ok.mpr hstamp, hsince, reports_modify, hreports, Option.getD_some]
  rfl

theorem registerHash_of_not_kept {s : Store m} {id : Int} {hash : String} {now : Instant}
    {since : Option Instant} (hhash : m.keepsText hash = false) :
    s.registerHash id hash now since = (.error m.refusal, s) := by
  unfold registerHash
  rw [Medium.requireText, Medium.require_eq_error.mpr ⟨hhash, rfl⟩]
  rfl

theorem record_of_kept {s : Store m} {id : Int} {worker : String} {o : Outcome}
    {retryAfter : Option Instant} {now : Instant} {stamp : m.Stamp} {retryStamp : Option m.Stamp}
    (hworker : m.keepsText worker = true)
    (htexts : ∀ text ∈ o.texts, m.keepsText text = true) (hstamp : m.stamp? now = some stamp)
    (hretry : m.stampOption (if o.target = .pending then retryAfter else none) = .ok retryStamp) :
    s.record id worker o retryAfter now =
      match s.find? id with
      | none => (.error (.noItem id), s)
      | some row =>
        if row.isHeldBy worker then
          ((row.conclude o retryStamp stamp).read m, s.modify id (·.conclude o retryStamp stamp))
        else
          match row.read m with
          | .ok item => (.error (rejectedWrite item worker o.target), s)
          | .error e => (.error e, s) := by
  unfold record
  rw [Medium.requireText_of_keepsText hworker, Medium.requireOutcome_of_keepsText htexts,
    Medium.stamp_eq_ok.mpr hstamp, hretry]
  simp only [bind, Except.bind]
  cases s.find? id with
  | none => rfl
  | some row =>
    dsimp only
    split
    · rfl
    · cases row.read m <;> rfl

theorem report_of_kept {s : Store m} {a : AnalysisRecord} {reports : List (Report m.Stamp)}
    {stamp : m.Stamp} (hhash : m.keepsText a.contentHash = true)
    (hstamp : m.stamp? a.reportedAt = some stamp) (hreports : s.reports = some reports) :
    s.report a =
      (.ok (), ⟨s.rows, s.lastId, some (reports ++ [⟨a.contentHash, a.taskRef, stamp⟩])⟩) := by
  unfold report
  rw [Medium.requireText_of_keepsText hhash, Medium.stamp_eq_ok.mpr hstamp, hreports]
  rfl

/-- The holder of a row retires it as a duplicate, if the medium keeps the texts. -/
theorem record_duplicate_of_held {s : Store m} {id : Int} {row : Row m.Stamp}
    {worker reason hash : String} {now : Instant} {stamp : m.Stamp}
    (hrow : s.find? id = some row) (hheld : row.isHeldBy worker = true)
    (hworker : m.keepsText worker = true) (hreason : m.keepsText reason = true)
    (hhash : m.keepsText hash = true) (hstamp : m.stamp? now = some stamp)
    (retryAfter : Option Instant) :
    s.record id worker (.dead reason (some hash)) retryAfter now =
      ((row.conclude (.dead reason (some hash)) none stamp).read m,
        s.modify id (·.conclude (.dead reason (some hash)) none stamp)) := by
  have htexts : ∀ text ∈ (Outcome.dead reason (some hash)).texts, m.keepsText text = true := by
    simp [Outcome.texts, hreason, hhash]
  rw [record_of_kept hworker htexts hstamp rfl, hrow]
  exact if_pos hheld

end Store

end Backlog

end ArtifactRelay
