import ArtifactRelay.Proofs.Backlog.Runs

/-!
# ArtifactRelay.Proofs.Backlog.Reading

Which items of a reachable store read back.  All do, but for two kinds: in a file,
one that was claimed more often than a number of 32 bits can say is refused
(`IsOvercounted`); on a server, one that holds the leap second after the end of the
calendar stops the program that reads it (`IsUntold`).

An operation that has taken effect answers from the row that it wrote.  So one that
fails has written nothing or stopped at an item that cannot be told, unless it is
overcounted (`FailsCleanly`).
-/

namespace ArtifactRelay.Backlog

open Text Time

namespace Store

variable {m : Medium}

/-- The count of claims of an item is past what an embedded database reads back. -/
def IsOvercounted (s : Store m) (id : Int) : Prop :=
  m = .embedded ∧ ∃ r n, s.find? id = some r ∧ r.attempts = .counted n ∧ 4294967295 < n

/-- A server keeps an instant from after the end of the calendar in the item. -/
def IsUntold (s : Store m) (id : Int) : Prop :=
  m = .server ∧ ∃ r x t, s.find? id = some r ∧ x ∈ r.stamps ∧ m.stamp? t = some x ∧
    Instant.latest < t

/-- A row reads back, or its count is past reading, or one of its instants is. -/
theorem read_cases (hm : m.IsBackend) {s : Store m} (hs : s.IsReachable) {id : Int}
    {r : Row m.Stamp} (hr : s.find? id = some r) :
    (∃ item, r.read m = .ok item) ∨
      (r.read m = .error m.refusal ∧ s.IsOvercounted id) ∨
        (r.read m = .error .interrupted ∧ s.IsUntold id) := by
  have hwritten := isWritten_of_isReachable hs id r hr
  rcases hwritten.read_cases with ⟨hcount, hread⟩ | ⟨-, ⟨⟨x, hx, hnone⟩, hread⟩ | hitem⟩
  · obtain ⟨n, hn⟩ := hwritten.attempts
    have hkept := keepsCount_of_isReachable hm hs id r hr
    rw [hn] at hcount hkept
    obtain ⟨hfile, hlt⟩ := Medium.count?_eq_none hm hkept hcount
    exact .inr (.inl ⟨hread, hfile, r, n, hr, hn, hlt⟩)
  · obtain ⟨t, ht⟩ := isStamped_of_isReachable hs id r hr x hx
    have hnot : ¬ (m = .server → t ≤ Instant.latest) := fun hle => by
      have hsome := Medium.readsBack_of_le_latest hm hle x ht
      rw [hnone] at hsome
      cases hsome
    obtain ⟨hserver, hlate⟩ := Classical.not_imp.mp hnot
    refine .inr (.inr ⟨?_, hserver, r, x, t, hr, hx, ht, Instant.not_le.mp hlate⟩)
    subst hserver
    exact hread
  · exact .inl hitem

/-- What cannot be told is not read. -/
theorem IsUntold.get_ne_ok {s : Store m} {id : Int} (h : s.IsUntold id) (item : WorkItem) :
    s.get id ≠ .ok item := by
  obtain ⟨rfl, r, x, t, hr, hx, hstamp, hlate⟩ := h
  intro hget
  rw [get, hr] at hget
  have hnone : Medium.server.instant? x = none := Medium.instant?_eq_none_of_late hstamp hlate
  have hsome := (Row.reads_of_read hget).instant?_isSome x hx
  rw [hnone] at hsome
  cases hsome

/-! ## Steps whose errors are their own -/

/-- All errors of a step are its own. -/
def AnswersOwn {α : Type} (x : Except Error α) : Prop := ∀ e, x = .error e → e.isOwn = true

section

variable {α β : Type}

theorem answersOwn_ok (a : α) : AnswersOwn (.ok a) := nofun

theorem answersOwn_bind {x : Except Error α} {f : α → Except Error β} (hx : AnswersOwn x)
    (hf : ∀ a, AnswersOwn (f a)) : AnswersOwn (x >>= f) := by
  intro e he
  rcases bind_eq_error.mp he with he | ⟨a, -, he⟩
  · exact hx e he
  · exact hf a e he

theorem isOwn_refusal (hm : m.IsBackend) : m.refusal.isOwn = true := by
  rcases hm with rfl | rfl <;> rfl

theorem answersOwn_require (hm : m.IsBackend) (kept : Bool) : AnswersOwn (m.require kept) :=
  fun _ he => (Medium.require_eq_error.mp he).2 ▸ isOwn_refusal hm

theorem answersOwn_stamp (hm : m.IsBackend) (t : Instant) : AnswersOwn (m.stamp t) :=
  fun _ he => (Medium.stamp_eq_error.mp he).2 ▸ isOwn_refusal hm

theorem answersOwn_stampOption (hm : m.IsBackend) (t : Option Instant) :
    AnswersOwn (m.stampOption t) :=
  fun _ he => (Medium.stampOption_eq_error.mp he).2 ▸ isOwn_refusal hm

theorem answersOwn_leaseEnd (now : Instant) (lease : Span) : AnswersOwn (leaseEnd now lease) := by
  intro e he
  unfold leaseEnd at he
  split at he <;> cases he
  rfl

theorem isOwn_rejectedWrite (item : WorkItem) (worker : String) (target : Status) :
    (rejectedWrite item worker target).isOwn = true := by
  unfold rejectedWrite
  split <;> rfl

end

/-! ## Operations that fail -/

/-- What failed answered an error of its own and changed nothing, or stopped at an item that
cannot be told. -/
def FailsCleanly (s s' : Store m) (e : Error) : Prop :=
  (e.isOwn = true ∧ s' = s) ∨ (e = .interrupted ∧ ∃ id, s'.IsUntold id)

theorem FailsCleanly.eq_of_isOwn {s s' : Store m} {e : Error} (h : FailsCleanly s s' e)
    (hown : e.isOwn = true) : s' = s := by
  rcases h with ⟨-, hsame⟩ | ⟨rfl, -⟩
  · exact hsame
  · cases hown

/-- An operation that answers from a row of the store that it leaves fails because the item cannot
be told, if its count reads back. -/
theorem failsCleanly_of_read (hm : m.IsBackend) {s s' : Store m} (hs' : s'.IsReachable) {id : Int}
    {r : Row m.Stamp} (hr : s'.find? id = some r) (hcount : ¬ s'.IsOvercounted id) {e : Error}
    (h : r.read m = .error e) : FailsCleanly s s' e := by
  rcases read_cases hm hs' hr with ⟨item, hread⟩ | ⟨-, hover⟩ | ⟨hread, huntold⟩
  · cases hread.symm.trans h
  · exact absurd hover hcount
  · cases hread.symm.trans h
    exact .inr ⟨rfl, id, huntold⟩

section

variable {s : Store m} {e : Error}

theorem enqueue_of_error (hm : m.IsBackend) (hs : s.IsReachable) {o : Observation}
    {now : Instant} (h : (s.enqueue o now).1 = .error e) :
    FailsCleanly s (s.enqueue o now).2 e := by
  have hafter : (s.enqueue o now).2.IsReachable := hs.after (.enqueue o now)
  unfold enqueue at h hafter ⊢
  rcases perform_cases s _ with ⟨f, herror, hcase⟩ | ⟨result, hresult, hcase⟩
  · rw [hcase] at h ⊢
    cases h
    refine .inl ⟨?_, rfl⟩
    refine answersOwn_bind (answersOwn_require hm _) (fun _ => ?_) e herror
    refine answersOwn_bind (answersOwn_require hm _) fun _ => ?_
    refine answersOwn_bind (answersOwn_require hm _) fun _ => ?_
    refine answersOwn_bind (answersOwn_require hm _) fun _ => ?_
    refine answersOwn_bind (answersOwn_require hm _) fun _ => ?_
    refine answersOwn_bind (answersOwn_stamp hm _) fun _ => ?_
    exact answersOwn_bind (answersOwn_require hm _) fun _ => answersOwn_ok _
  · rw [hcase] at h hafter ⊢
    simp only [bind_eq_ok] at hresult
    obtain ⟨_, -, _, -, _, -, _, -, _, -, stamp, -, _, -, hresult⟩ := hresult
    cases hresult
    have hfind := find?_of_mem (isNumbered_of_isReachable hafter)
      (r := .ofObservation s.nextId stamp o) (by simp)
    refine failsCleanly_of_read hm hafter hfind ?_ h
    rintro ⟨-, r, n, hr, hn, hlt⟩
    -- a fresh item was never claimed
    cases hfind.symm.trans hr
    have hnone : n = 0 := (Cell.counted_inj (Nat.zero_le _)).mp hn.symm
    omega

theorem claimNext_of_error (hm : m.IsBackend) (hs : s.IsReachable) {worker : String}
    {now : Instant} {lease : Span}
    (hcount : ∀ r ∈ s.rows, ∀ n : Nat, r.attempts = .counted n → n < 4294967295)
    (h : (s.claimNext worker now lease).1 = .error e) :
    FailsCleanly s (s.claimNext worker now lease).2 e := by
  have hafter : (s.claimNext worker now lease).2.IsReachable := hs.after (.claim worker now lease)
  unfold claimNext at h hafter ⊢
  rcases perform_cases s _ with ⟨f, herror, hcase⟩ | ⟨result, hresult, hcase⟩
  · rw [hcase] at h ⊢
    cases h
    refine .inl ⟨?_, rfl⟩
    refine answersOwn_bind (answersOwn_leaseEnd now lease) (fun _ => ?_) e herror
    refine answersOwn_bind (answersOwn_stamp hm _) fun _ => ?_
    refine answersOwn_bind (answersOwn_stamp hm _) fun _ => ?_
    refine answersOwn_bind (answersOwn_require hm _) fun _ => ?_
    split
    · exact answersOwn_ok _
    · exact answersOwn_bind (answersOwn_require hm _) fun _ => answersOwn_ok _
  · rw [hcase] at h hafter ⊢
    simp only [bind_eq_ok] at hresult
    obtain ⟨_, -, lastly, -, stamp, -, _, -, hresult⟩ := hresult
    split at hresult
    · cases hresult
      cases h
    · rename_i row hrow
      obtain ⟨_, -, hresult⟩ := bind_eq_ok.mp hresult
      cases hresult
      have hmem := List.mem_of_find?_eq_some hrow
      have hbefore := find?_of_mem (isNumbered_of_isReachable hs) hmem
      have hfind : (s.modify row.id (·.claim worker lastly stamp)).find? row.id =
          some (row.claim worker lastly stamp) :=
        find?_modify_self (fun _ => Row.id_claim ..) hbefore
      refine failsCleanly_of_read hm hafter hfind ?_ ?_
      · rintro ⟨-, r, k, hr, hk, hlt⟩
        cases hfind.symm.trans hr
        obtain ⟨n, hn⟩ := isCounted_of_isReachable hs _ _ hbefore
        have hroom := hcount row hmem n hn
        have hfits : n + 1 ≤ maxSigned64 := Nat.le_trans hroom (by decide)
        rw [Row.attempts_claim, hn, Cell.next_counted] at hk
        have hsame := (Cell.counted_inj hfits).mp hk.symm
        omega
      · dsimp only at h
        cases hread : (row.claim worker lastly stamp).read m with
        | ok item => rw [hread] at h; cases h
        | error f => rw [hread] at h; cases h; rfl

theorem registerHash_of_error (hm : m.IsBackend) {id : Int} {hash : String} {now : Instant}
    {since : Option Instant} (h : (s.registerHash id hash now since).1 = .error e) :
    FailsCleanly s (s.registerHash id hash now since).2 e := by
  unfold registerHash at h ⊢
  rcases perform_cases s _ with ⟨f, herror, hcase⟩ | ⟨result, hresult, hcase⟩
  · rw [hcase] at h ⊢
    cases h
    refine .inl ⟨?_, rfl⟩
    refine answersOwn_bind (answersOwn_require hm _) (fun _ => ?_) e herror
    refine answersOwn_bind (answersOwn_stamp hm _) fun _ => ?_
    refine answersOwn_bind (answersOwn_stampOption hm _) fun _ => ?_
    dsimp only
    split
    · exact answersOwn_ok _
    · exact answersOwn_bind (answersOwn_require hm _) fun _ => answersOwn_ok _
  · rw [hcase] at h
    simp only [bind_eq_ok] at hresult
    obtain ⟨_, -, _, -, _, -, hresult⟩ := hresult
    split at hresult
    · cases hresult
      cases h
    · obtain ⟨_, -, hresult⟩ := bind_eq_ok.mp hresult
      cases hresult
      cases h

theorem record_of_error (hm : m.IsBackend) (hs : s.IsReachable) {id : Int} {worker : String}
    {o : Outcome} {retryAfter : Option Instant} {now : Instant} (hcount : ¬ s.IsOvercounted id)
    (h : (s.record id worker o retryAfter now).1 = .error e) :
    FailsCleanly s (s.record id worker o retryAfter now).2 e := by
  have hafter : (s.record id worker o retryAfter now).2.IsReachable :=
    hs.after (.record id worker o retryAfter now)
  unfold record at h hafter ⊢
  rcases perform_cases s _ with ⟨f, herror, hcase⟩ | ⟨result, hresult, hcase⟩
  · rw [hcase] at h ⊢
    cases h
    rcases bind_eq_error.mp herror with herror | ⟨_, -, herror⟩
    · exact .inl ⟨answersOwn_require hm _ _ herror, rfl⟩
    rcases bind_eq_error.mp herror with herror | ⟨_, -, herror⟩
    · exact .inl ⟨(Medium.requireOutcome_eq_error herror).1 ▸ isOwn_refusal hm, rfl⟩
    rcases bind_eq_error.mp herror with herror | ⟨_, -, herror⟩
    · exact .inl ⟨answersOwn_stamp hm _ _ herror, rfl⟩
    rcases bind_eq_error.mp herror with herror | ⟨_, -, herror⟩
    · exact .inl ⟨answersOwn_stampOption hm _ _ herror, rfl⟩
    split at herror
    · cases herror
      exact .inl ⟨rfl, rfl⟩
    · rename_i row hrow
      split at herror
      · cases herror
      -- the item is told to say why nothing is written
      · rcases bind_eq_error.mp herror with hread | ⟨item, -, herror⟩
        · exact failsCleanly_of_read hm hs hrow hcount hread
        · cases herror
          exact .inl ⟨isOwn_rejectedWrite .., rfl⟩
  · rw [hcase] at h hafter ⊢
    simp only [bind_eq_ok] at hresult
    obtain ⟨_, -, _, -, stamp, -, retryStamp, -, hresult⟩ := hresult
    split at hresult
    · cases hresult
    · rename_i row hrow
      split at hresult
      · cases hresult
        have hfind : (s.modify id (·.conclude o retryStamp stamp)).find? id =
            some (row.conclude o retryStamp stamp) :=
          find?_modify_self (fun _ => Row.id_conclude ..) hrow
        refine failsCleanly_of_read hm hafter hfind ?_ h
        rintro ⟨hfile, r, n, hr, hn, hlt⟩
        cases hfind.symm.trans hr
        exact hcount ⟨hfile, row, n, hrow, by rwa [Row.attempts_conclude] at hn, hlt⟩
      · obtain ⟨_, -, hresult⟩ := bind_eq_ok.mp hresult
        cases hresult

theorem report_of_error (hm : m.IsBackend) {a : AnalysisRecord}
    (h : (s.report a).1 = .error e) : FailsCleanly s (s.report a).2 e := by
  unfold report at h ⊢
  rcases perform_cases s _ with ⟨f, herror, hcase⟩ | ⟨result, hresult, hcase⟩
  · rw [hcase] at h ⊢
    cases h
    refine .inl ⟨?_, rfl⟩
    refine answersOwn_bind (answersOwn_require hm _) (fun _ => ?_) e herror
    refine answersOwn_bind (answersOwn_stamp hm _) fun _ => ?_
    split
    · exact fun _ he => by cases he; exact isOwn_refusal hm
    · exact answersOwn_ok _
  · rw [hcase] at h
    simp only [bind_eq_ok] at hresult
    obtain ⟨_, -, _, -, hresult⟩ := hresult
    split at hresult
    · cases hresult
    · cases hresult
      cases h

end

end Store

end ArtifactRelay.Backlog
