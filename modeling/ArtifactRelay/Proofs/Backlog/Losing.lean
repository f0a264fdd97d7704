import ArtifactRelay.Proofs.Backlog.Exclusivity
import ArtifactRelay.Proofs.Backlog.Finality
import ArtifactRelay.Proofs.Backlog.Lifecycle

/-!
# ArtifactRelay.Proofs.Backlog.Losing

How a worker loses an item.  A record that is rejected for a loss is one for an item
that the worker does not hold, and it changes nothing (`isAway_of_loss`).  What a worker
holds it holds until somebody else takes it (`isHeldBy_after`), and what it does not hold
it does not come to hold by what others do (`isAway_after_other`).
-/

namespace ArtifactRelay

open Time

/-- A record was rejected because the worker does not hold the item any more. -/
def Error.isLoss : Error → Bool
  | leaseLost .. | invalidTransition .. => true
  | _ => false

namespace Backlog

/-- The worker that makes a call, if it is one that only workers make. -/
def Call.worker? : Call → Option String
  | claim worker _ _ | record _ worker _ _ _ => some worker
  | enqueue .. | registerHash .. | report .. => none

variable {m : Medium}

/-! ## What a loss means -/

namespace Medium

/-- What a backend says of itself is no loss. -/
theorem isLoss_refusal (hm : m.IsBackend) : m.refusal.isLoss = false := by
  rcases hm with rfl | rfl <;> rfl

theorem isLoss_unreadable (hm : m.IsBackend) : m.unreadable.isLoss = false := by
  rcases hm with rfl | rfl <;> rfl

theorem isLoss_unknownStatus (hm : m.IsBackend) (name : String) :
    (m.unknownStatus name).isLoss = false := by
  rcases hm with rfl | rfl <;> rfl

theorem isLoss_of_instant (hm : m.IsBackend) {x : m.Stamp} {e : Error}
    (h : m.instant x = .error e) : e.isLoss = false := by
  rcases Row.instant_cases x with ⟨-, hread⟩ | ⟨_, hread⟩
  · cases hread.symm.trans h
    exact isLoss_unreadable hm
  · cases hread.symm.trans h

theorem isLoss_of_instantOption (hm : m.IsBackend) {x : Option m.Stamp} {e : Error}
    (h : m.instantOption x = .error e) : e.isLoss = false := by
  rcases Row.instantOption_cases x with ⟨-, hread⟩ | ⟨_, hread⟩
  · cases hread.symm.trans h
    exact isLoss_unreadable hm
  · cases hread.symm.trans h

theorem isLoss_of_number (hm : m.IsBackend) {c : Cell} {e : Error} (h : m.number c = .error e) :
    e.isLoss = false := by
  unfold number at h
  split at h <;> cases h
  exact isLoss_refusal hm

end Medium

/-- That a row does not read back is no loss. -/
theorem Row.isLoss_of_read (hm : m.IsBackend) {r : Row m.Stamp} {e : Error}
    (h : r.read m = .error e) : e.isLoss = false := by
  unfold read at h
  cases hstatus : Status.ofName? r.status with
  | none =>
    simp only [hstatus] at h
    cases h
    exact Medium.isLoss_unknownStatus hm _
  | some status =>
    cases hcount : m.count? r.attempts with
    | none =>
      simp only [hstatus, hcount] at h
      cases h
      exact Medium.isLoss_refusal hm
    | some attempts =>
      simp only [hstatus, hcount, bind_eq_error] at h
      rcases h with h | ⟨_, -, h⟩
      · exact Medium.isLoss_of_instantOption hm h
      rcases h with h | ⟨_, -, h⟩
      · exact Medium.isLoss_of_instantOption hm h
      rcases h with h | ⟨_, -, h⟩
      · exact Medium.isLoss_of_instant hm h
      rcases h with h | ⟨_, -, h⟩
      · exact Medium.isLoss_of_instant hm h
      rcases h with h | ⟨_, -, h⟩
      · exact Medium.isLoss_of_number hm h
      · cases h

namespace Store

variable {s : Store m}

/-- A record that is rejected for a loss is one for an item that the worker does not hold, and
changes nothing. -/
theorem isAway_of_loss (hm : m.IsBackend) {id : Int} {worker : String} {o : Outcome}
    {retryAfter : Option Instant} {now : Instant} {e : Error}
    (h : (s.record id worker o retryAfter now).1 = .error e) (hloss : e.isLoss = true) :
    (s.record id worker o retryAfter now).2 = s ∧ s.IsAway id worker := by
  have hrefusal : e ≠ m.refusal := by
    rintro rfl
    rw [Medium.isLoss_refusal hm] at hloss
    cases hloss
  unfold record at h ⊢
  rcases perform_cases s _ with ⟨f, herror, hcase⟩ | ⟨result, hresult, hcase⟩
  · rw [hcase] at h ⊢
    cases h
    refine ⟨rfl, ?_⟩
    simp only [bind_eq_error, Medium.requireText, Medium.require_eq_error, Medium.stamp_eq_error,
      Medium.stampOption_eq_error] at herror
    rcases herror with ⟨-, h⟩ | ⟨_, -, herror⟩
    · exact absurd h hrefusal
    rcases herror with houtcome | ⟨_, -, herror⟩
    · exact absurd (Medium.requireOutcome_eq_error houtcome).1 hrefusal
    rcases herror with ⟨-, h⟩ | ⟨_, -, herror⟩
    · exact absurd h hrefusal
    rcases herror with ⟨-, h⟩ | ⟨_, -, herror⟩
    · exact absurd h hrefusal
    split at herror
    · cases herror
      cases hloss
    · rename_i row hrow
      split at herror
      · cases herror
      · rename_i hheld
        exact ⟨row, hrow, Bool.eq_false_iff.mpr hheld⟩
  · rw [hcase] at h ⊢
    simp only [bind_eq_ok] at hresult
    obtain ⟨_, -, _, -, _, -, _, -, hresult⟩ := hresult
    split at hresult
    · cases hresult
    · split at hresult
      · cases hresult
        rw [Row.isLoss_of_read hm h] at hloss
        cases hloss
      · obtain ⟨_, -, hresult⟩ := bind_eq_ok.mp hresult
        cases hresult

/-! ## What others change -/

/-- An item that is not claimed is with nobody. -/
theorem HasStatus.isAway {id : Int} {status : Status} (h : s.HasStatus id status) (hne : status ≠ .claimed)
    (worker : String) : s.IsAway id worker := by
  obtain ⟨r, hr, hin⟩ := h
  exact ⟨r, hr, Bool.eq_false_iff.mpr fun hheld =>
    hne (Row.eq_of_isIn hin (Row.isIn_of_isHeldBy hheld))⟩

/-- A call leaves a finished item in its state. -/
theorem hasStatus_after (hs : s.IsNumbered) (c : Call) {id : Int} {status : Status}
    (hterminal : status.isTerminal = true) (h : s.HasStatus id status) :
    (s.after c).HasStatus id status := by
  obtain ⟨r, hr, hin⟩ := h
  have hfinal : r.IsFinal := by
    cases status with
    | forwarded => exact .inl hin
    | dead => exact .inr hin
    | pending | claimed => cases hterminal
  obtain ⟨r', hr', hfrom⟩ := isRegisteredFrom_after hs hfinal hr (Row.isRegisteredFrom_refl r) c
  refine ⟨r', hr', ?_⟩
  rw [hfrom.rest]
  exact hin

/-- What a worker holds it holds after a call of somebody else, unless the call takes it. -/
theorem isHeldBy_after (hs : s.IsNumbered) {c : Call} {worker : String}
    (hc : c.worker? ≠ some worker) {id : Int} {r : Row m.Stamp} (hr : s.find? id = some r)
    (hheld : r.isHeldBy worker = true) :
    (∃ r', (s.after c).find? id = some r' ∧ r'.isHeldBy worker = true) ∨
      ∃ v now lease, c = .claim v now lease ∧ v ≠ worker ∧ s.Takes id v now lease := by
  obtain ⟨r', hr', hchange⟩ := find?_after hs c hr
  cases hchange with
  | same => exact .inl ⟨r, hr', hheld⟩
  | @claim v now _ lease lastly stamp =>
    have hv : v ≠ worker := fun hv => hc (congrArg some hv)
    refine .inr ⟨v, now, lease, rfl, hv, fun hsame => hv ?_⟩
    -- the row names another holder than before
    have hrow : some (r.claim v lastly stamp) = some r := hr'.symm.trans (hsame.trans hr)
    rw [← Option.some.inj hrow] at hheld
    exact Row.isHeldBy_claim.mp hheld
  | register => exact .inl ⟨_, hr', hheld⟩
  | conclude _ _ hw => exact absurd (congrArg some (Row.eq_of_isHeldBy hw hheld)) hc

/-- What a worker does not hold it does not hold after a call of somebody else. -/
theorem isAway_after_other (hs : s.IsNumbered) {c : Call} {worker : String}
    (hc : c.worker? ≠ some worker) {id : Int} (h : s.IsAway id worker) :
    (s.after c).IsAway id worker := by
  refine isAway_after hs (fun now lease hclaim => ?_) h
  subst hclaim
  exact absurd rfl hc

theorem isAway_afterAll_others {worker : String} {calls : List Call}
    (hcalls : ∀ c ∈ calls, c.worker? ≠ some worker) (hs : s.IsNumbered) {id : Int}
    (h : s.IsAway id worker) : (s.afterAll calls).IsAway id worker := by
  induction calls generalizing s with
  | nil => exact h
  | cons c calls ih =>
    exact ih (fun d hd => hcalls d (List.mem_cons_of_mem c hd)) (isNumbered_after hs c)
      (isAway_after_other hs (hcalls c List.mem_cons_self) h)

end Store

end Backlog

end ArtifactRelay
