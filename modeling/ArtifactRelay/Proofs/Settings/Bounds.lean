import ArtifactRelay.Proofs.Backlog.Stamps
import ArtifactRelay.Proofs.Backlog.Steps
import ArtifactRelay.Settings

/-!
# ArtifactRelay.Proofs.Settings.Bounds

Settings that load cannot break the clock.  What is read from the variables is within its
bounds (`WorkerSettings.IsBounded`), and the bounds are such that the end of a lease, the end of
a backoff and the start of the window are instants of the years 0 to 9999 at every clock from
1970 up to 30 days before the end of year 9999.  There the texts that an embedded database keeps
compare as the instants do.

Leases, windows and backoffs are whole seconds, so what they are added to keeps its place within
the second, and the second itself is all that has to be followed (`add?_ofSeconds`).
-/

namespace ArtifactRelay

open Text Time

/-! ## Whole seconds -/

theorem Time.Span.ofMinutes_eq (k : Int) : Span.ofMinutes k = .ofSeconds (k * 60) := by
  unfold ofMinutes ofSeconds
  rw [Int.mul_assoc]
  rfl

namespace Time.Delay

theorem nanos_ofSeconds (k : Nat) : (ofSeconds k).nanos = k * 1000000000 := by
  simp [ofSeconds, ofParts]

theorem min_ofSeconds (j k : Nat) :
    (ofSeconds j).min (ofSeconds k) = ofSeconds (Min.min j k) := by
  have hle : (ofSeconds j).nanos ≤ (ofSeconds k).nanos ↔ j ≤ k := by
    rw [nanos_ofSeconds, nanos_ofSeconds]
    omega
  unfold Delay.min
  simp only [hle]
  split
  · rw [Nat.min_eq_left (by assumption)]
  · rw [Nat.min_eq_right (by omega)]

/-- Whole seconds stay whole when they are repeated. -/
theorem exists_of_times? {j factor : Nat} {d : Delay}
    (h : (ofSeconds j).times? factor = some d) : ∃ k, d = ofSeconds k := by
  unfold times? at h
  split at h
  · cases h
    refine ⟨j * factor, ?_⟩
    rw [nanos_ofSeconds, Nat.mul_right_comm, ← nanos_ofSeconds]
  · cases h

end Time.Delay

namespace Time.Instant

/-- So many seconds later there is an instant, in that second. -/
theorem add?_ofSeconds {t : Instant} {k : Int} (hk : 0 ≤ k)
    (hlast : t.seconds + k ≤ latestSecond) :
    ∃ u, t.add? (.ofSeconds k) = some u ∧ u.seconds = t.seconds + k := by
  have hfirst := t.earliest_le
  have hnanos := t.nanos_lt
  have hwhole : (Span.ofSeconds k).nanos.tdiv 1000000000 = k := Int.mul_tdiv_cancel k (by decide)
  have hpart : (Span.ofSeconds k).nanos.tmod 1000000000 = 0 := Int.mul_tmod_left k _
  have hsum : (Span.ofSeconds k).nanos = k * 1000000000 := rfl
  have hadd : ∀ n : Int, n / 1000000000 = t.seconds + k →
      ∃ u, ofNanos? n = some u ∧ u.seconds = t.seconds + k := by
    intro n hn
    obtain ⟨u, hu⟩ := Option.isSome_iff_exists.mp
      (ofNanos?_isSome_iff.mpr (show earliestSecond ≤ n / 1000000000 ∧ _ by omega))
    exact ⟨u, hu, (ofParts?_eq_some_iff.mp hu).1.trans hn⟩
  unfold add?
  dsimp only
  rw [hwhole, hpart]
  split
  · exact hadd _ (by unfold toNanos; omega)
  · split
    · exact hadd _ (by unfold toNanos; omega)
    · split
      · omega
      · exact ⟨t, ofParts?_eq_some_iff.mpr ⟨rfl, by omega⟩, by omega⟩

/-- So many seconds earlier there is an instant, outside leap seconds. -/
theorem sub?_ofSeconds {t : Instant} {k : Int} (hk : 0 < k)
    (hfirst : earliestSecond ≤ t.seconds - k) :
    ∃ u, t.sub? (.ofSeconds k) = some u ∧ u.nanos < 1000000000 ∧
      u.toNanos = t.toNanos - (Span.ofSeconds k).nanos := by
  have hlast := t.le_latest
  have hnanos := t.nanos_lt
  have hneg : (Span.ofSeconds k).neg.nanos = -k * 1000000000 := (Int.neg_mul ..).symm
  have hwhole : (Span.ofSeconds k).neg.nanos.tdiv 1000000000 = -k := by
    rw [hneg]
    exact Int.mul_tdiv_cancel _ (by decide)
  have hpart : (Span.ofSeconds k).neg.nanos.tmod 1000000000 = 0 := by
    rw [hneg]
    exact Int.mul_tmod_left _ _
  have hsum : t.toNanos + (Span.ofSeconds k).neg.nanos = t.toNanos - (Span.ofSeconds k).nanos :=
    Int.sub_eq_add_neg.symm
  have hsub : t.sub? (.ofSeconds k) = ofNanos? (t.toNanos - (Span.ofSeconds k).nanos) := by
    unfold sub? add?
    dsimp only
    rw [hwhole, hpart, hsum]
    split
    · rfl
    · rw [if_neg (by omega), if_pos (by omega)]
  obtain ⟨u, hu⟩ := Option.isSome_iff_exists.mp (ofNanos?_isSome_iff.mpr
    (show earliestSecond ≤ (t.toNanos - k * 1000000000) / 1000000000 ∧ _ by
      unfold toNanos
      omega))
  obtain ⟨htotal, hplain⟩ := ofNanos?_eq_some_iff.mp hu
  exact ⟨u, hsub.trans hu, hplain, htotal⟩

end Time.Instant

/-! ## What loads -/

/-- The settings of a worker are within their bounds. -/
structure WorkerSettings.IsBounded (w : WorkerSettings) : Prop where
  batch : 1 ≤ w.batch
  maxAttempts : ∀ n ∈ w.retry.maxAttempts, 1 ≤ n
  /-- One minute to 7 days. -/
  lease : ∃ k : Int, w.lease = .ofMinutes k ∧ 1 ≤ k ∧ k ≤ 7 * 24 * 60
  /-- One minute to 10 years of 366 days. -/
  dedupWindow : ∀ d ∈ w.dedupWindow, ∃ k : Int, d = .ofMinutes k ∧ 1 ≤ k ∧ k ≤ 10 * 366 * 24 * 60
  /-- Whole seconds, up to 30 days. -/
  backoff : ∃ k : Nat, w.retry.backoff = .ofSeconds k ∧ k ≤ 30 * 24 * 3600
  backoffMax : ∃ k : Nat, w.retry.backoffMax = .ofSeconds k ∧ k ≤ 30 * 24 * 3600

namespace Settings

theorem atMost_eq_ok {name : String} {limit value : Int} {u : Unit} :
    atMost name limit value = .ok u ↔ value ≤ limit := by
  unfold atMost
  split <;> simp [*]

theorem positive_eq_ok {name : String} {value : Int} {u : Unit} :
    positive name value = .ok u ↔ 0 < value := by
  unfold positive
  split <;> simp [*]

theorem isBounded_of_loadWorker {vars : Variables} {w : WorkerSettings}
    (h : loadWorker vars = .ok w) : w.IsBounded := by
  unfold loadWorker at h
  simp only [Backlog.bind_eq_ok] at h
  obtain ⟨_, -, _, -, dedup, -, lease, -, maxAttempts, -, backoff, -, backoffMax, -, h⟩ := h
  rw [Backlog.ite_bind_eq_ok] at h
  simp only [Backlog.bind_eq_ok, atMost_eq_ok, positive_eq_ok] at h
  obtain ⟨hdedup, batch, -, -, hbatch, _, -, -, hlease, -, hleaseMax, -, hbackoff, -, hbackoffMax,
    h⟩ := h
  cases h
  exact {
    batch := by dsimp only; omega
    maxAttempts := by dsimp only; split <;> simp; omega
    lease := ⟨lease, rfl, hlease, hleaseMax⟩
    dedupWindow := fun d hd => by
      dsimp only at hd
      split at hd
      · rename_i hpos
        cases hd
        exact ⟨dedup, rfl, hpos, hdedup hpos⟩
      · cases hd
    backoff := ⟨backoff, rfl, Int.ofNat_le.mp hbackoff⟩
    backoffMax := ⟨backoffMax, rfl, Int.ofNat_le.mp hbackoffMax⟩ }

/-- The settings of the worker and the number of workers that load. -/
theorem load_eq_ok {vars : Variables} {processId : Nat} {settings : Settings}
    (h : load vars processId = .ok settings) :
    loadWorker vars = .ok settings.worker ∧ 1 ≤ settings.workers := by
  unfold load at h
  simp only [Backlog.bind_eq_ok, positive_eq_ok] at h
  obtain ⟨_, -, _, -, worker, hworker, workers, -, -, hpos, h⟩ := h
  cases h
  exact ⟨hworker, Int.ofNat_lt.mp hpos⟩

end Settings

/-! ## The clock -/

/-- A backoff of whole seconds stays one, and the largest backoff bounds it. -/
theorem RetryPolicy.exists_delay {p : RetryPolicy} {first most : Nat}
    (hbackoff : p.backoff = .ofSeconds first) (hmost : p.backoffMax = .ofSeconds most)
    (attempts : Nat) : ∃ k ≤ most, p.delay attempts = .ofSeconds k := by
  unfold delay
  rw [hbackoff, hmost]
  cases htimes : (Delay.ofSeconds first).times? (pow2 (min (attempts - 1) maxDoublings)) with
  | none => exact ⟨_, Nat.min_le_right most most, by rw [Option.getD_none, Delay.min_ofSeconds]⟩
  | some d =>
    obtain ⟨k, rfl⟩ := Delay.exists_of_times? htimes
    exact ⟨_, Nat.min_le_right k most, by rw [Option.getD_some, Delay.min_ofSeconds]⟩

namespace WorkerSettings.IsBounded

variable {w : WorkerSettings} {now : Instant}

/-- The end of a lease is within 7 days. -/
theorem exists_leaseEnd (h : w.IsBounded) (hlast : now.seconds + 7 * 86400 ≤ latestSecond) :
    ∃ t, Backlog.leaseEnd now w.lease = .ok t ∧
      now.seconds ≤ t.seconds ∧ t.seconds ≤ now.seconds + 7 * 86400 := by
  obtain ⟨k, hlease, hlow, hhigh⟩ := h.lease
  obtain ⟨t, ht, hseconds⟩ := Instant.add?_ofSeconds (t := now) (k := k * 60) (by omega) (by omega)
  refine ⟨t, ?_, by omega, by omega⟩
  unfold Backlog.leaseEnd
  rw [hlease, Span.ofMinutes_eq, ht]

/-- The end of a backoff is within 30 days. -/
theorem exists_retryAfter (h : w.IsBounded) (hlast : now.seconds + 30 * 86400 ≤ latestSecond)
    (attempts : Nat) :
    ∃ retry, w.retry.retryAfter attempts now = .ok retry ∧
      ∀ t ∈ retry, now.seconds ≤ t.seconds ∧ t.seconds ≤ now.seconds + 30 * 86400 := by
  obtain ⟨first, hbackoff, -⟩ := h.backoff
  obtain ⟨most, hmost, hbound⟩ := h.backoffMax
  obtain ⟨k, hk, hdelay⟩ := RetryPolicy.exists_delay hbackoff hmost attempts
  obtain ⟨t, ht, hseconds⟩ := Instant.add?_ofSeconds (t := now) (k := k) (by omega) (by omega)
  have hspan : (Delay.ofSeconds k).toSpan? = some (.ofSeconds k) := by
    unfold Delay.toSpan? Span.limit Span.ofMillis Span.ofSeconds
    rw [Delay.nanos_ofSeconds, if_pos (by dsimp only; omega)]
    simp
  unfold RetryPolicy.retryAfter
  split
  · exact ⟨none, rfl, fun _ hnone => nomatch hnone⟩
  · rw [hdelay, hspan, Option.bind_some, ht]
    refine ⟨some t, rfl, fun u hu => ?_⟩
    cases hu
    omega

/-- The start of the window is exactly the window ago. -/
theorem exists_since (h : w.IsBounded) (hfirst : earliestSecond + 3660 * 86400 ≤ now.seconds)
    {d : Span} (hd : d ∈ w.dedupWindow) :
    ∃ t, Dedup.Window.since w.dedupWindow now = some t ∧ t.toNanos = now.toNanos - d.nanos ∧
      now.seconds - 3660 * 86400 ≤ t.seconds ∧ t.seconds ≤ now.seconds := by
  obtain ⟨k, hwindow, hlow, hhigh⟩ := h.dedupWindow d hd
  obtain ⟨t, ht, hplain, htotal⟩ :=
    Instant.sub?_ofSeconds (t := now) (k := k * 60) (by omega) (by omega)
  rw [← Span.ofMinutes_eq, ← hwindow] at ht htotal
  have hnanos : d.nanos = k * 60000000000 := by rw [hwindow]; rfl
  have hleap := now.nanos_lt
  refine ⟨t, ?_, htotal, ?_, ?_⟩
  · unfold Dedup.Window.since
    rw [Option.mem_def.mp hd]
    exact ht
  · unfold Instant.toNanos at htotal
    omega
  · unfold Instant.toNanos at htotal
    omega

/-- The start of the window is not after the clock, and within 10 years of 366 days. -/
theorem seconds_of_mem_since (h : w.IsBounded)
    (hfirst : earliestSecond + 3660 * 86400 ≤ now.seconds) {t : Instant}
    (ht : t ∈ Dedup.Window.since w.dedupWindow now) :
    now.seconds - 3660 * 86400 ≤ t.seconds ∧ t.seconds ≤ now.seconds := by
  cases hwindow : w.dedupWindow with
  | none =>
    rw [hwindow] at ht
    cases ht
  | some d =>
    obtain ⟨u, hu, -, hbounds⟩ := h.exists_since hfirst hwindow
    cases (Option.mem_def.mp ht).symm.trans hu
    exact hbounds

end WorkerSettings.IsBounded

namespace Settings

/-- Settings that load are within their bounds, and at every clock from 1970 up to 30 days before
the end of year 9999 all that they are added to or taken from it is an instant: the end of a lease,
the end of a backoff after any number of attempts, and the start of the window, which is exactly
the window ago.  All of them are of the years 0 to 9999, so the texts that an embedded database
keeps of them compare as the instants do, cut to microseconds. -/
theorem load_keeps_clock {vars : Variables} {processId : Nat} {settings : Settings}
    (h : load vars processId = .ok settings) :
    1 ≤ settings.workers ∧ settings.worker.IsBounded ∧
    ∀ now : Instant, Instant.epoch ≤ now → now.seconds / 86400 + 30 ≤ dayNumber ⟨9999, 12, 31⟩ →
      ∀ attempts, ∃ expiry retry,
        Backlog.leaseEnd now settings.worker.lease = .ok expiry ∧
        settings.worker.retry.retryAfter attempts now = .ok retry ∧
        let since := Dedup.Window.since settings.worker.dedupWindow now
        (settings.worker.dedupWindow = none → since = none) ∧
        (∀ d ∈ settings.worker.dedupWindow,
          ∃ t, since = some t ∧ t.toNanos = now.toNanos - d.nanos) ∧
        let instants := now :: expiry :: (retry.toList ++ since.toList)
        (∀ t ∈ instants, t.IsFourDigit) ∧
        ∀ t ∈ instants, ∀ u ∈ instants,
          Backlog.Medium.embedded.below t.toMicros u.toMicros = true ↔ t.cut < u.cut := by
  obtain ⟨hworker, hworkers⟩ := load_eq_ok h
  have hbounded := isBounded_of_loadWorker hworker
  refine ⟨hworkers, hbounded, fun now hepoch hlast attempts => ?_⟩
  have hbounds : 0 ≤ now.seconds ∧ now.seconds + 30 * 86400 < 253402300800 := by
    have hday : dayNumber ⟨9999, 12, 31⟩ = 2932896 := by decide
    have hzero : Instant.epoch.seconds = 0 := rfl
    rw [Instant.le_def] at hepoch
    omega
  have hcalendar : earliestSecond + 3660 * 86400 ≤ 0 ∧ 253402300800 ≤ latestSecond := by decide
  obtain ⟨expiry, hexpiry, hlow, hhigh⟩ :=
    hbounded.exists_leaseEnd (show now.seconds + 7 * 86400 ≤ latestSecond by omega)
  obtain ⟨retry, hretry, hwithin⟩ :=
    hbounded.exists_retryAfter (show now.seconds + 30 * 86400 ≤ latestSecond by omega) attempts
  have hfirst : earliestSecond + 3660 * 86400 ≤ now.seconds := by omega
  refine ⟨expiry, retry, hexpiry, hretry, fun hnone => by rw [hnone]; rfl, fun d hd => ?_, ?_⟩
  · obtain ⟨t, ht, htotal, -⟩ := hbounded.exists_since hfirst hd
    exact ⟨t, ht, htotal⟩
  · intro instants
    have hdigits : ∀ t ∈ instants, t.IsFourDigit := by
      intro t ht
      have hnear : now.seconds - 3660 * 86400 ≤ t.seconds ∧
          t.seconds ≤ now.seconds + 30 * 86400 := by
        rcases List.mem_cons.mp ht with rfl | ht
        · omega
        rcases List.mem_cons.mp ht with rfl | ht
        · omega
        rcases List.mem_append.mp ht with ht | ht
        · have hforth := hwithin t (Option.mem_toList.mp ht)
          omega
        · have hback := hbounded.seconds_of_mem_since hfirst (Option.mem_toList.mp ht)
          omega
      exact Instant.isFourDigit_of_seconds (by omega) (by omega)
    refine ⟨hdigits, fun t ht u hu => ?_⟩
    rw [Backlog.Medium.below_embedded]
    exact Instant.precedes_toMicros_iff (hdigits t ht) (hdigits u hu)

/-- Variables that ask for the longest backoff from the first attempt on. -/
def longestBackoff : Variables
  | "RETRY_BACKOFF_SECS" => some " 2592000 "
  | "RETRY_BACKOFF_MAX_SECS" => some "+2592000"
  | _ => none

/-- The longest backoff, after the largest number of attempts, at the last clock. -/
theorem load_keeps_clock_longest_backoff :
    let now : Instant := ⟨253399708799, 999999999, by decide, by decide, by decide, by decide⟩
    now.date = ⟨9999, 12, 1⟩ ∧
      ∃ settings, load longestBackoff 1 = .ok settings ∧
        settings.worker.retry.backoff = .ofSeconds 2592000 ∧
        ∃ expiry retry, Backlog.leaseEnd now settings.worker.lease = .ok expiry ∧
          settings.worker.retry.retryAfter 4294967295 now = .ok retry ∧
          ∀ t ∈ expiry :: retry.toList, t.IsFourDigit := by
  intro now
  have hvars : (load longestBackoff 1).map (·.worker.retry.backoff) =
      .ok (.ofSeconds 2592000) := by rfl
  cases hload : load longestBackoff 1 with
  | error e =>
    rw [hload] at hvars
    cases hvars
  | ok settings =>
    rw [hload] at hvars
    obtain ⟨-, -, hclock⟩ := load_keeps_clock hload
    obtain ⟨expiry, retry, hexpiry, hretry, -, -, hdigits, -⟩ :=
      hclock now (by decide) (by decide) 4294967295
    refine ⟨by decide, settings, rfl, Except.ok.inj hvars, expiry, retry, hexpiry, hretry,
      fun t ht => hdigits t (List.mem_cons_of_mem _ ?_)⟩
    rcases List.mem_cons.mp ht with rfl | ht
    · exact List.mem_cons_self
    · exact List.mem_cons_of_mem _ (List.mem_append_left _ ht)

end Settings

end ArtifactRelay
