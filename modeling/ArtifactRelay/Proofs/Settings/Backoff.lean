import ArtifactRelay.Proofs.Settings.Bounds

/-!
# ArtifactRelay.Proofs.Settings.Backoff

The backoff after a failed attempt is the first one doubled with every further attempt, up to the
largest one (`backoffNanos`), computed over numbers without bound: neither the limit on the
doublings nor the width of a delay shows in it (`delay_eq`).  The item is claimed again that much
later, and it is a fault of the settings if the calendar has no such instant
(`retryAfter_exact`).

A product that outgrows the width of a delay is beyond every largest backoff, so the largest backoff
that stands in for it is the capped product as well.  For settings that load even the limit on the
doublings has no effect, because so many of them take one second past 30 days.
-/

namespace ArtifactRelay

open Time

namespace RetryPolicy

/-- The backoff after so many attempts, in nanoseconds: doubled with every attempt after the first,
31 times at most, and never more than the largest one. -/
def backoffNanos (p : RetryPolicy) (attempts : Nat) : Nat :=
  min (p.backoff.nanos * pow2 (min (max attempts 1 - 1) 31)) p.backoffMax.nanos

/-- The policy of settings that load. -/
def IsLoaded (p : RetryPolicy) : Prop :=
  ∃ vars processId settings,
    Settings.load vars processId = .ok settings ∧ settings.worker.retry = p

variable {p : RetryPolicy}

/-! ## The delay -/

theorem nanos_min (a b : Delay) : (a.min b).nanos = min a.nanos b.nanos := by
  unfold Delay.min
  split <;> omega

/-- A product that is too long for a delay is longer than any delay. -/
theorem lt_of_times?_eq_none {a b : Delay} {k : Nat} (hb : b.seconds < Delay.secondsBound)
    (h : a.times? k = none) : b.nanos < a.nanos * k := by
  unfold Delay.times? at h
  unfold Delay.seconds at hb
  split at h
  · cases h
  · omega

/-- A product that outgrows a delay is capped like any other. -/
theorem delay_eq (hmax : p.backoffMax.seconds < Delay.secondsBound) (attempts : Nat) :
    p.delay attempts = ⟨p.backoffNanos attempts⟩ := by
  have hdoublings : attempts - 1 = max attempts 1 - 1 := by omega
  have hnanos : (p.delay attempts).nanos = p.backoffNanos attempts := by
    unfold delay backoffNanos
    rw [nanos_min, hdoublings]
    dsimp only [maxDoublings]
    cases hproduct : p.backoff.times? (pow2 (min (max attempts 1 - 1) 31)) with
    | none =>
      have hlong := lt_of_times?_eq_none hmax hproduct
      rw [Option.getD_none]
      omega
    | some d =>
      unfold Delay.times? at hproduct
      split at hproduct
      · cases hproduct
        rfl
      · cases hproduct
  exact congrArg Delay.mk hnanos

/-! ## Laws of the backoff -/

theorem backoffNanos_le (p : RetryPolicy) (attempts : Nat) :
    p.backoffNanos attempts ≤ p.backoffMax.nanos :=
  Nat.min_le_right _ _

theorem backoffNanos_mono (p : RetryPolicy) {j k : Nat} (h : j ≤ k) :
    p.backoffNanos j ≤ p.backoffNanos k := by
  have hpower : pow2 (min (max j 1 - 1) 31) ≤ pow2 (min (max k 1 - 1) 31) :=
    pow2_mono (by omega)
  have hproduct := Nat.mul_le_mul_left p.backoff.nanos hpower
  unfold backoffNanos
  omega

/-- Where 31 doublings reach the largest backoff, there is no limit on them. -/
theorem backoffNanos_of_reaches
    (h : p.backoff.nanos = 0 ∨ p.backoffMax.nanos ≤ p.backoff.nanos * pow2 31) {attempts : Nat}
    (hpos : 1 ≤ attempts) :
    p.backoffNanos attempts = min (p.backoff.nanos * pow2 (attempts - 1)) p.backoffMax.nanos := by
  unfold backoffNanos
  rw [Nat.max_eq_left hpos]
  rcases Nat.le_total (attempts - 1) 31 with hfew | hmany
  · rw [Nat.min_eq_left hfew]
  · rw [Nat.min_eq_right hmany]
    rcases h with hzero | hreaches
    · rw [hzero, Nat.zero_mul, Nat.zero_mul]
    · have hpower := Nat.mul_le_mul_left p.backoff.nanos (pow2_mono hmany)
      rw [Nat.min_eq_right hreaches, Nat.min_eq_right (Nat.le_trans hreaches hpower)]

/-- Whole seconds of at most 30 days. -/
theorem IsLoaded.reaches (h : p.IsLoaded) :
    p.backoff.nanos = 0 ∨ p.backoffMax.nanos ≤ p.backoff.nanos * pow2 31 := by
  obtain ⟨vars, processId, settings, hload, rfl⟩ := h
  have hbounded := Settings.isBounded_of_loadWorker (Settings.load_eq_ok hload).1
  obtain ⟨first, hfirst, -⟩ := hbounded.backoff
  obtain ⟨most, hmost, hbound⟩ := hbounded.backoffMax
  have hpower : pow2 31 = 2147483648 := by decide
  rw [hfirst, hmost, Delay.nanos_ofSeconds, Delay.nanos_ofSeconds, hpower]
  omega

/-! ## The instant after the backoff -/

theorem toSpan?_eq_some_iff {d : Delay} {s : Span} :
    d.toSpan? = some s ↔ (d.nanos : Int) ≤ Span.limit.nanos ∧ s = ⟨d.nanos⟩ := by
  unfold Delay.toSpan?
  split <;> simp [*, eq_comm]

/-- With a backoff, an item waits until the instant that is so much later than now, if a span is long
enough for the backoff and the calendar has that instant.  If not, the settings are at fault.  The
backoff does not shrink from one attempt to the next and never exceeds the largest one, and for
settings that load it doubles with every attempt without limit before it is capped. -/
theorem retryAfter_exact (p : RetryPolicy) :
    (p.backoff ≠ .zero → p.backoffMax.seconds < Delay.secondsBound → ∀ attempts now,
      (∀ t, p.retryAfter attempts now = .ok (some t) ↔
        (p.backoffNanos attempts : Int) ≤ Span.limit.nanos ∧
          now.IsLater (p.backoffNanos attempts) t) ∧
      (p.retryAfter attempts now = .error (.config (.backoffOutOfRange ⟨p.backoffNanos attempts⟩)) ↔
        ¬ ∃ t, (p.backoffNanos attempts : Int) ≤ Span.limit.nanos ∧
          now.IsLater (p.backoffNanos attempts) t)) ∧
    (∀ j k, j ≤ k → p.backoffNanos j ≤ p.backoffNanos k) ∧
    (∀ attempts, p.backoffNanos attempts ≤ p.backoffMax.nanos) ∧
    (p.IsLoaded → ∀ attempts, 1 ≤ attempts →
      p.backoffNanos attempts =
        min (p.backoff.nanos * pow2 (attempts - 1)) p.backoffMax.nanos) := by
  refine ⟨fun hbackoff hmax attempts now => ?_, fun _ _ => p.backoffNanos_mono,
    p.backoffNanos_le, fun hloaded attempts => backoffNanos_of_reaches hloaded.reaches⟩
  have hlater : ∀ t, (p.delay attempts).toSpan?.bind now.add? = some t ↔
      (p.backoffNanos attempts : Int) ≤ Span.limit.nanos ∧
        now.IsLater (p.backoffNanos attempts) t := by
    intro t
    simp only [Option.bind_eq_some_iff, toSpan?_eq_some_iff, delay_eq hmax, and_assoc,
      exists_and_left, exists_eq_left, Instant.add?_eq_some_iff]
  unfold retryAfter
  rw [if_neg hbackoff]
  simp only [← hlater, delay_eq hmax]
  cases (Delay.mk (p.backoffNanos attempts)).toSpan?.bind now.add? <;> simp

/-- Variables that ask for one second after the first attempt and for 30 days at most. -/
def fromOneSecond : Settings.Variables
  | "RETRY_BACKOFF_SECS" => some "1"
  | "RETRY_BACKOFF_MAX_SECS" => some "2592000"
  | _ => none

/-- The policy of these variables. -/
def doubling : RetryPolicy := ⟨some 10, .ofSeconds 1, .ofSeconds 2592000⟩

/-- The backoff after the fortieth attempt, for which the doublings are cut off: it is the capped
power of two all the same, and past the end of the calendar the settings are at fault. -/
theorem retryAfter_exact_fortieth :
    doubling.backoff ≠ .zero ∧ doubling.backoffMax.seconds < Delay.secondsBound ∧
      doubling.IsLoaded ∧
      doubling.backoffNanos 40 = min (1000000000 * pow2 39) 2592000000000000 ∧
      (∃ t, doubling.retryAfter 40 Instant.epoch = .ok (some t) ∧ t.seconds = 2592000) ∧
      doubling.retryAfter 40 Instant.latest =
        .error (.config (.backoffOutOfRange (.ofSeconds 2592000))) := by
  have hbackoff : doubling.backoff ≠ .zero := by decide
  have hmax : doubling.backoffMax.seconds < Delay.secondsBound := by decide
  have hloaded : doubling.IsLoaded := by
    have hvars : (Settings.load fromOneSecond 1).map (·.worker.retry) = .ok doubling := by rfl
    cases hload : Settings.load fromOneSecond 1 with
    | error e =>
      rw [hload] at hvars
      cases hvars
    | ok settings =>
      rw [hload] at hvars
      exact ⟨fromOneSecond, 1, settings, hload, Except.ok.inj hvars⟩
  have hdelay : doubling.backoffNanos 40 = 2592000000000000 := by decide
  have hend : Instant.latest.toNanos = latestSecond * 1000000000 + 999999999 := rfl
  obtain ⟨hexact, -, -, hformula⟩ := retryAfter_exact doubling
  have hclaimed := hexact hbackoff hmax
  have hpast : ¬ ∃ t, (doubling.backoffNanos 40 : Int) ≤ Span.limit.nanos ∧
      Instant.latest.IsLater (doubling.backoffNanos 40) t := by
    rintro ⟨t, -, hlater⟩
    have hlast := t.le_latest
    unfold Instant.IsLater at hlater
    rw [if_pos (by decide), hend, hdelay] at hlater
    unfold Instant.toNanos at hlater
    omega
  have hfault := (hclaimed 40 Instant.latest).2.mpr hpast
  rw [hdelay] at hfault
  refine ⟨hbackoff, hmax, hloaded, hformula hloaded 40 (by decide),
    ⟨⟨2592000, 0, by decide, by decide, by decide, by decide⟩, ?_, rfl⟩, hfault⟩
  exact ((hclaimed 40 Instant.epoch).1 _).mpr ⟨by decide, by decide⟩

end RetryPolicy

end ArtifactRelay
