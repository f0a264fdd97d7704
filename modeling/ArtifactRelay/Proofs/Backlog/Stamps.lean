import ArtifactRelay.Backlog.Medium
import ArtifactRelay.Proofs.Time.RoundTrip

/-!
# ArtifactRelay.Proofs.Backlog.Stamps

Instants as the two media keep them.  Both media keep every instant of the years 0
to 9999 and read it back.  Their stamps are cut to microseconds, so they compare as
the instants do only up to that: what is at most another instant never gets the
larger stamp (`below_eq_false_of_le`), and a smaller stamp belongs to an earlier
instant (`lt_of_below`).

A server counts the leap second on, into the second after it.  There the order of
the stamps is kept only for instants outside leap seconds (`IsOrdered`).

An instant that was read back has nothing left to cut.  So a stamp marks the instant
that it is read back as (`Marks`), and stamps compare exactly as the instants that
they mark (`Marks.below_iff`).
-/

namespace ArtifactRelay

open Text Time

/-! ## The bounds of the years 0 to 9999 -/

namespace Time.Instant

theorem seconds_of_isFourDigit {t : Instant} (ht : t.IsFourDigit) :
    -62167219200 ≤ t.seconds ∧ t.seconds < 253402300800 := by
  have hfirst : (dateOfDay (-719528)).year = 0 ∧ (dateOfDay (-719528)).month = 1 ∧
      (dateOfDay (-719528)).day = 1 := by decide
  have hlast : (dateOfDay 2932896).year = 9999 ∧ (dateOfDay 2932896).month = 12 ∧
      (dateOfDay 2932896).day = 31 := by decide
  have hmonth := month_dateOfDay_bounds (t.seconds / 86400)
  have hday := day_dateOfDay_le (t.seconds / 86400)
  constructor
  · refine Int.not_lt.mp fun hlt => ?_
    have hbefore := dateOfDay_before (show t.seconds / 86400 < -719528 by omega)
    unfold Date.Before at hbefore
    unfold IsFourDigit date at ht
    omega
  · refine Int.not_le.mp fun hle => ?_
    have hbefore := dateOfDay_before (show 2932896 < t.seconds / 86400 by omega)
    unfold Date.Before at hbefore
    unfold IsFourDigit date at ht
    omega

theorem isFourDigit_of_seconds {t : Instant} (hfirst : -62167219200 ≤ t.seconds)
    (hlast : t.seconds < 253402300800) : t.IsFourDigit := by
  have hbefore : ∀ n k, n ≤ k → (dateOfDay n).year ≤ (dateOfDay k).year := by
    intro n k hle
    rcases Int.lt_or_eq_of_le hle with hlt | rfl
    · have hdates := dateOfDay_before hlt
      unfold Date.Before at hdates
      omega
    · exact Int.le_refl _
  have hyear : (dateOfDay (-719528)).year = 0 ∧ (dateOfDay 2932896).year = 9999 := by decide
  have hlow := hbefore (-719528) (t.seconds / 86400) (by omega)
  have hhigh := hbefore (t.seconds / 86400) 2932896 (by omega)
  unfold IsFourDigit date
  omega

theorem toNanos_lt {a b : Instant} (hb : b.nanos < 1000000000) (h : a.toNanos < b.toNanos) :
    a < b := by
  unfold toNanos at h
  rw [lt_def]
  omega

/-- The instants of the calendar. -/
theorem ofNanos?_isSome_iff {n : Int} :
    (ofNanos? n).isSome = true ↔
      earliestSecond ≤ n / 1000000000 ∧ n / 1000000000 ≤ latestSecond := by
  unfold ofNanos? ofParts?
  constructor
  · intro h
    split at h
    · rename_i hparts
      exact ⟨hparts.1, hparts.2.1⟩
    · cases h
  · rintro ⟨hlow, hhigh⟩
    rw [dif_pos ⟨hlow, hhigh, by omega, by omega⟩]
    rfl

/-- The last instant of the calendar. -/
def latest : Instant :=
  ⟨latestSecond, 999999999, by decide, Int.le_refl _, by decide, .inl (by decide)⟩

/-- What is a span away from an instant outside leap seconds is outside them as well. -/
theorem nanos_lt_of_sub? {t u : Instant} {d : Span} (ht : t.nanos < 1000000000)
    (h : t.sub? d = some u) : u.nanos < 1000000000 := by
  unfold sub? add? at h
  rw [if_pos ht] at h
  have hnanos := (ofParts?_eq_some_iff.mp h).2
  omega

end Time.Instant

namespace Backlog.Medium

/-! ## Microseconds from 2000 on -/

/-- Cut towards zero: down above it, up below it. -/
theorem tdiv_thousand (n : Int) :
    n.tdiv 1000 = if 0 ≤ n then n / 1000 else -(-n / 1000) := by
  split
  · rename_i h
    exact Int.tdiv_eq_ediv_of_nonneg h
  · rename_i h
    rw [← Int.tdiv_eq_ediv_of_nonneg (show 0 ≤ -n by omega), Int.neg_tdiv, Int.neg_neg]

theorem serverMicros_mono {a b : Instant} (h : a.toNanos ≤ b.toNanos) :
    serverMicros a ≤ serverMicros b := by
  unfold serverMicros
  rw [tdiv_thousand, tdiv_thousand]
  split <;> split <;> omega

theorem serverStart_le_serverMicros {t : Instant} (ht : t.IsFourDigit) :
    serverStart ≤ serverMicros t := by
  have hbounds := Instant.seconds_of_isFourDigit ht
  unfold serverStart serverMicros Instant.toNanos serverEpoch
  rw [tdiv_thousand]
  split <;> omega

/-- The instant of a server's stamp is in the calendar. -/
theorem ofNanos?_serverMicros_isSome {t : Instant} (ht : t.IsFourDigit) :
    (Instant.ofNanos? (serverEpoch + serverMicros t * 1000)).isSome = true := by
  have hbounds := Instant.seconds_of_isFourDigit ht
  have hnanos := t.nanos_lt
  have hearliest : earliestSecond = -8334601228800 := by decide
  have hlatest : latestSecond = 8210266876799 := by decide
  rw [Instant.ofNanos?_isSome_iff, hearliest, hlatest]
  unfold serverMicros Instant.toNanos serverEpoch
  rw [tdiv_thousand]
  split <;> omega

/-! ## The two media -/

/-- One of the media that a backlog is kept on. -/
def IsBackend (m : Medium) : Prop := m = .embedded ∨ m = .server

theorem embedded_ne_server : embedded ≠ server := fun h =>
  absurd (congrArg asksInTurn h) (by decide)

/-- An instant whose stamp keeps its place among the others. -/
def IsOrdered (m : Medium) (t : Instant) : Prop :=
  t.IsFourDigit ∧ (m = .server → t.nanos < 1000000000)

variable {m : Medium}

theorem isOrdered_of_nanos_lt {t : Instant} (h : t.IsFourDigit ∧ t.nanos < 1000000000) :
    m.IsOrdered t :=
  ⟨h.1, fun _ => h.2⟩

theorem stamp?_isSome (hm : m.IsBackend) {t : Instant} (ht : t.IsFourDigit) :
    (m.stamp? t).isSome = true := by
  rcases hm with rfl | rfl
  · rfl
  · simp [server, serverStart_le_serverMicros ht]

/-- What was kept is read back. -/
theorem instant?_isSome (hm : m.IsBackend) {t : Instant} (ht : t.IsFourDigit) {x : m.Stamp}
    (hx : m.stamp? t = some x) : (m.instant? x).isSome = true := by
  rcases hm with rfl | rfl
  · cases hx
    simp [Instant.ofText?_toMicros]
  · simp only [server, Option.ite_none_right_eq_some, Option.some.injEq] at hx
    obtain ⟨-, rfl⟩ := hx
    exact ofNanos?_serverMicros_isSome ht

/-- What is kept of the instant, if anything, can be read back. -/
def ReadsBack (m : Medium) (t : Instant) : Prop :=
  ∀ x, m.stamp? t = some x → (m.instant? x).isSome = true

theorem readsBack_embedded (t : Instant) : embedded.ReadsBack t := by
  rintro _ ⟨⟩
  simp [Instant.ofText?_toMicros]

/-- The instant is kept, and can be read back. -/
def Keeps (m : Medium) (t : Instant) : Prop :=
  ∃ x, m.stamp? t = some x ∧ (m.instant? x).isSome = true

/-- What was kept is read back. -/
theorem Keeps.instant?_isSome {t : Instant} (h : m.Keeps t) {x : m.Stamp}
    (hx : m.stamp? t = some x) : (m.instant? x).isSome = true := by
  obtain ⟨y, hy, hread⟩ := h
  cases hx.symm.trans hy
  exact hread

theorem keeps_of_isFourDigit (hm : m.IsBackend) {t : Instant} (ht : t.IsFourDigit) : m.Keeps t := by
  obtain ⟨x, hx⟩ := Option.isSome_iff_exists.mp (stamp?_isSome hm ht)
  exact ⟨x, hx, Medium.instant?_isSome hm ht hx⟩

theorem keeps_embedded (t : Instant) : embedded.Keeps t :=
  ⟨t.toMicros, rfl, by simp [Instant.ofText?_toMicros]⟩

/-- A server keeps the instants from the start of its calendar on, but for a leap second at the
end of the calendar. -/
theorem keeps_server_iff {t : Instant} :
    server.Keeps t ↔
      serverStart ≤ serverMicros t ∧ (t.nanos < 1000000000 ∨ t.seconds < latestSecond) := by
  have hearliest : earliestSecond = -8334601228800 := by decide
  have hlatest : latestSecond = 8210266876799 := by decide
  have hlow := t.earliest_le
  have hhigh := t.le_latest
  have hnanos := t.nanos_lt
  have hread : (Instant.ofNanos? (serverEpoch + serverMicros t * 1000)).isSome = true ↔
      (t.nanos < 1000000000 ∨ t.seconds < latestSecond) := by
    rw [Instant.ofNanos?_isSome_iff]
    unfold serverMicros Instant.toNanos serverEpoch
    rw [tdiv_thousand]
    split <;> omega
  constructor
  · rintro ⟨y, hy, hsome⟩
    simp only [Option.ite_none_right_eq_some, Option.some.injEq] at hy
    obtain ⟨hstart, rfl⟩ := hy
    exact ⟨hstart, hread.mp hsome⟩
  · rintro ⟨hstart, hend⟩
    exact ⟨serverMicros t, if_pos hstart, hread.mpr hend⟩

/-- Up to the last instant of the calendar, what is kept can be read back.  A leap second after it
is the one instant that a server keeps and cannot tell any more. -/
theorem readsBack_of_le_latest (hm : m.IsBackend) {t : Instant}
    (ht : m = .server → t ≤ Instant.latest) : m.ReadsBack t := by
  rcases hm with rfl | rfl
  · exact readsBack_embedded t
  · intro x hx
    have hstart := hx
    simp only [server, Option.ite_none_right_eq_some] at hstart
    have hle : t.seconds < latestSecond ∨ t.seconds = latestSecond ∧ t.nanos ≤ 999999999 := ht rfl
    have hend : t.nanos < 1000000000 ∨ t.seconds < latestSecond := by omega
    exact (keeps_server_iff.mpr ⟨hstart.1, hend⟩).instant?_isSome hx

/-- What a server keeps of a leap second after the end of the calendar is of no instant. -/
theorem instant?_eq_none_of_late {t : Instant} {x : Int} (hx : server.stamp? t = some x)
    (hlate : Instant.latest < t) : server.instant? x = none := by
  have hafter : latestSecond < t.seconds ∨ latestSecond = t.seconds ∧ 999999999 < t.nanos := hlate
  have hnot : ¬ server.Keeps t := fun hkeeps => by
    obtain ⟨-, hend⟩ := keeps_server_iff.mp hkeeps
    have hle := t.le_latest
    omega
  exact Option.not_isSome_iff_eq_none.mp fun hsome => hnot ⟨x, hx, hsome⟩

/-- What is kept is kept any time later. -/
theorem Keeps.add? (hm : m.IsBackend) {t u : Instant} {d : Span} (h : m.Keeps t)
    (hd : 0 ≤ d.nanos) (hu : t.add? d = some u) : m.Keeps u := by
  rcases hm with rfl | rfl
  · exact keeps_embedded u
  · obtain ⟨hstart, hend⟩ := keeps_server_iff.mp h
    rw [keeps_server_iff]
    have hcases := Instant.add?_cases hd hu
    have hlatest := u.le_latest
    have hleap := t.leap
    have hnanos := t.nanos_lt
    unfold serverStart serverMicros Instant.toNanos serverEpoch at *
    rw [tdiv_thousand] at *
    constructor
    · split <;> split at hstart <;> omega
    · omega

/-- A server keeps counts as signed numbers of 32 bits. -/
theorem keepsCount_of_le (hm : m.IsBackend) {n : Nat} (h : m = .server → n ≤ 2147483647) :
    m.keepsCount (.counted n) = true := by
  rcases hm with rfl | rfl
  · rfl
  · have hle : (n : Int) ≤ 2147483647 := Int.ofNat_le.mpr (h rfl)
    rw [Cell.counted_of_le (Nat.le_trans (h rfl) (by decide))]
    simp only [Cell.whole?_whole, Option.any_some, hle, decide_true]

/-- In a file counts are read as numbers of 32 bits. -/
theorem count?_of_le (hm : m.IsBackend) {n : Nat} (h : n ≤ maxSigned64)
    (hread : m = .embedded → n ≤ 4294967295) : m.count? (.counted n) = some n := by
  rw [Cell.counted_of_le h]
  rcases hm with rfl | rfl
  · have hrange : (0 : Int) ≤ n ∧ (n : Int) ≤ 4294967295 :=
      ⟨Int.natCast_nonneg n, Int.ofNat_le.mpr (hread rfl)⟩
    simp only [Cell.whole?_whole, Option.bind_some, if_pos hrange]
    rfl
  · rfl

/-- After so many claims, one more can be counted: counts are read as numbers of 32 bits, and a
server keeps them with a sign. -/
structure HasRoom (m : Medium) (n : Nat) : Prop where
  read : n < 4294967295
  kept : m = .server → n < 2147483647

theorem HasRoom.keepsCount (hm : m.IsBackend) {n : Nat} (h : m.HasRoom n) :
    m.keepsCount (.counted (n + 1)) = true :=
  keepsCount_of_le hm h.kept

theorem HasRoom.count? (hm : m.IsBackend) {n : Nat} (h : m.HasRoom n) :
    m.count? (.counted (n + 1)) = some (n + 1) :=
  count?_of_le hm (Nat.le_trans h.read (by decide)) fun _ => h.read

/-- A count that a server can still keep with one more has room on any medium. -/
theorem hasRoom_of_lt {c : Cell} {k : Nat} (hc : c = .counted k) (hk : k < 2147483647) {n : Nat}
    (hn : c = .counted n) : m.HasRoom n := by
  have hfits : k ≤ maxSigned64 := Nat.le_trans (Nat.le_of_lt hk) (by decide)
  rw [(Cell.counted_inj hfits).mp (hn.symm.trans hc)]
  exact ⟨Nat.lt_trans hk (by decide), fun _ => hk⟩

/-- A count that is read is the one that was kept, and it is a whole number. -/
theorem eq_of_count?_counted (hm : m.IsBackend) {n k : Nat} (h : m.count? (.counted n) = some k) :
    k = n ∧ n ≤ maxSigned64 := by
  rcases Nat.lt_or_ge maxSigned64 n with hlt | hle
  · rw [Cell.counted_of_lt hlt] at h
    rcases hm with rfl | rfl <;> cases h
  · rw [Cell.counted_of_le hle] at h
    refine ⟨?_, hle⟩
    rcases hm with rfl | rfl
    · simp only [Cell.whole?_whole, Option.bind_some, Option.ite_none_right_eq_some,
        Option.some.injEq] at h
      omega
    · simp only [Cell.whole?_whole, Option.map_some, Option.some.injEq] at h
      omega

/-- A count that is still read after one more claim went up by one. -/
theorem next_of_count? (hm : m.IsBackend) {n k : Nat}
    (h : m.count? (Cell.whole n).next = some k) :
    k = n + 1 ∧ (Cell.whole n).next = .whole (n + 1 : Nat) := by
  have hnone : ∀ x, m.count? (.real x) = none := by
    rcases hm with rfl | rfl <;> exact fun _ => rfl
  rcases Nat.lt_or_ge n maxSigned64 with hlt | hge
  · rw [Cell.next_whole hlt] at h ⊢
    rw [← Cell.counted_of_le hlt] at h
    exact ⟨(eq_of_count?_counted hm h).1, rfl⟩
  · obtain ⟨x, hnext⟩ := Cell.next_whole_of_le hge
    rw [hnext, hnone] at h
    cases h

theorem le_of_count?_counted {n k : Nat} (h : embedded.count? (.counted n) = some k) :
    n ≤ 4294967295 := by
  obtain ⟨rfl, hle⟩ := eq_of_count?_counted (.inl rfl) h
  rw [Cell.counted_of_le hle] at h
  simp only [Cell.whole?_whole, Option.bind_some, Option.ite_none_right_eq_some] at h
  omega

/-- A count that is kept and cannot be read is past 32 bits, and in a file. -/
theorem count?_eq_none (hm : m.IsBackend) {n : Nat} (hkept : m.keepsCount (.counted n) = true)
    (h : m.count? (.counted n) = none) : m = .embedded ∧ 4294967295 < n := by
  have hbig : ¬ (n ≤ maxSigned64 ∧ (m = .embedded → n ≤ 4294967295)) := fun hle => by
    rw [count?_of_le hm hle.1 hle.2] at h
    cases h
  rcases hm with rfl | rfl
  · refine ⟨rfl, Nat.lt_of_not_le fun hle => hbig ⟨Nat.le_trans hle (by decide), fun _ => hle⟩⟩
  · rcases Nat.lt_or_ge maxSigned64 n with hlt | hle
    · rw [Cell.counted_of_lt hlt] at hkept
      cases hkept
    · exact absurd ⟨hle, fun hfile => absurd hfile embedded_ne_server.symm⟩ hbig

theorem below_embedded (x y : String) : embedded.below x y = precedes x y := rfl

theorem below_server {x y : Int} : server.below x y = true ↔ x < y := decide_eq_true_iff

theorem atMost_eq_not_below (hm : m.IsBackend) (x y : m.Stamp) :
    m.atMost x y = !m.below y x := by
  rcases hm with rfl | rfl
  · rfl
  · show decide ((x : Int) ≤ y) = !decide ((y : Int) < x)
    rw [← decide_not]
    exact decide_eq_decide.mpr Int.not_lt.symm

/-- A smaller stamp belongs to an earlier instant. -/
theorem lt_of_below (hm : m.IsBackend) {a b : Instant} (ha : a.IsFourDigit)
    (hb : m = .server → b.nanos < 1000000000) {x y : m.Stamp} (hx : m.stamp? a = some x)
    (hy : m.stamp? b = some y) (h : m.below x y = true) : a < b := by
  rcases hm with rfl | rfl
  · cases hx
    cases hy
    rw [below_embedded] at h
    have hdigits := Instant.isFourDigit_of_precedes ha h
    exact Instant.lt_of_cut_lt_cut ((Instant.precedes_toMicros_iff ha hdigits).mp h)
  · simp only [server, Option.ite_none_right_eq_some, Option.some.injEq] at hx hy
    obtain ⟨-, rfl⟩ := hx
    obtain ⟨-, rfl⟩ := hy
    have hlt : serverMicros a < serverMicros b := below_server.mp h
    refine Instant.toNanos_lt (hb rfl) (Int.not_le.mp fun hle => ?_)
    exact absurd (serverMicros_mono hle) (Int.not_le.mpr hlt)

/-- The stamp of what is at most another instant is not above its stamp. -/
theorem below_eq_false_of_le (hm : m.IsBackend) {a b : Instant} (ha : m.IsOrdered a)
    (hb : b.IsFourDigit) {x y : m.Stamp} (hx : m.stamp? a = some x) (hy : m.stamp? b = some y)
    (h : a ≤ b) : m.below y x = false := by
  cases hbelow : m.below y x with
  | false => rfl
  | true => exact absurd h (Instant.not_le.mpr (lt_of_below hm hb ha.2 hy hx hbelow))

/-! ### Stamps that are read back -/

theorem serverMicros_of_instant? {t : Instant} {x : Int} (h : server.instant? x = some t) :
    serverMicros t = x := by
  have hsub : serverEpoch + x * 1000 - serverEpoch = x * 1000 := by omega
  unfold serverMicros
  rw [(Instant.ofNanos?_eq_some_iff.mp h).1, hsub]
  exact Int.mul_tdiv_cancel x (by decide)

/-- What is read from a stamp has that stamp, and on a server it is outside leap seconds. -/
theorem stamp?_of_instant? (hm : m.IsBackend) {v t : Instant} {x : m.Stamp}
    (hv : m.stamp? v = some x) (ht : m.instant? x = some t) :
    m.stamp? t = some x ∧ (m = .server → t.nanos < 1000000000) := by
  rcases hm with rfl | rfl
  · cases hv
    have hcut : v.cut = t := Option.some.inj ((Instant.ofText?_toMicros v).symm.trans ht)
    exact ⟨congrArg some (hcut ▸ v.toMicros_cut), fun h => absurd h embedded_ne_server⟩
  · simp only [server, Option.ite_none_right_eq_some, Option.some.injEq] at hv
    obtain ⟨hstart, rfl⟩ := hv
    have hmicros := serverMicros_of_instant? ht
    refine ⟨?_, fun _ => (Instant.ofNanos?_eq_some_iff.mp ht).2⟩
    simp [server, hmicros, hstart]

/-- The stamp is that of an instant of the years 0 to 9999, and is read back as that instant. -/
structure Marks (m : Medium) (x : m.Stamp) (t : Instant) : Prop where
  stamp : m.stamp? t = some x
  read : m.instant? x = some t
  digits : t.IsFourDigit

theorem marks_of_instant? (hm : m.IsBackend) {v t : Instant} {x : m.Stamp}
    (hv : m.stamp? v = some x) (ht : m.instant? x = some t) (hdigits : t.IsFourDigit) :
    m.Marks x t :=
  ⟨(stamp?_of_instant? hm hv ht).1, ht, hdigits⟩

/-- A whole number of microseconds is read back as it was. -/
theorem exists_marks (hm : m.IsBackend) {t : Instant} (ht : m.IsOrdered t)
    (hwhole : t.nanos % 1000 = 0) : ∃ x, m.Marks x t := by
  obtain ⟨x, hx⟩ := Option.isSome_iff_exists.mp (stamp?_isSome hm ht.1)
  refine ⟨x, hx, ?_, ht.1⟩
  rcases hm with rfl | rfl
  · cases hx
    show Instant.ofText? t.toMicros = some t
    rw [Instant.ofText?_toMicros, Instant.cut_eq_self hwhole]
  · simp only [server, Option.ite_none_right_eq_some, Option.some.injEq] at hx
    obtain ⟨-, rfl⟩ := hx
    refine Instant.ofNanos?_eq_some_iff.mpr ⟨?_, ht.2 rfl⟩
    unfold serverMicros serverEpoch Instant.toNanos
    rw [tdiv_thousand]
    split <;> omega

/-- Stamps compare as the instants that they mark. -/
theorem Marks.below_iff (hm : m.IsBackend) {t u : Instant} {x y : m.Stamp} (ht : m.Marks x t)
    (hu : m.Marks y u) : m.below x y = true ↔ t < u := by
  rcases hm with rfl | rfl
  · obtain rfl : t.toMicros = x := Option.some.inj ht.stamp
    obtain rfl : u.toMicros = y := Option.some.inj hu.stamp
    have htcut : t.cut = t := Option.some.inj ((Instant.ofText?_toMicros t).symm.trans ht.read)
    have hucut : u.cut = u := Option.some.inj ((Instant.ofText?_toMicros u).symm.trans hu.read)
    rw [below_embedded, Instant.precedes_toMicros_iff ht.digits hu.digits, htcut, hucut]
  · obtain ⟨htexact, htnanos⟩ := Instant.ofNanos?_eq_some_iff.mp ht.read
    obtain ⟨huexact, hunanos⟩ := Instant.ofNanos?_eq_some_iff.mp hu.read
    rw [below_server, Instant.lt_def]
    unfold Instant.toNanos at htexact huexact
    omega

theorem Marks.atMost_iff (hm : m.IsBackend) {t u : Instant} {x y : m.Stamp} (ht : m.Marks x t)
    (hu : m.Marks y u) : m.atMost x y = true ↔ t ≤ u := by
  rw [atMost_eq_not_below hm, Bool.not_eq_true', ← Bool.not_eq_true, hu.below_iff hm ht,
    Instant.not_lt]

theorem lt_serverMicros {t u now : Instant} {x : Int} (ht : server.instant? x = some t)
    (hadd : t.add? ⟨1000⟩ = some u) (hle : u ≤ now) : x < serverMicros now := by
  obtain ⟨hexact, hnanos⟩ := Instant.ofNanos?_eq_some_iff.mp ht
  have hcases := Instant.add?_cases (d := ⟨1000⟩) (by decide) hadd
  have hsum : u.nanos < 1000000000 ∧ u.toNanos = t.toNanos + 1000 := by
    dsimp only at hcases
    omega
  have hbound : u.toNanos ≤ now.toNanos := by
    rw [Instant.le_def] at hle
    unfold Instant.toNanos
    omega
  unfold serverMicros serverEpoch at *
  rw [tdiv_thousand]
  split <;> omega

/-- A stamp is below that of any instant from a microsecond after its own one on. -/
theorem below_of_add? (hm : m.IsBackend) {v t u now : Instant} {x stamp : m.Stamp}
    (hv : m.stamp? v = some x) (ht : m.instant? x = some t) (hdigits : t.IsFourDigit)
    (hnow : now.IsFourDigit) (hstamp : m.stamp? now = some stamp)
    (hadd : t.add? ⟨1000⟩ = some u) (hle : u ≤ now) : m.below x stamp = true := by
  rcases hm with rfl | rfl
  · have hx : t.toMicros = x := Option.some.inj (stamp?_of_instant? (.inl rfl) hv ht).1
    have hnowStamp : now.toMicros = stamp := Option.some.inj hstamp
    have hlt := Instant.cut_lt_cut_of_add? hadd hle
    rwa [← Instant.precedes_toMicros_iff hdigits hnow, hx, hnowStamp] at hlt
  · simp only [server, Option.ite_none_right_eq_some, Option.some.injEq] at hstamp
    rw [below_server, ← hstamp.2]
    exact lt_serverMicros ht hadd hle

/-- A stamp is at most that of any instant from its own one on. -/
theorem atMost_of_le (hm : m.IsBackend) {v t now : Instant} {x stamp : m.Stamp}
    (hv : m.stamp? v = some x) (ht : m.instant? x = some t) (hdigits : t.IsFourDigit)
    (hnow : now.IsFourDigit) (hstamp : m.stamp? now = some stamp) (hle : t ≤ now) :
    m.atMost x stamp = true := by
  obtain ⟨hx, hleap⟩ := stamp?_of_instant? hm hv ht
  rw [atMost_eq_not_below hm, below_eq_false_of_le hm ⟨hdigits, hleap⟩ hnow hx hstamp hle]
  rfl

/-- The instant as it is kept: what its stamp is read back as. -/
def kept? (m : Medium) (t : Instant) : Option Instant := (m.stamp? t).bind m.instant?

theorem kept?_eq_some_iff {t u : Instant} :
    m.kept? t = some u ↔ ∃ x, m.stamp? t = some x ∧ m.instant? x = some u :=
  Option.bind_eq_some_iff

/-- A medium in a file cuts instants to whole microseconds. -/
theorem kept?_embedded (t : Instant) : embedded.kept? t = some t.cut := by
  rw [kept?_eq_some_iff]
  exact ⟨t.toMicros, rfl, Instant.ofText?_toMicros t⟩

/-- What is kept of an instant of the years 0 to 9999 is no earlier than year 0, and a server's
leap second at the end of year 9999 alone is after it. -/
theorem isFourDigit_of_kept? (hm : m.IsBackend) {t u v : Instant} (ht : t.IsFourDigit)
    (hv : v.IsFourDigit) (hu : m.kept? t = some u) (hle : u ≤ v) : u.IsFourDigit := by
  have hlow := (Instant.seconds_of_isFourDigit ht).1
  have hhigh := (Instant.seconds_of_isFourDigit hv).2
  have hseconds : u.seconds ≤ v.seconds := by
    rw [Instant.le_def] at hle
    omega
  refine Instant.isFourDigit_of_seconds ?_ (by omega)
  rcases hm with rfl | rfl
  · rw [kept?_embedded, Option.some.injEq] at hu
    rwa [← hu]
  · obtain ⟨x, hx, hread⟩ := kept?_eq_some_iff.mp hu
    simp only [server, Option.ite_none_right_eq_some, Option.some.injEq] at hx
    obtain ⟨-, rfl⟩ := hx
    obtain ⟨hexact, hnanos⟩ := Instant.ofNanos?_eq_some_iff.mp hread
    unfold serverMicros serverEpoch Instant.toNanos at hexact
    rw [tdiv_thousand] at hexact
    split at hexact <;> omega

/-- Stamps are in the order of the instants that they are read back as. -/
theorem atMost_of_kept?_le (hm : m.IsBackend) {t u v w : Instant} {x y : m.Stamp}
    (hx : m.stamp? t = some x) (ht : t.IsFourDigit) (hu : m.kept? t = some u)
    (hy : m.stamp? w = some y) (hv : m.instant? y = some v) (hdigits : v.IsFourDigit)
    (hle : u ≤ v) : m.atMost x y = true := by
  obtain ⟨z, hz, hread⟩ := kept?_eq_some_iff.mp hu
  cases hx.symm.trans hz
  exact atMost_of_le hm hx hread (isFourDigit_of_kept? hm ht hdigits hu hle) hdigits
    (stamp?_of_instant? hm hy hv).1 hle

/-- What is below a stamp is below all that the stamp is not above. -/
theorem below_of_below (hm : m.IsBackend) {x y z : m.Stamp} (hxy : m.below x y = true)
    (hzy : m.below z y = false) : m.below x z = true := by
  rcases hm with rfl | rfl
  · exact isBefore_of_isBefore hxy hzy
  · have hlt : (x : Int) < y := below_server.mp hxy
    have hle : ¬ (z : Int) < y := fun h => by
      rw [below_server.mpr h] at hzy
      cases hzy
    exact below_server.mpr (Int.lt_of_lt_of_le hlt (Int.not_lt.mp hle))

end Backlog.Medium

end ArtifactRelay
