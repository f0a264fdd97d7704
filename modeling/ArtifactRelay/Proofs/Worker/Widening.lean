import ArtifactRelay.Proofs.Backlog.Exclusivity
import ArtifactRelay.Proofs.Fleet.Basic

/-!
# ArtifactRelay.Proofs.Worker.Widening

A wider window finds no fewer duplicates.  The window of a check is taken away from the clock, and
what is left bounds from below what counts: the last change of a row, and the time of a report.  A
wider window leaves an earlier instant, or none at all (`le_of_sub?`, `sub?_isSome_iff`), and what
is counted from an instant on is counted from an earlier one on (`Medium.Widens`), whatever sign the
years of these instants have.

So the answer of a check with a window is carried over to every wider one.  The registration behind
it writes the same row, whichever window it looks through; but a server refuses a bound from before
its calendar, and then nothing is written and nothing found (`checkContent_narrower`).
-/

namespace ArtifactRelay

open Backlog Backlog.Store Text Time Worker

/-! ## Earlier instants -/

namespace Time.Instant

/-- What a span that is not negative takes away.  Only a step of less than a second from a leap
second stays in the second before it. -/
theorem sub?_eq (t : Instant) {d : Span} (hd : 0 ≤ d.nanos) :
    t.sub? d =
      if t.nanos < 1000000000 ∨ 1000000000 ≤ d.nanos then ofNanos? (t.toNanos - d.nanos)
      else ofParts? t.seconds (t.nanos - d.nanos).toNat := by
  have hwhole : (-d.nanos).tdiv 1000000000 = -(d.nanos / 1000000000) := by
    rw [Int.neg_tdiv, Int.tdiv_eq_ediv_of_nonneg hd]
  have hpart : (-d.nanos).tmod 1000000000 = -(d.nanos % 1000000000) := by
    rw [Int.neg_tmod, Int.tmod_eq_emod_of_nonneg hd]
  unfold sub? add? Span.neg
  simp only [hwhole, hpart]
  by_cases hleap : t.nanos < 1000000000
  · rw [if_pos hleap, if_pos (.inl hleap), Int.sub_eq_add_neg]
  · rw [if_neg hleap, if_neg (by omega)]
    by_cases hlong : 1000000000 ≤ d.nanos
    · rw [if_pos (by omega), if_pos (.inr hlong), Int.sub_eq_add_neg]
    · rw [if_neg (by omega), if_neg (by omega), Int.emod_eq_of_lt hd (by omega),
        Int.sub_eq_add_neg]

/-- An instant has one a span before it if the calendar reaches back so far. -/
theorem sub?_isSome_iff {t : Instant} {d : Span} (hd : 0 ≤ d.nanos) :
    (t.sub? d).isSome = true ↔ earliestSecond ≤ (t.toNanos - d.nanos) / 1000000000 := by
  have hlow := t.earliest_le
  have hhigh := t.le_latest
  have hnanos := t.nanos_lt
  have hleap := t.leap
  rw [sub?_eq t hd]
  split
  · rw [ofNanos?_isSome_iff]
    unfold toNanos
    omega
  · unfold ofParts? toNanos
    rw [dif_pos (by omega)]
    simp only [Option.isSome_some, true_iff]
    omega

/-- More time before an instant is an earlier one. -/
theorem le_of_sub? {t u v : Instant} {d e : Span} (hd : 0 ≤ d.nanos) (hle : d.nanos ≤ e.nanos)
    (hu : t.sub? d = some u) (hv : t.sub? e = some v) : v ≤ u ∧ v.toNanos ≤ u.toNanos := by
  have hnanos := t.nanos_lt
  rw [sub?_eq t hd] at hu
  rw [sub?_eq t (Int.le_trans hd hle)] at hv
  rw [le_def]
  unfold toNanos at *
  split at hu <;> split at hv <;>
    simp only [ofNanos?_eq_some_iff, ofParts?_eq_some_iff, toNanos] at hu hv <;> omega

theorem sub?_le {t u : Instant} {d : Span} (hd : 0 ≤ d.nanos) (hu : t.sub? d = some u) : u ≤ t := by
  have hleap := t.leap
  have hnanos := t.nanos_lt
  rw [sub?_eq t hd] at hu
  rw [le_def]
  split at hu <;> simp only [ofNanos?_eq_some_iff, ofParts?_eq_some_iff, toNanos] at hu <;> omega

end Time.Instant

/-! ## Wider windows -/

/-- A window reaches no further back than another one; without an end it reaches furthest. -/
def Dedup.Window.IsWithin (w wider : Dedup.Window) : Prop :=
  ∀ e ∈ wider, ∃ d ∈ w, d.nanos ≤ e.nanos

/-- A wider window leaves an earlier instant, and the narrower one leaves one as well. -/
theorem Dedup.Window.IsWithin.since {w wider : Dedup.Window} (h : w.IsWithin wider)
    (hw : ∀ d ∈ w, 0 ≤ d.nanos) {now v : Instant} (hv : wider.since now = some v) :
    ∃ u, w.since now = some u ∧ v ≤ u ∧ v.toNanos ≤ u.toNanos ∧ u ≤ now := by
  obtain ⟨e, he, hv⟩ := Option.bind_eq_some_iff.mp hv
  obtain ⟨d, hd, hle⟩ := h e he
  have hnonneg := hw d hd
  have hreaches : (now.sub? d).isSome = true := by
    have hwider : (now.sub? e).isSome = true := by rw [hv]; rfl
    rw [Instant.sub?_isSome_iff (Int.le_trans hnonneg hle)] at hwider
    rw [Instant.sub?_isSome_iff hnonneg]
    omega
  obtain ⟨u, hu⟩ := Option.isSome_iff_exists.mp hreaches
  obtain ⟨horder, hnanos⟩ := Instant.le_of_sub? hnonneg hle hu hv
  refine ⟨u, ?_, horder, hnanos, Instant.sub?_le hnonneg hu⟩
  rw [Dedup.Window.since, Option.mem_def.mp hd]
  exact hu

namespace Backlog

namespace Medium

variable {m : Medium}

/-- What is kept is kept later. -/
theorem stamp?_isSome_of_le (hm : m.IsBackend) {t u : Instant} (hle : t.toNanos ≤ u.toNanos)
    (ht : (m.stamp? t).isSome = true) : (m.stamp? u).isSome = true := by
  rcases hm with rfl | rfl
  · rfl
  · have hmicros := serverMicros_mono hle
    have hstart : serverStart ≤ serverMicros t := by
      simpa [server, Option.isSome_iff_exists] using ht
    simp [server, Int.le_trans hstart hmicros]

/-- What is at or after a stamp is at or after the stamps of earlier instants. -/
theorem atMost_of_earlier (hm : m.IsBackend) {t u w now : Instant} {x y z : m.Stamp}
    (hx : m.stamp? t = some x) (hy : m.stamp? u = some y) (horder : t ≤ u)
    (hnanos : t.toNanos ≤ u.toNanos) (hpast : u ≤ now) (hnow : now.IsFourDigit)
    (hz : m.Marks z w) (h : m.atMost y z = true) : m.atMost x z = true := by
  rw [atMost_eq_not_below hm, Bool.not_eq_true'] at h ⊢
  rcases hm with rfl | rfl
  · cases hx
    cases hy
    obtain rfl : w.toMicros = z := Option.some.inj hz.stamp
    refine Bool.eq_false_iff.mpr fun hlater => ?_
    rw [below_embedded] at h hlater
    -- only texts of the years 0 to 9999 come after one of them
    have ht := Instant.isFourDigit_of_precedes hz.digits hlater
    have hu : u.IsFourDigit := by
      have hlow := (Instant.seconds_of_isFourDigit ht).1
      have hhigh := (Instant.seconds_of_isFourDigit hnow).2
      rw [Instant.le_def] at horder hpast
      exact Instant.isFourDigit_of_seconds (by omega) (by omega)
    rw [Instant.precedes_toMicros_iff hz.digits ht] at hlater
    rw [← Bool.not_eq_true, Instant.precedes_toMicros_iff hz.digits hu] at h
    simp only [Instant.lt_def, Instant.seconds_cut, Instant.nanos_cut] at h hlater
    rw [Instant.le_def] at horder
    omega
  · simp only [server, Option.ite_none_right_eq_some, Option.some.injEq] at hx hy
    obtain ⟨-, rfl⟩ := hx
    obtain ⟨-, rfl⟩ := hy
    have hle := serverMicros_mono hnanos
    rw [← Bool.not_eq_true, below_server] at h ⊢
    omega

/-- Whatever counts from the first bound on counts from the second one on. -/
def Widens (m : Medium) (bound wider : Option m.Stamp) : Prop :=
  ∀ z w, m.Marks z w → bound.all (m.atMost · z) = true → wider.all (m.atMost · z) = true

/-- The bound of a wider window is the wider one. -/
theorem widens_since (hm : m.IsBackend) {w wider : Dedup.Window} (hw : ∀ d ∈ w, 0 ≤ d.nanos)
    (hwithin : w.IsWithin wider) {now : Instant} (hnow : now.IsFourDigit) :
    m.Widens ((w.since now).bind m.stamp?) ((wider.since now).bind m.stamp?) := by
  intro z w hz hcounts
  rw [Option.all_eq_true] at hcounts ⊢
  intro x hx
  obtain ⟨t, ht, hx⟩ := Option.bind_eq_some_iff.mp hx
  obtain ⟨u, hu, horder, hnanos, hpast⟩ := hwithin.since hw ht
  obtain ⟨y, hy⟩ := Option.isSome_iff_exists.mp
    (stamp?_isSome_of_le hm hnanos (Option.isSome_iff_exists.mpr ⟨x, hx⟩))
  refine atMost_of_earlier hm hx hy horder hnanos hpast hnow hz (hcounts y ?_)
  rw [hu]
  exact hy

end Medium

namespace Store

variable {m : Medium} {s : Store m}

/-- What looks further back finds what was found. -/
theorem hasDuplicate_of_widens (hm : m.IsBackend) {bound wider : Option m.Stamp}
    (hwidens : m.Widens bound wider) (hs : s.IsReachable)
    (hrows : ∀ r ∈ s.rows, ∃ t ∈ m.instant? r.updatedAt, t.IsFourDigit)
    (hreports : ∀ a ∈ s.reports.getD [], ∃ t ∈ m.instant? a.reportedAt, t.IsFourDigit) {id : Int}
    {hash : String} {now : m.Stamp} (h : s.hasDuplicate id hash now bound = true) :
    s.hasDuplicate id hash now wider = true := by
  unfold hasDuplicate at h ⊢
  rw [Bool.or_eq_true, List.any_eq_true, List.any_eq_true] at h ⊢
  refine h.imp (fun ⟨r, hr, hduplicates⟩ => ⟨r, hr, ?_⟩) fun ⟨a, ha, hduplicates⟩ => ⟨a, ha, ?_⟩
  · unfold Row.duplicates at hduplicates ⊢
    rw [Bool.and_eq_true] at hduplicates ⊢
    obtain ⟨t, ht, hdigits⟩ := hrows r hr
    have hfind := find?_of_mem (isNumbered_of_isReachable hs) hr
    obtain ⟨v, hv⟩ := isStamped_of_isReachable hs r.id r hfind r.updatedAt (by simp [Row.stamps])
    exact ⟨hduplicates.1, hwidens _ t (Medium.marks_of_instant? hm hv ht hdigits) hduplicates.2⟩
  · unfold Report.duplicates at hduplicates ⊢
    rw [Bool.and_eq_true] at hduplicates ⊢
    obtain ⟨t, ht, hdigits⟩ := hreports a ha
    obtain ⟨v, hv⟩ := exists_stamp_of_mem_reports hs ha
    exact ⟨hduplicates.1, hwidens _ t (Medium.marks_of_instant? hm hv ht hdigits) hduplicates.2⟩

end Store

end Backlog

/-! ## Checks -/

namespace Worker

variable {m : Medium} {s : Store m} {x : World} {w wider : Dedup.Window}

/-- A check asks for the time and registers the hash of its content. -/
theorem run_checkContent (x : World) (s : Store m) (w : Dedup.Window) (id : Int)
    {content : Artifact.Content} {hash : String} (hhash : content.hash? = some hash) :
    (checkContent w id content).run x.answer s =
      (.ofAnswer hash (x.reach s (s.registerHash id hash x.clock (w.since x.clock))).1,
        (x.reach s (s.registerHash id hash x.clock (w.since x.clock))).2) := by
  unfold checkContent
  rw [hhash]
  rfl

/-- What a registration finds within a window it finds within every wider one, and it writes the
same. -/
theorem registerHash_wider (hm : m.IsBackend) (hs : s.IsReachable)
    (hrows : ∀ r ∈ s.rows, ∃ t ∈ m.instant? r.updatedAt, t.IsFourDigit)
    (hreports : ∀ a ∈ s.reports.getD [], ∃ t ∈ m.instant? a.reportedAt, t.IsFourDigit)
    {now : Instant} (hnow : now.IsFourDigit) (hw : ∀ d ∈ w, 0 ≤ d.nanos)
    (hwithin : w.IsWithin wider) (hkept : ∀ t ∈ wider.since now, (m.stamp? t).isSome = true)
    {id : Int} {hash : String} (h : (s.registerHash id hash now (w.since now)).1 = .ok true) :
    s.registerHash id hash now (wider.since now) = s.registerHash id hash now (w.since now) := by
  rcases s.registerHash_cases id hash now (w.since now) with
    ⟨e, hcase⟩ | ⟨stamp, bound, htext, hstamp, rfl, -, hcase⟩
  · rw [hcase] at h
    cases h
  · have hid : ∀ q : Row m.Stamp, (q.register hash stamp).id = q.id := fun _ => Row.id_register ..
    rw [hcase, Store.hasDuplicate_modify s id hid] at h
    have hfound := Except.ok.inj h
    have hwider := Store.hasDuplicate_of_widens hm (Medium.widens_since hm hw hwithin hnow) hs hrows
      hreports hfound
    rw [hcase, Store.registerHash_of_kept htext hstamp (Medium.stampOption_of_kept hkept)
      (Store.isSome_reports_of_isReachable hs), Store.hasDuplicate_modify s id hid,
      Store.hasDuplicate_modify s id hid, hfound, hwider]

/-- A check that finds a duplicate within a window does so within every wider one, and leaves the
same store, if the instant that the wider window reaches back to is kept: in a file every instant
is, on a server those of its calendar. -/
theorem checkContent_wider (hm : m.IsBackend) (hs : s.IsReachable)
    (hrows : ∀ r ∈ s.rows, ∃ t ∈ m.instant? r.updatedAt, t.IsFourDigit)
    (hreports : ∀ a ∈ s.reports.getD [], ∃ t ∈ m.instant? a.reportedAt, t.IsFourDigit)
    (hclock : x.clock.IsFourDigit) (hw : ∀ d ∈ w, 0 ≤ d.nanos) (hwithin : w.IsWithin wider)
    (hkept : ∀ t ∈ wider.since x.clock, (m.stamp? t).isSome = true) {id : Int}
    {content : Artifact.Content} {hash : String}
    (h : ((checkContent w id content).run x.answer s).1 = .duplicate hash) :
    (checkContent wider id content).run x.answer s =
      (checkContent w id content).run x.answer s := by
  cases hhash : content.hash? with
  | none =>
    unfold checkContent at h
    rw [hhash] at h
    cases h
  | some key =>
    rw [run_checkContent x s w id hhash] at h
    rw [run_checkContent x s w id hhash, run_checkContent x s wider id hhash]
    have hfound : (x.reach s (s.registerHash id key x.clock (w.since x.clock))).1 = .ok true := by
      generalize (x.reach s (s.registerHash id key x.clock (w.since x.clock))).1 = answer at h
      rcases answer with e | _ | _
      · cases h
      · cases h
      · rfl
    have hanswer := hfound
    rw [x.reach_of_fst_eq_ok hfound] at hanswer
    have hsame := registerHash_wider hm hs hrows hreports hclock hw hwithin hkept hanswer
    rw [hsame]

/-- A moment of which only the time matters. -/
def still (time : Instant) : World := ⟨time, false, none, .error .timeout, none⟩

/-- A report of half a minute ago is found within a minute, and within three thousand years, which
reach back to before year 0. -/
theorem checkContent_wider_than_calendar :
    let s := (Store.empty .embedded).afterAll
      [.enqueue seen (clock 0), .report ⟨"h", none, clock 0⟩]
    let check (w : Dedup.Window) :=
      (checkContent w 1 (.computed "h")).run (still (clock 30)).answer s
    (check (some (.ofSeconds 60))).1 = .duplicate "h" ∧
      check (some (.ofSeconds 94867200000)) = check (some (.ofSeconds 60)) := by
  intro s check
  have hs : s.IsReachable := ⟨_, rfl⟩
  have hfound : (check (some (.ofSeconds 60))).1 = .duplicate "h" := by rfl
  refine ⟨hfound, checkContent_wider (.inl rfl) hs (by decide +kernel) (by decide +kernel)
    (by decide) (by decide) (fun _ he => ⟨_, rfl, by cases he; decide⟩) (fun _ _ => rfl) hfound⟩

/-- On a server seven thousand years reach back to before its calendar: nothing is found any more,
and the hash is not written. -/
theorem checkContent_narrower :
    let s := (Store.empty .server).afterAll
      [.enqueue seen (clock 0), .report ⟨"h", none, clock 0⟩]
    let check (w : Dedup.Window) :=
      (checkContent w 1 (.computed "h")).run (still (clock 30)).answer s
    (check (some (.ofSeconds 60))).1 = .duplicate "h" ∧
      (check (some (.ofSeconds 220903200000))).1 = .unchecked ∧
      (check (some (.ofSeconds 60))).2.rows.map (·.contentHash) = [some "h"] ∧
      (check (some (.ofSeconds 220903200000))).2.rows.map (·.contentHash) = [none] :=
  ⟨by rfl, by rfl, by rfl, by rfl⟩

end Worker

end ArtifactRelay
