import ArtifactRelay.Proofs.Backlog.Preservation

/-!
# ArtifactRelay.Proofs.Backlog.Copies

Two items with one content.  A registration looks for other rows under the hash that it
brings, but it leaves the row that it writes under the hash that was there first.  So
an item that was told that its content is new counts as a copy of that content from
then on if the hash went into its row, and not if the row had another hash before
(`registerHash_copy`).

In the first case every registration of another item under that hash is told of the
duplicate while the first item counts.  In the second case it is told what it would be
told if the first item were not there, so both items may come out as new
(`registerHash_copy_renamed`).
-/

namespace ArtifactRelay.Backlog

open Text Time

variable {m : Medium}

/-! ## Rows that count -/

/-- The instant, as it is kept, is at most that of the stamp. -/
def Medium.IsUpTo (m : Medium) (t : Instant) (x : m.Stamp) : Prop :=
  ∃ u v, m.kept? t = some u ∧ m.instant? x = some v ∧ v.IsFourDigit ∧ u ≤ v

/-- The row's content counts: it was forwarded, or it is claimed under a lease that lasts up to
`now`, and it was last changed at or after `since`. -/
structure Row.CountsAt (r : Row m.Stamp) (now : Instant) (since : Option Instant) : Prop where
  active : r.isIn .forwarded = true ∨
    r.isIn .claimed = true ∧ ∃ lease, r.leaseUntil = some lease ∧ m.IsUpTo now lease
  recent : ∀ first ∈ since, m.IsUpTo first r.updatedAt

theorem Medium.IsUpTo.atMost (hm : m.IsBackend) {t w : Instant} {x y : m.Stamp}
    (h : m.IsUpTo t y) (ht : t.IsFourDigit) (hx : m.stamp? t = some x) (hy : m.stamp? w = some y) :
    m.atMost x y = true := by
  obtain ⟨u, v, hu, hv, hdigits, hle⟩ := h
  exact Medium.atMost_of_kept?_le hm hx ht hu hy hv hdigits hle

/-- A row that counts makes its hash a duplicate for every other row. -/
theorem Row.CountsAt.duplicates (hm : m.IsBackend) {r : Row m.Stamp} {now : Instant}
    {since : Option Instant} (h : r.CountsAt now since)
    (hstamped : ∀ x ∈ r.stamps, ∃ t, m.stamp? t = some x) (hnow : now.IsFourDigit)
    (hsince : ∀ t ∈ since, t.IsFourDigit) {stamp : m.Stamp} (hstamp : m.stamp? now = some stamp)
    {hash : String} (hhash : r.contentHash = some hash) {id : Int} (hid : r.id ≠ id) :
    r.duplicates m id hash stamp (since.bind m.stamp?) = true := by
  have hactive : r.isActive m stamp = true := by
    unfold Row.isActive
    rcases h.active with hforwarded | ⟨hclaimed, lease, hlease, hupto⟩
    · rw [hforwarded]
      rfl
    · obtain ⟨w, hw⟩ := hstamped lease (Row.mem_stamps_of_leaseUntil hlease)
      rw [hclaimed, hlease, Option.any_some, hupto.atMost hm hnow hstamp hw]
      simp
  have hrecent : (since.bind m.stamp?).all (m.atMost · r.updatedAt) = true := by
    cases since with
    | none => rfl
    | some first =>
      have hdigits := hsince first rfl
      obtain ⟨x, hx⟩ := Option.isSome_iff_exists.mp (Medium.stamp?_isSome hm hdigits)
      obtain ⟨w, hw⟩ := hstamped r.updatedAt (by simp [Row.stamps])
      rw [Option.bind_some, hx, Option.all_some]
      exact (h.recent first rfl).atMost hm hdigits hx hw
  simp [Row.duplicates, hhash, hid, hactive, hrecent]

namespace Store

/-! ## The backlog without an item -/

/-- The store without the row of a number. -/
def without (s : Store m) (id : Int) : Store m :=
  { s with rows := s.rows.filter (·.id ≠ id) }

/-- A row under another hash makes no duplicate. -/
theorem hasDuplicate_without {s : Store m} {a b : Int} {hash : String} (hne : a ≠ b)
    (hother : ∀ r ∈ s.rows, r.id = a → r.contentHash ≠ some hash) (now : m.Stamp)
    (since : Option m.Stamp) :
    ((s.without a).modify b (·.register hash now)).hasDuplicate b hash now since =
      (s.modify b (·.register hash now)).hasDuplicate b hash now since := by
  have hrows : ∀ r ∈ s.rows, r.id = a →
      (if r.id = b then r.register hash now else r).duplicates m b hash now since = false := by
    intro r hr hid
    have hhash : (r.contentHash == some hash) = false := beq_eq_false_iff_ne.mpr (hother r hr hid)
    rw [if_neg (hid ▸ hne)]
    simp [Row.duplicates, hhash]
  unfold hasDuplicate without modify
  dsimp only
  congr 1
  rw [List.any_map, List.any_map, List.any_filter]
  refine Bool.eq_iff_iff.mpr ?_
  simp only [List.any_eq_true, Bool.and_eq_true, decide_eq_true_eq, Function.comp]
  constructor
  · rintro ⟨r, hr, -, hduplicates⟩
    exact ⟨r, hr, hduplicates⟩
  · rintro ⟨r, hr, hduplicates⟩
    refine ⟨r, hr, fun hid => ?_, hduplicates⟩
    rw [hrows r hr hid] at hduplicates
    cases hduplicates

/-! ## Two registrations -/

/-- A registration that is accepted leaves the item under the hash that was there first. -/
theorem find?_of_registerHash {s : Store m} {id : Int} {r : Row m.Stamp} (hr : s.find? id = some r)
    {hash : String} {now : Instant} {since : Option Instant} {duplicate : Bool}
    (h : (s.registerHash id hash now since).1 = .ok duplicate) :
    m.keepsText hash = true ∧ ∃ r', (s.registerHash id hash now since).2.find? id = some r' ∧
      r'.contentHash = some (r.contentHash.getD hash) := by
  rcases s.registerHash_cases id hash now since with ⟨e, hcase⟩ | ⟨stamp, _, hkept, -, -, -, hcase⟩
  · rw [hcase] at h
    cases h
  · rw [hcase]
    exact ⟨hkept, _, find?_modify_self (fun _ => Row.id_register ..) hr, rfl⟩

/-- **A copy is told of the first one.**  An item that was told that its content is new is there for
good, under the hash that was registered for it first.  While it counts, the registration of any
other item under the hash that it was told about is told of a duplicate, if that hash is the one that it
is kept under; and if it is kept under another one, the registration is told what it is told
where the item is not there. -/
theorem registerHash_copy (hm : m.IsBackend) {s : Store m} (hs : s.IsReachable) {a b : Int}
    (hne : a ≠ b) {before : Row m.Stamp} (hbefore : s.find? a = some before) {hash : String}
    {start : Instant} {since : Option Instant}
    (hfirst : (s.registerHash a hash start since).1 = .ok false) (calls : List Call) :
    let later := (s.registerHash a hash start since).2.afterAll calls
    ∃ r, later.find? a = some r ∧ r.contentHash = some (before.contentHash.getD hash) ∧
      ∀ now since, now.IsFourDigit → (∀ t ∈ since, t.IsFourDigit) → r.CountsAt now since →
        (before.contentHash.getD hash = hash →
          (later.registerHash b hash now since).1 = .ok true) ∧
        (before.contentHash.getD hash ≠ hash →
          (later.registerHash b hash now since).1 =
            ((later.without a).registerHash b hash now since).1) := by
  intro later
  have hlater : later.IsReachable :=
    (hs.afterAll [.registerHash a hash start since]).afterAll calls
  have hnumbered := isNumbered_of_isReachable hlater
  obtain ⟨hkept, r₁, hr₁, hhash₁⟩ := find?_of_registerHash hbefore hfirst
  have hs₁ : (s.after (.registerHash a hash start since)).IsReachable :=
    hs.afterAll [.registerHash a hash start since]
  obtain ⟨r, hr, hcontinues⟩ := continues_afterAll (isNumbered_of_isReachable hs₁) calls hr₁
  have hr : later.find? a = some r := hr
  have hhash := hcontinues.contentHash _ hhash₁
  refine ⟨r, hr, hhash, fun now since hnow hsince hcounts => ?_⟩
  obtain ⟨stamp, hstamp⟩ := Option.isSome_iff_exists.mp (Medium.stamp?_isSome hm hnow)
  have hsinceStamp : m.stampOption since = .ok (since.bind m.stamp?) := by
    refine Medium.stampOption_eq_ok.mpr ⟨rfl, ?_⟩
    cases since with
    | none => rfl
    | some first => exact (Medium.stamp?_isSome hm (hsince first rfl)).symm
  have hreports := isSome_reports_of_isReachable hlater
  have hid := id_of_find? hr
  constructor
  · intro hsame
    have hduplicates := hcounts.duplicates hm (isStamped_of_isReachable hlater a r hr) hnow hsince
      hstamp (hsame ▸ hhash) (hid ▸ hne)
    have hkeptRow : (later.modify b (·.register hash stamp)).find? a = some r := by
      rwa [find?_modify_ne (fun _ => Row.id_register ..) hne]
    rw [registerHash_of_kept hkept hstamp hsinceStamp hreports]
    refine congrArg Except.ok (Bool.or_eq_true_iff.mpr (.inl ?_))
    exact List.any_eq_true.mpr ⟨r, mem_of_find? hkeptRow, hduplicates⟩
  · intro hother
    have hunlike : ∀ q ∈ later.rows, q.id = a → q.contentHash ≠ some hash := by
      intro q hq hqid hqhash
      have hfind := find?_of_mem hnumbered hq
      rw [hqid, hr] at hfind
      cases hfind
      exact hother (Option.some.inj (hhash.symm.trans hqhash))
    rw [registerHash_of_kept hkept hstamp hsinceStamp hreports,
      registerHash_of_kept hkept hstamp hsinceStamp (s := later.without a) hreports]
    exact congrArg Except.ok (hasDuplicate_without hne hunlike stamp _).symm

/-- A file whose content was replaced while it was processed: its item is kept under the hash of
the first attempt, and a second item with the new content comes out as new beside it. -/
theorem registerHash_copy_renamed :
    let s := (empty .embedded).afterAll [.enqueue seen (clock 0), .enqueue seen (clock 0),
      .claim "a" (clock 0) (.ofSeconds 60), .registerHash 1 "g" (clock 0) none]
    let later := (s.registerHash 1 "h" (clock 1) none).2
    (s.registerHash 1 "h" (clock 1) none).1 = .ok false ∧
      ∃ r, later.find? 1 = some r ∧ r.contentHash = some "g" ∧ r.CountsAt (clock 2) none ∧
        (later.registerHash 2 "h" (clock 2) none).1 =
          ((later.without 1).registerHash 2 "h" (clock 2) none).1 ∧
        (later.registerHash 2 "h" (clock 2) none).1 = .ok false := by
  intro s later
  have hs : s.IsReachable := ⟨_, rfl⟩
  have hbefore : ∃ r ∈ s.find? 1, r.contentHash = some "g" := by decide +kernel
  have hfirst : (s.registerHash 1 "h" (clock 1) none).1 = .ok false := by rfl
  have hsecond : (later.registerHash 2 "h" (clock 2) none).1 = .ok false := by rfl
  have hclaimed : ∃ r ∈ later.find? 1, r.isIn .claimed = true ∧
      r.leaseUntil = some (clock 60).toMicros := by decide +kernel
  clear_value s
  obtain ⟨before, hbefore, hg⟩ := hbefore
  obtain ⟨r, hr, hhash, hcopy⟩ := registerHash_copy (.inl rfl) hs (show (1 : Int) ≠ 2 by decide)
    hbefore hfirst []
  rw [hg, Option.getD_some] at hhash hcopy
  obtain ⟨q, hq, hstatus, hlease⟩ := hclaimed
  cases hr.symm.trans hq
  have hcounts : r.CountsAt (clock 2) none :=
    ⟨.inr ⟨hstatus, _, hlease, (clock 2).cut, (clock 60).cut, Medium.kept?_embedded _,
      Instant.ofText?_toMicros _, by decide, by decide⟩, by simp⟩
  have hsame := (hcopy (clock 2) none (by decide) (by simp) hcounts).2 (by decide)
  exact ⟨hfirst, r, hr, hhash, hcounts, hsame, hsecond⟩

end Store

end ArtifactRelay.Backlog
