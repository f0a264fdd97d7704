import ArtifactRelay.Proofs.Fleet.Holding

/-!
# ArtifactRelay.Proofs.Fleet.Sparing

Whether a copy of every content is spared.  An item that is retired as a duplicate
gives way to another copy, so not all copies should be retired.  But a registration
takes every claimed copy for one that is under way, also a copy whose own holder was
told "duplicate" and has not recorded it yet.

A row is fated if it was retired as a duplicate or its holder is about to do so, and a
content is doomed once all its copies are fated.  Nothing dooms a content but the
registration of an item by its holder that is answered "duplicate"
(`isDoomed_of_after`), and a doomed content is lost as soon as the holders record what
they were told (`exists_not_spares`).  `spares_unless_doomed` puts the two together.
-/

namespace ArtifactRelay

open Backlog Time Worker

/-- The row was retired as a duplicate of a content. -/
def Backlog.Row.IsDuplicateOf {σ : Type} (r : Row σ) (hash : String) : Prop :=
  r.isIn .dead = true ∧ r.duplicateOf = some hash

/-- If an item was retired as a duplicate of a content, there is a report of the content or a copy
of it that was not retired as a duplicate. -/
def Backlog.Store.Spares {m : Medium} (s : Store m) (hash : String) : Prop :=
  (∃ r ∈ s.rows, r.IsDuplicateOf hash) →
    (∃ a ∈ s.reports.getD [], a.contentHash = hash) ∨
      ∃ r ∈ s.rows, r.contentHash = some hash ∧ ∀ other, ¬ r.IsDuplicateOf other

namespace Fleet

variable {m : Medium} {ι : Type} [DecidableEq ι] (crew : ι → Worker)

/-! ## Texts of a duplicate -/

section

omit [DecidableEq ι]

theorem keepsText_append (hm : m.IsBackend) {a b : String} (ha : m.keepsText a = true)
    (hb : m.keepsText b = true) : m.keepsText (a ++ b) = true := by
  rcases hm with rfl | rfl
  · rfl
  · change (a ++ b).toList.all _ = true
    rw [String.toList_append, List.all_append]
    exact Bool.and_eq_true_iff.mpr ⟨ha, hb⟩

theorem keepsText_of_digits (hm : m.IsBackend) {s : String}
    (hs : ∀ c ∈ s.toList, c.isDigit = true) : m.keepsText s = true := by
  rcases hm with rfl | rfl
  · rfl
  · refine List.all_eq_true.mpr fun c hc => ?_
    have hne : c ≠ '\x00' := by
      rintro rfl
      exact absurd (hs _ hc) (by decide)
    exact decide_eq_true hne

theorem keepsText_toString (hm : m.IsBackend) (n : Int) : m.keepsText (toString n) = true := by
  have hrepr : ∀ k : Nat, m.keepsText k.repr = true := fun k => by
    refine keepsText_of_digits hm fun c hc => ?_
    rw [Nat.toList_repr] at hc
    exact Nat.isDigit_of_mem_toDigits (by decide) (by decide) hc
  have hsign : m.keepsText "-" = true := by
    rcases hm with rfl | rfl <;> rfl
  cases n with
  | ofNat k => exact hrepr k
  | negSucc k => exact keepsText_append hm hsign (hrepr (k + 1))

/-- What is kept of the content is kept of the reason for which its duplicates are retired. -/
theorem keepsText_duplicateReason (hm : m.IsBackend) (w : Worker) {hash : String}
    (h : m.keepsText hash = true) : m.keepsText (w.duplicateReason hash) = true := by
  have hwords : m.keepsText "duplicate content " = true ∧ m.keepsText " within " = true ∧
      m.keepsText "m" = true ∧ m.keepsText "all time" = true := by
    rcases hm with rfl | rfl <;> exact ⟨rfl, rfl, rfl, rfl⟩
  have hwindow : m.keepsText w.settings.dedupWindow.text = true := by
    unfold Dedup.Window.text
    split
    · exact keepsText_append hm (keepsText_toString hm _) hwords.2.2.1
    · exact hwords.2.2.2
  exact keepsText_append hm (keepsText_append hm (keepsText_append hm hwords.1 h) hwords.2.1)
    hwindow

end

/-! ## Doom -/

/-- The holder of the row is about to retire it as a duplicate of a content. -/
def IsCondemned (f : Fleet m ι) (r : Row m.Stamp) (hash : String) : Prop :=
  ∃ k reason retryAfter,
    f.request? k = some (.record r.id (crew k).name (.dead reason (some hash)) retryAfter) ∧
      r.isHeldBy (crew k).name = true

/-- The row was retired as a duplicate of a content, or its holder is about to do so. -/
def IsFated (f : Fleet m ι) (r : Row m.Stamp) (hash : String) : Prop :=
  r.IsDuplicateOf hash ∨ f.IsCondemned crew r hash

/-- Some row is fated for the sake of a content of which there is no report and no copy that is
not fated itself. -/
structure IsDoomed (f : Fleet m ι) (hash : String) : Prop where
  charge : ∃ r ∈ f.store.rows, f.IsFated crew r hash
  reports : ∀ a ∈ f.store.reports.getD [], a.contentHash ≠ hash
  copies : ∀ r ∈ f.store.rows, r.contentHash = some hash → ∃ other, f.IsFated crew r other

/-- The moment tells the holder of an item that its content is a duplicate. -/
def Condemns (f : Fleet m ι) (x : Moment ι) : Prop :=
  ∃ k id hash now since, x.event = .move k ∧
    f.request? k = some (.registerHash id hash now since) ∧
    (x.answer (.registerHash id hash now since) f.store).1 = .ok true ∧
    f.store.IsHeld id (crew k).name

omit [DecidableEq ι] in
/-- A content of which no copy is spared is doomed. -/
theorem isDoomed_of_not_spares {f : Fleet m ι} {hash : String} (h : ¬ f.store.Spares hash) :
    f.IsDoomed crew hash := by
  obtain ⟨⟨r, hr, hduplicate⟩, hnot⟩ := Classical.not_imp.mp h
  obtain ⟨hreports, hcopies⟩ := not_or.mp hnot
  refine ⟨⟨r, hr, .inl hduplicate⟩, fun a ha hhash => hreports ⟨a, ha, hhash⟩, ?_⟩
  intro q hq hhash
  refine Classical.byContradiction fun hfated => hcopies ⟨q, hq, hhash, fun other hother => ?_⟩
  exact hfated ⟨other, .inl hother⟩

omit [DecidableEq ι] in
theorem not_isDoomed_start (hash : String) : ¬ (start m ι).IsDoomed crew hash := by
  rintro ⟨⟨r, hr, -⟩, -, -⟩
  cases hr

/-! ## What dooms a content -/

omit [DecidableEq ι] in
theorem contentHash_of_rowSteps {x : Moment ι} {pos : ι → Position} {r r' : Row m.Stamp}
    (h : RowSteps crew x pos r r') {hash : String} (hhash : r.contentHash = some hash) :
    r'.contentHash = some hash := by
  cases h with
  | same => exact hhash
  | claim => exact hhash
  | register => rw [Row.contentHash_register, hhash]; rfl
  | conclude => exact Row.contentHash_conclude _ _ _ _ hhash

/-- Only a moment that condemns makes a row fated. -/
theorem isFated_of_after (hnames : ∀ j k, (crew j).name = (crew k).name → j = k)
    {f : Fleet m ι} {pos pos' : ι → Position} {x : Moment ι}
    (hat : f.IsAt crew pos) (hat' : (f.after crew x).IsAt crew pos')
    (hsteps : Steps crew x f.store pos (f.after crew x).store pos')
    (hnot : ¬ f.Condemns crew x) {r r' : Row m.Stamp} (hr : f.store.find? r.id = some r)
    (hrow : RowSteps crew x pos r r') {hash : String}
    (hfated : (f.after crew x).IsFated crew r' hash) : f.IsFated crew r hash := by
  -- a worker that is about to retire the row now was so before, unless it was told just now
  have hcondemned : r'.id = r.id →
      (∀ k, r'.isHeldBy (crew k).name = true → r.isHeldBy (crew k).name = true) →
      (f.after crew x).IsCondemned crew r' hash → f.IsCondemned crew r hash := by
    rintro hid hheld ⟨k, reason, retryAfter, hrequest, hheld'⟩
    rw [hid] at hrequest
    by_cases hevent : x.event = .move k
    · rw [request?_of_isAt crew hat'] at hrequest
      obtain ⟨left, ended, item, hpos, hitem⟩ := Position.eq_recording _ hrequest
      obtain ⟨-, now, since, hregister, hanswer⟩ :=
        hsteps.registering_of_recording crew hevent hpos
      rw [hitem] at hregister hanswer
      exact absurd ⟨k, _, hash, now, since, hevent, (request?_of_isAt crew hat k).trans hregister,
        hanswer, r, hr, hheld k hheld'⟩ hnot
    · refine ⟨k, reason, retryAfter, ?_, hheld k hheld'⟩
      rwa [request?_of_isAt crew hat, ← hsteps.pos_eq crew hevent, ← request?_of_isAt crew hat']
  cases hrow with
  | same => exact hfated.imp id (hcondemned rfl fun _ h => h)
  | register => exact hfated.imp id (hcondemned rfl fun _ h => h)
  | @claim k left ended now _ _ _ _ hevent hpos =>
    rcases hfated with ⟨hdead, -⟩ | ⟨j, reason, retryAfter, hrequest, hheld⟩
    · cases Row.isIn_claim.mp hdead
    · -- the worker that claims is not the one that records
      obtain rfl := hnames k j (Row.isHeldBy_claim.mp hheld)
      rw [request?_of_isAt crew hat'] at hrequest
      obtain ⟨_, _, item, hpos', -⟩ := Position.eq_recording _ hrequest
      obtain ⟨-, _, _, hregister, -⟩ := hsteps.registering_of_recording crew hevent hpos'
      rw [hpos] at hregister
      cases hregister
  | @conclude k left ended item o retryAfter _ _ _ hevent hpos hid hheld _ =>
    rcases hfated with ⟨hdead, hduplicate⟩ | ⟨j, _, _, -, hheld'⟩
    · have htarget := Row.isIn_conclude.mp hdead
      cases o with
      | dead reason duplicateOf =>
        have hduplicateOf : duplicateOf = some hash := hduplicate
        rw [hduplicateOf] at hpos
        refine .inr ⟨k, reason, retryAfter, ?_, hheld⟩
        rw [request?_of_isAt crew hat, hpos, ← hid]
        rfl
      | forwarded => cases htarget
      | retry => cases htarget
    · rw [Row.isHeldBy_conclude] at hheld'
      cases hheld'

/-- Only a moment that condemns dooms a content. -/
theorem isDoomed_of_after (hnames : ∀ j k, (crew j).name = (crew k).name → j = k)
    {f : Fleet m ι} {pos : ι → Position} {x : Moment ι} (hs : f.store.IsNumbered)
    (hat : f.IsAt crew pos) (hnot : ¬ f.Condemns crew x) {hash : String}
    (h : (f.after crew x).IsDoomed crew hash) : f.IsDoomed crew hash := by
  obtain ⟨pos', hat', hsteps⟩ := exists_steps crew hat x
  have hs' := hsteps.isNumbered crew hs
  have hback : ∀ {r r' hash}, f.store.find? r.id = some r → RowSteps crew x pos r r' →
      (f.after crew x).IsFated crew r' hash → f.IsFated crew r hash :=
    fun hr hrow => isFated_of_after crew hnames hat hat' hsteps hnot hr hrow
  refine ⟨?_, fun a ha => ?_, fun r hr hhash => ?_⟩
  · obtain ⟨r', hr', hfated⟩ := h.charge
    rcases hsteps.exists_rowSteps crew hs (Store.find?_of_mem hs' hr') with
      ⟨r, hr, hrow⟩ | ⟨_, o, stamp, rfl⟩
    · have hid := Store.id_of_find? hr
      refine ⟨r, Store.mem_of_find? hr, hback ?_ hrow hfated⟩
      rw [hid]
      exact hr
    · rcases hfated with ⟨hdead, -⟩ | ⟨k, _, _, -, hheld⟩
      · cases hdead
      · cases hheld
  · refine h.reports a ?_
    rcases hsteps.store with hstore | ⟨c, hstore⟩
    · rw [hstore]; exact ha
    · rw [hstore]; exact Store.mem_reports_after c ha
  · have hfind := Store.find?_of_mem hs hr
    obtain ⟨r', hr', hrow⟩ := hsteps.find? crew hs hfind
    obtain ⟨other, hfated⟩ :=
      h.copies r' (Store.mem_of_find? hr') (contentHash_of_rowSteps crew hrow hhash)
    exact ⟨other, hback hfind hrow hfated⟩

/-! ## What is kept -/

/-- The medium keeps the names of holders, and what is recorded of a duplicate. -/
structure IsKept (s : Store m) (pos : ι → Position) : Prop where
  holders : ∀ id r worker, s.find? id = some r → r.isHeldBy worker = true →
    m.keepsText worker = true
  reasons : ∀ k left ended item reason hash retryAfter,
    pos k = .recording left ended item (.dead reason (some hash)) retryAfter →
      m.keepsText reason = true ∧ m.keepsText hash = true

theorem isKept_after (hm : m.IsBackend) {x : Moment ι} {s s' : Store m} {pos pos' : ι → Position}
    (hsteps : Steps crew x s pos s' pos') (hs : s.IsNumbered) (h : IsKept s pos) :
    IsKept s' pos' := by
  constructor
  · intro id r' worker hr' hheld
    rcases hsteps.exists_rowSteps crew hs hr' with ⟨r, hr, hrow⟩ | ⟨_, o, stamp, rfl⟩
    · cases hrow with
      | same => exact h.holders id _ worker hr hheld
      | claim _ _ _ _ _ hname _ => rwa [← Row.isHeldBy_claim.mp hheld]
      | register => exact h.holders id _ worker hr hheld
      | conclude =>
        rw [Row.isHeldBy_conclude] at hheld
        cases hheld
    · cases hheld
  · intro k left ended item reason hash retryAfter hpos
    by_cases hevent : x.event = .move k
    · obtain ⟨rfl, now, since, -, hanswer⟩ := hsteps.registering_of_recording crew hevent hpos
      change (x.reach s (s.registerHash item.id hash now since)).1 = _ at hanswer
      rcases x.reach_cases s (s.registerHash item.id hash now since) with hreach | ⟨e, hreach⟩
      · rw [hreach] at hanswer
        rcases s.registerHash_cases item.id hash now since with ⟨e, he⟩ | ⟨_, _, hhash, -⟩
        · rw [he] at hanswer
          cases hanswer
        · exact ⟨keepsText_duplicateReason hm (crew k) hhash, hhash⟩
      · rw [hreach] at hanswer
        cases hanswer
    · rw [hsteps.pos_eq crew hevent] at hpos
      exact h.reasons k left ended item reason hash retryAfter hpos

/-- Every run ends with workers at positions, numbered rows, and texts that are kept. -/
theorem exists_isKept (hm : m.IsBackend) (moments : List (Moment ι)) :
    ∃ pos, ((start m ι).afterAll crew moments).IsAt crew pos ∧
      ((start m ι).afterAll crew moments).store.IsNumbered ∧
      IsKept ((start m ι).afterAll crew moments).store pos := by
  obtain ⟨pos, hat, hs, -, hkept⟩ := run_induction (m := m) crew
    (P := fun _ f pos => IsKept f.store pos)
    ⟨fun _ _ _ h => (by cases h), fun _ _ _ _ _ _ _ h => (by cases h)⟩
    (fun _ _ _ _ _ hkept hs _ _ _ hsteps => isKept_after crew hm hsteps hs hkept) moments
  exact ⟨pos, hat, hs, hkept⟩

/-! ## What a doomed content comes to -/

/-- A moment at which a worker moves and the backlog is reached. -/
def quiet (k : ι) : Moment ι where
  clock := .epoch
  stopping := false
  folder := none
  reply := .error .timeout
  outage := none
  event := .move k

omit [DecidableEq ι] in
theorem quiet_event_ne {j k : ι} (h : j ≠ k) : (quiet k).event ≠ .move j :=
  fun hevent => h (Event.move.inj hevent).symm

/-- A worker that is about to retire an item that it holds does so when it moves. -/
theorem after_quiet (hm : m.IsBackend) {f : Fleet m ι} {pos : ι → Position} (hat : f.IsAt crew pos)
    (hkept : IsKept f.store pos) {k : ι} {r : Row m.Stamp} {reason hash : String}
    {retryAfter : Option Instant}
    (hrequest : f.request? k =
      some (.record r.id (crew k).name (.dead reason (some hash)) retryAfter))
    (hr : f.store.find? r.id = some r) (hheld : r.isHeldBy (crew k).name = true) :
    (∃ stamp, (f.after crew (quiet k)).store =
      f.store.modify r.id (·.conclude (.dead reason (some hash)) none stamp)) ∧
    ∀ id name reason hash retryAfter, (f.after crew (quiet k)).request? k ≠
      some (.record id name (.dead reason (some hash)) retryAfter) := by
  have hasked : (pos k).request? (crew k) = _ := (request?_of_isAt crew hat k).symm.trans hrequest
  obtain ⟨pos', hat', hsteps⟩ := exists_steps crew hat (quiet k)
  constructor
  · obtain ⟨left, ended, item, hpos, -⟩ := Position.eq_recording _ hasked
    obtain ⟨hreason, hhash⟩ := hkept.reasons k left ended item reason hash retryAfter hpos
    obtain ⟨stamp, hstamp⟩ := Option.isSome_iff_exists.mp
      (Medium.stamp?_isSome hm (show Instant.epoch.IsFourDigit by decide))
    obtain ⟨q, -, hstore, -⟩ := hsteps.move_of_request crew rfl hasked
    refine ⟨stamp, ?_⟩
    rw [hstore]
    show (f.store.record r.id (crew k).name (.dead reason (some hash)) retryAfter .epoch).2 = _
    rw [Store.record_duplicate_of_held hr hheld (hkept.holders _ r _ hr hheld) hreason hhash hstamp]
  · intro id name reason' hash' retryAfter' hnext
    rw [request?_of_isAt crew hat'] at hnext
    obtain ⟨_, _, item, hpos', -⟩ := Position.eq_recording _ hnext
    obtain ⟨-, _, _, hregister, -⟩ := hsteps.registering_of_recording crew rfl hpos'
    rw [hregister] at hasked
    cases hasked

/-- Doom stays when a worker records the duplicate it was told of, and one row less is condemned. -/
theorem isDoomed_after_quiet (hm : m.IsBackend)
    (hnames : ∀ j k, (crew j).name = (crew k).name → j = k) {f : Fleet m ι} {pos : ι → Position}
    (hat : f.IsAt crew pos) (hs : f.store.IsNumbered) (hkept : IsKept f.store pos) {k : ι}
    {r : Row m.Stamp} {reason hash : String} {retryAfter : Option Instant}
    (hrequest : f.request? k =
      some (.record r.id (crew k).name (.dead reason (some hash)) retryAfter))
    (hr : f.store.find? r.id = some r) (hheld : r.isHeldBy (crew k).name = true) {lost : String}
    (h : f.IsDoomed crew lost) :
    (f.after crew (quiet k)).IsDoomed crew lost ∧
      ∀ q ∈ (f.after crew (quiet k)).store.rows, ∀ other,
        (f.after crew (quiet k)).IsCondemned crew q other →
          q.id ≠ r.id ∧ q ∈ f.store.rows ∧ f.IsCondemned crew q other := by
  obtain ⟨⟨stamp, hstore⟩, hnext⟩ := after_quiet crew hm hat hkept hrequest hr hheld
  have hrows : (f.after crew (quiet k)).store.rows = f.store.rows.map fun q =>
      if q.id = r.id then q.conclude (.dead reason (some hash)) none stamp else q := by
    rw [hstore]
    rfl
  have hfated : ∀ q ∈ f.store.rows, ∀ other, f.IsFated crew q other →
      (f.after crew (quiet k)).IsFated crew
        (if q.id = r.id then q.conclude (.dead reason (some hash)) none stamp else q) other := by
    intro q hq other hfated
    by_cases hid : q.id = r.id
    · rw [if_pos hid]
      have hfind := Store.find?_of_mem hs hq
      rw [hid, hr] at hfind
      obtain rfl := Option.some.inj hfind
      rcases hfated with ⟨hdead, -⟩ | ⟨j, reason', retryAfter', hrequest', hheld'⟩
      · cases Row.eq_of_isIn hdead (Row.isIn_of_isHeldBy hheld)
      · obtain rfl := hnames _ _ (Row.eq_of_isHeldBy hheld' hheld)
        cases hrequest.symm.trans hrequest'
        exact .inl ⟨Row.isIn_conclude.mpr rfl, rfl⟩
    · rw [if_neg hid]
      rcases hfated with hduplicate | ⟨j, reason', retryAfter', hrequest', hheld'⟩
      · exact .inl hduplicate
      · have hj : j ≠ k := by
          rintro rfl
          have hsame := Option.some.inj (hrequest.symm.trans hrequest')
          exact hid (Request.record.inj hsame).1.symm
        exact .inr ⟨j, reason', retryAfter',
          (request?_after_of_ne crew (quiet_event_ne hj)).trans hrequest', hheld'⟩
  refine ⟨⟨?_, ?_, ?_⟩, ?_⟩
  · obtain ⟨q, hq, hcharge⟩ := h.charge
    refine ⟨_, ?_, hfated q hq lost hcharge⟩
    rw [hrows]
    exact List.mem_map_of_mem hq
  · rw [hstore]
    exact h.reports
  · rw [hrows]
    intro q' hq' hcontent
    obtain ⟨q, hq, rfl⟩ := List.mem_map.mp hq'
    have hcontent' : q.contentHash = some lost := by
      split at hcontent
      · exact hcontent
      · exact hcontent
    obtain ⟨other, hother⟩ := h.copies q hq hcontent'
    exact ⟨other, hfated q hq other hother⟩
  · rw [hrows]
    rintro q' hq' other ⟨j, reason', retryAfter', hrequest', hheld'⟩
    obtain ⟨q, hq, rfl⟩ := List.mem_map.mp hq'
    by_cases hid : q.id = r.id
    · rw [if_pos hid, Row.isHeldBy_conclude] at hheld'
      cases hheld'
    · rw [if_neg hid] at hrequest' hheld' ⊢
      have hj : j ≠ k := by
        rintro rfl
        exact hnext _ _ _ _ _ hrequest'
      exact ⟨hid, hq, j, reason', retryAfter',
        (request?_after_of_ne crew (quiet_event_ne hj)).symm.trans hrequest', hheld'⟩

/-- Once a content is doomed, the workers need only go on for all its copies to be lost. -/
theorem exists_not_spares (hm : m.IsBackend)
    (hnames : ∀ j k, (crew j).name = (crew k).name → j = k) {hash : String} (todo : List Int)
    (moments : List (Moment ι)) (h : ((start m ι).afterAll crew moments).IsDoomed crew hash)
    (htodo : ∀ r ∈ ((start m ι).afterAll crew moments).store.rows, ∀ other,
      ((start m ι).afterAll crew moments).IsCondemned crew r other → r.id ∈ todo) :
    ∃ more, ¬ ((start m ι).afterAll crew (moments ++ more)).store.Spares hash := by
  -- the condemned rows are retired one after the other
  induction todo generalizing moments with
  | nil =>
    refine ⟨[], fun hspares => ?_⟩
    rw [List.append_nil] at hspares
    have hduplicate : ∀ r ∈ ((start m ι).afterAll crew moments).store.rows, ∀ other,
        ((start m ι).afterAll crew moments).IsFated crew r other → r.IsDuplicateOf other := by
      rintro r hr other (hretired | hcondemned)
      · exact hretired
      · cases htodo r hr other hcondemned
    obtain ⟨r, hr, hcharge⟩ := h.charge
    rcases hspares ⟨r, hr, hduplicate r hr hash hcharge⟩ with ⟨a, ha, heq⟩ | ⟨q, hq, hcopy, hnot⟩
    · exact h.reports a ha heq
    · obtain ⟨other, hfated⟩ := h.copies q hq hcopy
      exact hnot other (hduplicate q hq other hfated)
  | cons id todo ih =>
    by_cases hcondemned : ∃ r ∈ ((start m ι).afterAll crew moments).store.rows, r.id = id ∧
        ∃ other, ((start m ι).afterAll crew moments).IsCondemned crew r other
    · obtain ⟨r, hr, rfl, other, k, reason, retryAfter, hrequest, hheld⟩ := hcondemned
      obtain ⟨pos, hat, hs, hkept⟩ := exists_isKept crew hm moments
      obtain ⟨hdoomed, hless⟩ := isDoomed_after_quiet crew hm hnames hat hs hkept hrequest
        (Store.find?_of_mem hs hr) hheld h
      rw [← afterAll_snoc] at hdoomed hless
      obtain ⟨more, hmore⟩ := ih (moments ++ [quiet k]) hdoomed fun q hq other' hq' => by
        obtain ⟨hne, hmem, hbefore⟩ := hless q hq other' hq'
        exact (List.mem_cons.mp (htodo q hmem other' hbefore)).resolve_left hne
      exact ⟨quiet k :: more, by rwa [List.append_assoc] at hmore⟩
    · refine ih moments h fun q hq other hq' => ?_
      refine (List.mem_cons.mp (htodo q hq other hq')).resolve_left fun hid => ?_
      exact hcondemned ⟨q, hq, hid, other, hq'⟩

/-- The moment tells the holder of an item that its content is a duplicate, and leaves a content
without a copy that is spared. -/
def Dooms (f : Fleet m ι) (x : Moment ι) (hash : String) : Prop :=
  f.Condemns crew x ∧ (f.after crew x).IsDoomed crew hash

/-- A moment dooms the content, or it was doomed before. -/
theorem exists_dooms_snoc (hnames : ∀ j k, (crew j).name = (crew k).name → j = k)
    {hash : String} {moments : List (Moment ι)} {f : Fleet m ι} {pos : ι → Position}
    {x : Moment ι} (hs : f.store.IsNumbered) (hat : f.IsAt crew pos)
    (hf : f = (start m ι).afterAll crew moments)
    (ih : f.IsDoomed crew hash → ∃ before y after, moments = before ++ y :: after ∧
      ((start m ι).afterAll crew before).Dooms crew y hash)
    (h : (f.after crew x).IsDoomed crew hash) :
    ∃ before y after, moments ++ [x] = before ++ y :: after ∧
      ((start m ι).afterAll crew before).Dooms crew y hash := by
  by_cases hcondemns : f.Condemns crew x
  · exact ⟨moments, x, [], rfl, hf ▸ ⟨hcondemns, h⟩⟩
  · obtain ⟨before, y, after, rfl, hdooms⟩ :=
      ih (isDoomed_of_after crew hnames hs hat hcondemns h)
    exact ⟨before, y, after ++ [x], by simp, hdooms⟩

theorem exists_dooms_of_isDoomed (hnames : ∀ j k, (crew j).name = (crew k).name → j = k)
    {hash : String} (moments : List (Moment ι))
    (h : ((start m ι).afterAll crew moments).IsDoomed crew hash) :
    ∃ before x after, moments = before ++ x :: after ∧
      ((start m ι).afterAll crew before).Dooms crew x hash := by
  obtain ⟨pos, -, -, -, hfound⟩ := run_induction (m := m) crew
    (P := fun moments f _ => f.IsDoomed crew hash → ∃ before x after,
      moments = before ++ x :: after ∧ ((start m ι).afterAll crew before).Dooms crew x hash)
    (fun h => absurd h (not_isDoomed_start crew hash))
    (fun _ _ _ _ _ ih hs _ hat hf _ => exists_dooms_snoc crew hnames hs hat hf ih) moments
  exact hfound h

/-- A run after which a content has no copy left went through a moment that dooms the content; and
after every moment that dooms a content, the run can go on until no copy is left. -/
theorem spares_unless_doomed (hm : m.IsBackend)
    (hnames : ∀ j k, (crew j).name = (crew k).name → j = k) (moments : List (Moment ι))
    (hash : String) :
    (¬ ((start m ι).afterAll crew moments).store.Spares hash →
      ∃ before x after, moments = before ++ x :: after ∧
        ((start m ι).afterAll crew before).Dooms crew x hash) ∧
    ∀ x, ((start m ι).afterAll crew moments).Dooms crew x hash →
      ∃ more, ¬ ((start m ι).afterAll crew (moments ++ x :: more)).store.Spares hash := by
  constructor
  · exact fun h => exists_dooms_of_isDoomed crew hnames moments (isDoomed_of_not_spares crew h)
  · rintro x ⟨-, hdoomed⟩
    rw [← afterAll_snoc] at hdoomed
    obtain ⟨more, hmore⟩ := exists_not_spares crew hm hnames
      (((start m ι).afterAll crew (moments ++ [x])).store.rows.map (·.id)) (moments ++ [x]) hdoomed
      fun r hr _ _ => List.mem_map_of_mem hr
    exact ⟨more, by rwa [List.append_assoc] at hmore⟩

/-- Two copies of one content are retired for each other.  `a` is refused by the engine after `b`
was told that its copy is a duplicate; before `b` records that, `a` tries again and finds the copy
of `b` under way. -/
def crossed : List (Moment Bool) :=
  let now := Store.clock 0
  [calm now (.enqueue sighting), calm now (.enqueue sighting)] ++ moves 7 false now ++
    moves 7 true now ++ { calm now (.move false) with reply := .error .timeout } ::
    moves 9 false now ++ moves 1 false now ++ moves 1 true now

/-- A run of two workers with the standard settings that leaves no copy of a content. -/
theorem not_spares_crossed :
    let f := (start .embedded Bool).afterAll (pair .standard) crossed
    ¬ f.store.Spares "c0ffee" ∧
      ∃ before x after, crossed = before ++ x :: after ∧
        ((start .embedded Bool).afterAll (pair .standard) before).Dooms (pair .standard) x
          "c0ffee" := by
  have hlost : ¬ ((start .embedded Bool).afterAll (pair .standard) crossed).store.Spares
      "c0ffee" := by
    have hrows : ((start .embedded Bool).afterAll (pair .standard) crossed).store.rows.all
        (fun r => r.isIn .dead && r.duplicateOf == some "c0ffee") = true := by rfl
    have hfirst : (((start .embedded Bool).afterAll (pair .standard) crossed).store.find?
        1).isSome = true := by rfl
    have hreports : ((start .embedded Bool).afterAll (pair .standard) crossed).store.reports =
        some [] := by rfl
    have hretired : ∀ r ∈ ((start .embedded Bool).afterAll (pair .standard) crossed).store.rows,
        r.IsDuplicateOf "c0ffee" := fun r hr => by
      obtain ⟨hdead, hduplicate⟩ := Bool.and_eq_true_iff.mp (List.all_eq_true.mp hrows r hr)
      exact ⟨hdead, beq_iff_eq.mp hduplicate⟩
    intro hspares
    obtain ⟨r, hr⟩ := Option.isSome_iff_exists.mp hfirst
    have hmem := Store.mem_of_find? hr
    rcases hspares ⟨r, hmem, hretired r hmem⟩ with ⟨a, ha, -⟩ | ⟨q, hq, -, hnot⟩
    · rw [hreports] at ha
      cases ha
    · exact hnot "c0ffee" (hretired q hq)
  exact ⟨hlost, (spares_unless_doomed (pair .standard) (.inl rfl) (names_pair .standard) crossed
    "c0ffee").1 hlost⟩

end Fleet

end ArtifactRelay
