import ArtifactRelay.Proofs.Fleet.Holding

/-!
# ArtifactRelay.Proofs.Fleet.Orderly

Orderly runs: the clock does not go back, no lease ends before the outcome of its claim
is recorded, the backlog answers every registration and every record, and an item has
one content.  Whoever is at work on an item in such a run holds it
(`InOrder.holders`), because another worker takes an item over only when the lease
of its claim has ended (`inOrder_after`).

`scene_induction` goes through the rest of an orderly run with all of this at hand.
-/

namespace ArtifactRelay

open Backlog Time Worker

namespace Fleet

variable {m : Medium} {ι : Type} [DecidableEq ι] (crew : ι → Worker)

/-! ## Orderly runs -/

/-- Whether the lease of every claimed row still runs at the clock of a moment. -/
def leasesRun (f : Fleet m ι) (x : Moment ι) : Bool :=
  f.store.rows.all fun r => !r.isIn .claimed ||
    r.leaseUntil.all fun lease => (m.stamp? x.clock).all fun stamp => !m.below lease stamp

/-- Whether the registration or the record of a moment is answered, if it is one. -/
def answersCalls (f : Fleet m ι) (x : Moment ι) : Bool :=
  match x.event with
  | .move k =>
    match f.request? k with
    | some (.registerHash id hash now since) =>
      ((x.answer (.registerHash id hash now since) f.store).1 : Except Error Bool).isOk
    | some (.record id worker o retryAfter) =>
      ((x.answer (.record id worker o retryAfter) f.store).1 : Except Error WorkItem).isOk
    | _ => true
  | _ => true

/-- Whether the registration of a moment, if it is one, is that of the item's one content. -/
def namesContent (content : Int → String) (f : Fleet m ι) (x : Moment ι) : Bool :=
  match x.event with
  | .move k =>
    match f.request? k with
    | some (.registerHash id hash _ _) => hash == content id
    | _ => true
  | _ => true

variable (m) in
/-- A run under one clock that does not go back, in which no lease ends before the outcome of its
claim is recorded, registrations and records do not fail, and every item has one content. -/
structure IsOrderly (content : Int → String) (moments : List (Moment ι)) : Prop where
  clock : moments.Pairwise fun x y => x.clock ≤ y.clock
  dated : ∀ x ∈ moments, m.IsOrdered x.clock
  leases : (start m ι).Along crew (fun f x => f.leasesRun x = true) moments
  answers : (start m ι).Along crew (fun f x => f.answersCalls x = true) moments
  contents : (start m ι).Along crew (fun f x => f.namesContent content x = true) moments

/-- What an orderly run says of its last moment. -/
structure IsOrderlyAt (content : Int → String) (moments : List (Moment ι)) (f : Fleet m ι)
    (x : Moment ι) : Prop where
  past : ∀ y ∈ moments, y.clock ≤ x.clock ∧ m.IsOrdered y.clock
  dated : m.IsOrdered x.clock
  leases : f.leasesRun x = true
  answers : f.answersCalls x = true
  contents : f.namesContent content x = true

/-- The end of an orderly run is orderly. -/
theorem IsOrderly.last {content : Int → String} {moments : List (Moment ι)} {x : Moment ι}
    (h : IsOrderly m crew content (moments ++ [x])) :
    IsOrderlyAt content moments ((start m ι).afterAll crew moments) x where
  past y hy := ⟨(List.pairwise_append.mp h.clock).2.2 y hy x (List.mem_singleton_self x),
    h.dated y (List.mem_append_left _ hy)⟩
  dated := h.dated x (List.mem_append_right _ (List.mem_singleton_self x))
  leases := ((along_snoc crew).mp h.leases).2
  answers := ((along_snoc crew).mp h.answers).2
  contents := ((along_snoc crew).mp h.contents).2

/-- The beginning of an orderly run is orderly. -/
theorem IsOrderly.of_append {content : Int → String} {before after : List (Moment ι)}
    (h : IsOrderly m crew content (before ++ after)) : IsOrderly m crew content before where
  clock := (List.pairwise_append.mp h.clock).1
  dated x hx := h.dated x (List.mem_append_left _ hx)
  leases := ((along_append crew).mp h.leases).1
  answers := ((along_append crew).mp h.answers).1
  contents := ((along_append crew).mp h.contents).1

/-! ## Who holds what -/

/-- What is so at every moment of an orderly run. -/
structure InOrder (content : Int → String) (moments : List (Moment ι)) (s : Store m)
    (pos : ι → Position) : Prop where
  /-- Every instant was read from the clock. -/
  instants : ∀ k now, (pos k).instant? = some now → ∃ y ∈ moments, y.clock = now
  /-- Whoever is at work on an item holds it. -/
  holders : ∀ k item, (pos k).item? = some item → s.IsHeld item.id (crew k).name
  leases : ∀ id r, s.find? id = some r → r.isIn .claimed = true → r.leaseUntil.isSome = true
  /-- What was not forwarded has the one content of the item, if any. -/
  contents : ∀ id r, s.find? id = some r →
    r.isIn .forwarded = true ∨ ∀ hash ∈ r.contentHash, hash = content id

omit [DecidableEq ι] in
/-- The leases that run at the clock of a moment ran at every instant before. -/
theorem below_eq_false_of_leasesRun (hm : m.IsBackend) {f : Fleet m ι} {x : Moment ι}
    (h : f.leasesRun x = true) (hdated : m.IsOrdered x.clock) {r : Row m.Stamp}
    (hr : r ∈ f.store.rows) (hclaimed : r.isIn .claimed = true) {lease : m.Stamp}
    (hlease : r.leaseUntil = some lease) {now : Instant} (hnow : m.IsOrdered now)
    (hle : now ≤ x.clock) {stamp : m.Stamp} (hstamp : m.stamp? now = some stamp) :
    m.below lease stamp = false := by
  obtain ⟨last, hlast⟩ := Option.isSome_iff_exists.mp (Medium.stamp?_isSome hm hdated.1)
  have hruns : m.below lease last = false := by
    have hrow := List.all_eq_true.mp h r hr
    simpa [hclaimed, hlease, hlast] using hrow
  cases hbelow : m.below lease stamp with
  | false => rfl
  | true =>
    have hearlier := Medium.below_eq_false_of_le hm hnow hdated.1 hstamp hlast hle
    rw [Medium.below_of_below hm hbelow hearlier] at hruns
    cases hruns

/-- In an orderly run only its holder changes a claimed row: it registers the content, or it
records the outcome. -/
theorem find?_of_held (hm : m.IsBackend) (hnames : ∀ j k, (crew j).name = (crew k).name → j = k)
    {content : Int → String} {moments : List (Moment ι)} {f : Fleet m ι} {pos pos' : ι → Position}
    {x : Moment ι} (h : InOrder crew content moments f.store pos)
    (hx : IsOrderlyAt content moments f x) (hs : f.store.IsNumbered)
    (hsteps : Steps crew x f.store pos (f.after crew x).store pos') {id : Int} {r : Row m.Stamp}
    (hr : f.store.find? id = some r) {k : ι} (hheld : r.isHeldBy (crew k).name = true) :
    (f.after crew x).store.find? id = some r ∨ x.event = .move k ∧
      ((∃ left ended item name content hash now,
        pos k = .registering left ended item name content hash now) ∨
      ∃ left ended item o retryAfter, pos k = .recording left ended item o retryAfter) := by
  have hclaimed := Row.isIn_of_isHeldBy hheld
  obtain ⟨r', hr', hrow⟩ := hsteps.find? crew hs hr
  cases hrow with
  | same => exact .inl hr'
  | @claim j left ended now _ _ stamp _ hevent hpos _ _ hstamp _ hclaimable =>
    rcases Row.isClaimable_cases hclaimable with hpending | ⟨-, lease, hlease, hover⟩
    · cases Row.eq_of_isIn hclaimed hpending
    · obtain ⟨y, hy, rfl⟩ := h.instants j now (by rw [hpos]; rfl)
      obtain ⟨hle, hdated⟩ := hx.past y hy
      rw [below_eq_false_of_leasesRun hm hx.leases hx.dated (Store.mem_of_find? hr) hclaimed hlease
        hdated hle hstamp] at hover
      cases hover
  | @register j left ended item name content hash now _ _ hevent hpos hid _ =>
    obtain ⟨q, hq, hholder⟩ := h.holders j item (by rw [hpos]; rfl)
    rw [hid, Store.id_of_find? hr, hr] at hq
    cases hq
    obtain rfl := hnames j k (Row.eq_of_isHeldBy hholder hheld)
    exact .inr ⟨hevent, .inl ⟨_, _, _, _, _, _, _, hpos⟩⟩
  | @conclude j left ended item o retryAfter _ _ _ hevent hpos hid hholder _ =>
    obtain rfl := hnames j k (Row.eq_of_isHeldBy hholder hheld)
    exact .inr ⟨hevent, .inr ⟨_, _, _, _, _, hpos⟩⟩

omit [DecidableEq ι] in
theorem eq_of_namesContent {content : Int → String} {f : Fleet m ι} {x : Moment ι}
    (h : f.namesContent content x = true) {k : ι} (hevent : x.event = .move k) {id : Int}
    {hash : String} {now : Instant} {since : Option Instant}
    (hrequest : f.request? k = some (.registerHash id hash now since)) : hash = content id := by
  unfold namesContent at h
  simp only [hevent, hrequest] at h
  exact beq_iff_eq.mp h

omit [DecidableEq ι] in
/-- A registration that is answered changes its row and tells what it finds. -/
theorem answer_of_registers {f : Fleet m ι} {x : Moment ι} (h : f.answersCalls x = true) {k : ι}
    (hevent : x.event = .move k) {id : Int} {hash : String} {now : Instant}
    {since : Option Instant}
    (hrequest : f.request? k = some (.registerHash id hash now since)) :
    ∃ stamp sinceStamp, m.stamp? now = some stamp ∧ since.bind m.stamp? = sinceStamp ∧
      since.isSome = sinceStamp.isSome ∧
      x.answer (.registerHash id hash now since) f.store =
        (.ok ((f.store.modify id (·.register hash stamp)).hasDuplicate id hash stamp sinceStamp),
          f.store.modify id (·.register hash stamp)) := by
  unfold answersCalls at h
  simp only [hevent, hrequest] at h
  have hanswer : x.answer (.registerHash id hash now since) f.store =
      f.store.registerHash id hash now since := World.reach_of_isOk h
  rw [hanswer] at h ⊢
  rcases f.store.registerHash_cases id hash now since with
    ⟨e, he⟩ | ⟨stamp, sinceStamp, -, hstamp, hsince, hsome, hok⟩
  · rw [he] at h
    cases h
  · exact ⟨stamp, sinceStamp, hstamp, hsince, hsome, hok⟩

omit [DecidableEq ι] in
/-- A record that is answered ends the claim at the clock of its moment. -/
theorem answer_of_records {f : Fleet m ι} {x : Moment ι} (h : f.answersCalls x = true) {k : ι}
    (hevent : x.event = .move k) {id : Int} {worker : String} {o : Outcome}
    {retryAfter : Option Instant}
    (hrequest : f.request? k = some (.record id worker o retryAfter)) :
    ∃ stamp retryStamp, m.stamp? x.clock = some stamp ∧
      (x.answer (.record id worker o retryAfter) f.store).2 =
        f.store.modify id (·.conclude o retryStamp stamp) := by
  unfold answersCalls at h
  simp only [hevent, hrequest] at h
  have hanswer : x.answer (.record id worker o retryAfter) f.store =
      f.store.record id worker o retryAfter x.clock := World.reach_of_isOk h
  rw [hanswer] at h ⊢
  rcases f.store.record_cases id worker o retryAfter x.clock with
    ⟨e, he⟩ | ⟨stamp, retryStamp, _, hstamp, -, -, -, hok⟩
  · rw [he] at h
    cases h
  · exact ⟨stamp, retryStamp, hstamp, by rw [hok]⟩

/-- The order of an orderly run is kept by one moment more. -/
theorem inOrder_after (hm : m.IsBackend) (hnames : ∀ j k, (crew j).name = (crew k).name → j = k)
    {content : Int → String} {moments : List (Moment ι)} {f : Fleet m ι} {pos pos' : ι → Position}
    {x : Moment ι} (h : InOrder crew content moments f.store pos)
    (hx : IsOrderlyAt content moments f x) (hs : f.store.IsNumbered)
    (hat : f.IsAt crew pos)
    (hsteps : Steps crew x f.store pos (f.after crew x).store pos') :
    InOrder crew content (moments ++ [x]) (f.after crew x).store pos' where
  instants k now hnow := by
    rcases hsteps.instant? crew hnow with hbefore | rfl
    · obtain ⟨y, hy, hclock⟩ := h.instants k now hbefore
      exact ⟨y, List.mem_append_left _ hy, hclock⟩
    · exact ⟨x, List.mem_append_right _ (List.mem_singleton_self x), rfl⟩
  holders k item hitem := by
    rcases claims_or_item? crew hs hat hsteps hitem with ⟨-, r, hr, hheld, -⟩ | ⟨hbefore, -⟩
    · exact ⟨r, hr, hheld⟩
    · obtain ⟨r, hr, hheld⟩ := h.holders k item hbefore
      obtain ⟨-, hiff⟩ := isHeld_after_iff crew hnames hs hat hsteps hbefore hitem hr
      refine hiff.mpr ⟨⟨r, hr, hheld⟩, fun j hj htakes => ?_⟩
      rcases find?_of_held crew hm hnames h hx hs hsteps hr hheld with hsame | ⟨hevent, -⟩
      · exact htakes.2.2 (hsame.trans hr.symm)
      · exact hj (Event.move.inj (htakes.1.symm.trans hevent))
  leases id r' hr' hclaimed := by
    rcases hsteps.exists_rowSteps crew hs hr' with ⟨r, hr, hrow⟩ | ⟨_, o, stamp, rfl⟩
    · cases hrow with
      | same => exact h.leases id _ hr hclaimed
      | claim => rfl
      | @register _ _ _ _ _ _ _ _ _ r => exact h.leases id r hr hclaimed
      | @conclude _ _ _ _ o =>
        have htarget := Row.isIn_conclude.mp hclaimed
        cases o <;> cases htarget
    · cases hclaimed
  contents id r' hr' := by
    rcases hsteps.exists_rowSteps crew hs hr' with ⟨r, hr, hrow⟩ | ⟨_, o, stamp, rfl⟩
    · have hcontent := h.contents id r hr
      cases hrow with
      | same => exact hcontent
      | claim _ _ _ _ _ _ hclaimable =>
        refine hcontent.imp (fun hforwarded => ?_) fun hhash => hhash
        exact absurd hclaimable (Row.not_isClaimable_of_forwarded hforwarded _)
      | @register j left ended item name _ hash now _ _ hevent hpos hid _ =>
        refine hcontent.imp (fun hforwarded => hforwarded) fun hhash => ?_
        have hrequest : f.request? j = some (.registerHash item.id hash now _) :=
          (request?_of_isAt crew hat j).trans (by rw [hpos]; rfl)
        have hregistered := eq_of_namesContent hx.contents hevent hrequest
        rw [hid, Store.id_of_find? hr] at hregistered
        rintro other ⟨⟩
        cases hknown : r.contentHash with
        | none => exact hregistered
        | some known => exact hhash known hknown
      | @conclude _ _ _ _ o _ _ _ _ _ _ _ hheld _ =>
        rcases hcontent with hforwarded | hhash
        · cases Row.eq_of_isIn hforwarded (Row.isIn_of_isHeldBy hheld)
        · cases o with
          | forwarded => exact .inl (Row.isIn_conclude.mpr rfl)
          | dead => exact .inr hhash
          | retry => exact .inr hhash
    · exact .inr nofun

/-! ## The moments of an orderly run -/

variable (m) in
/-- The end of an orderly run so far. -/
structure Scene (content : Int → String) (moments : List (Moment ι)) (pos : ι → Position) :
    Prop where
  positions : ((start m ι).afterAll crew moments).IsAt crew pos
  numbered : ((start m ι).afterAll crew moments).store.IsNumbered
  order : InOrder crew content moments ((start m ι).afterAll crew moments).store pos

section

variable (hm : m.IsBackend) (hnames : ∀ j k, (crew j).name = (crew k).name → j = k)
  {content : Int → String}

omit [DecidableEq ι] in
theorem inOrder_start : InOrder crew content [] (start m ι).store fun _ => .finished (.ok 0) where
  instants _ _ hnow := by cases hnow
  holders _ _ hitem := by cases hitem
  leases _ _ hr := by cases hr
  contents _ _ hr := by cases hr

include hm hnames

/-- An orderly run goes on from moment to moment. -/
theorem exists_scene {moments : List (Moment ι)} {pos : ι → Position} {x : Moment ι}
    (h : Scene m crew content moments pos) (horderly : IsOrderly m crew content (moments ++ [x])) :
    ∃ pos', Scene m crew content (moments ++ [x]) pos' ∧
      IsOrderlyAt content moments ((start m ι).afterAll crew moments) x ∧
      Steps crew x ((start m ι).afterAll crew moments).store pos
        (((start m ι).afterAll crew moments).after crew x).store pos' := by
  have hx := horderly.last
  obtain ⟨pos', hat', hsteps⟩ := exists_steps crew h.positions x
  have horder := inOrder_after crew hm hnames h.order hx h.numbered h.positions hsteps
  rw [← afterAll_snoc] at hat' horder
  refine ⟨pos', ⟨hat', ?_, horder⟩, hx, hsteps⟩
  rw [afterAll_snoc]
  exact hsteps.isNumbered crew h.numbered

/-- What every moment of the rest of an orderly run keeps holds at its end. -/
theorem scene_induction {q : Moment ι → Prop}
    {S : List (Moment ι) → Store m → (ι → Position) → Prop}
    (step : ∀ moments pos x pos', q x → Scene m crew content moments pos →
      IsOrderlyAt content moments ((start m ι).afterAll crew moments) x →
      Steps crew x ((start m ι).afterAll crew moments).store pos
        (((start m ι).afterAll crew moments).after crew x).store pos' →
      S moments ((start m ι).afterAll crew moments).store pos →
      S (moments ++ [x]) (((start m ι).afterAll crew moments).after crew x).store pos')
    {before rest : List (Moment ι)} {pos : ι → Position} (hrest : ∀ x ∈ rest, q x)
    (horderly : IsOrderly m crew content (before ++ rest)) (h : Scene m crew content before pos)
    (hS : S before ((start m ι).afterAll crew before).store pos) :
    ∃ pos', Scene m crew content (before ++ rest) pos' ∧
      S (before ++ rest) ((start m ι).afterAll crew (before ++ rest)).store pos' := by
  induction rest generalizing before pos with
  | nil =>
    rw [List.append_nil]
    exact ⟨pos, h, hS⟩
  | cons x rest ih =>
    have hsplit := List.append_cons before x rest
    rw [hsplit] at horderly ⊢
    obtain ⟨pos', hscene, hx, hsteps⟩ := exists_scene crew hm hnames h horderly.of_append
    have hnext := step before pos x pos' (hrest x List.mem_cons_self) h hx hsteps hS
    rw [← afterAll_snoc] at hnext
    exact ih (fun y hy => hrest y (List.mem_cons_of_mem x hy)) horderly hscene hnext

theorem exists_scene_of_isOrderly {moments : List (Moment ι)}
    (horderly : IsOrderly m crew content moments) : ∃ pos, Scene m crew content moments pos := by
  have hstart : Scene m crew content [] fun _ => .finished (.ok 0) :=
    ⟨isAt_start crew, List.Pairwise.nil, inOrder_start crew⟩
  obtain ⟨pos, hscene, -⟩ := scene_induction crew hm hnames (q := fun _ => True)
    (S := fun _ _ _ => True) (fun _ _ _ _ _ _ _ _ _ => trivial) (fun _ _ => trivial)
    (show IsOrderly m crew content ([] ++ moments) from horderly) hstart trivial
  exact ⟨pos, hscene⟩

omit hm hnames in
/-- Who registers a content holds the item, and read the clock before. -/
theorem scene_of_registers {moments : List (Moment ι)} {pos : ι → Position} {k : ι} {id : Int}
    {hash : String} {now : Instant} {since : Option Instant} (h : Scene m crew content moments pos)
    (hrequest : ((start m ι).afterAll crew moments).request? k =
      some (.registerHash id hash now since)) :
    (∃ y ∈ moments, y.clock = now) ∧ (crew k).settings.dedupWindow.since now = since ∧
      ((start m ι).afterAll crew moments).store.IsHeld id (crew k).name ∧
      ∃ left ended item name identity,
        pos k = .registering left ended item name identity hash now := by
  rw [request?_of_isAt crew h.positions] at hrequest
  obtain ⟨left, ended, item, name, identity, hpos, rfl, hsince⟩ :=
    Position.eq_registering _ hrequest
  exact ⟨h.order.instants k now (by rw [hpos]; rfl), hsince,
    h.order.holders k item (by rw [hpos]; rfl), left, ended, item, name, identity, hpos⟩

end

end Fleet

end ArtifactRelay
