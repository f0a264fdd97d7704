import ArtifactRelay.Proofs.Fleet.Orderly

/-!
# ArtifactRelay.Proofs.Fleet.Acceptance

How often one content is accepted.  In an orderly run the item of an accepted submission
counts as a copy from its registration on: first it is under way, and its lease still
runs, then it is forwarded (`exists_engaged`).

A later registration of the same content is therefore told "duplicate" unless the last
write to that item is older than the dedup window of the worker that registers.  This is
`accepted_once_per_window`; over all time nothing is that old.
-/

namespace ArtifactRelay

open Backlog Time Worker

namespace Fleet

variable {m : Medium} {ι : Type} [DecidableEq ι] (crew : ι → Worker)

/-! ## The copy of an accepted submission -/

variable (m) in
/-- After `before`, a worker registers the content of an item at `now`, and what it does next is
a submission that the engine accepts. -/
def IsAccepted (moments before : List (Moment ι)) (k : ι) (id : Int) (hash : String)
    (now : Instant) : Prop :=
  ∃ reg between sub after since path name ack,
    moments = before ++ reg :: (between ++ sub :: after) ∧
    reg.event = .move k ∧
    ((start m ι).afterAll crew before).request? k = some (.registerHash id hash now since) ∧
    (∀ x ∈ between, x.event ≠ .move k) ∧ sub.event = .move k ∧
    ((start m ι).afterAll crew (before ++ reg :: between)).request? k = some (.submit path name) ∧
    sub.reply = .ok ack

/-- The worker holds the item whose content it registered at `now`, and nothing was written to
it since. -/
structure IsUnderWay (s : Store m) (k : ι) (id : Int) (hash : String) (now : Instant)
    (r : Row m.Stamp) : Prop where
  row : s.find? id = some r
  held : r.isHeldBy (crew k).name = true
  content : r.contentHash = some hash
  updated : m.stamp? now = some r.updatedAt

/-- The item with that content was forwarded, and nothing was written to it since. -/
structure IsForwarded (moments : List (Moment ι)) (s : Store m) (k : ι) (id : Int) (hash : String)
    (now : Instant) (r : Row m.Stamp) : Prop where
  row : s.find? id = some r
  forwarded : r.isIn .forwarded = true
  content : r.contentHash = some hash
  updated : m.stamp? now = some r.updatedAt
  recorded : ∃ early x late taskRef response contentHash retryAfter,
    moments = early ++ x :: late ∧ x.event = .move k ∧ x.clock = now ∧
    ((start m ι).afterAll crew early).request? k =
      some (.record id (crew k).name (.forwarded taskRef response contentHash) retryAfter)

/-- The worker is about to submit the item whose content it registered at `now`. -/
def IsSubmitting (s : Store m) (pos : ι → Position) (k : ι) (id : Int) (hash : String)
    (now : Instant) : Prop :=
  ∃ r left ended item name content, IsUnderWay crew s k id hash now r ∧
    pos k = .submitting left ended item name content ∧ item.id = id

/-- The submission of the item was accepted; it is about to be recorded, or was recorded. -/
def IsEngaged (moments : List (Moment ι)) (s : Store m) (pos : ι → Position) (k : ι) (id : Int)
    (hash : String) (now : Instant) : Prop :=
  (∃ r left ended item taskRef response contentHash retryAfter,
    IsUnderWay crew s k id hash now r ∧
    pos k = .recording left ended item (.forwarded taskRef response contentHash) retryAfter ∧
    item.id = id) ∨
  ∃ r recorded, IsForwarded crew moments s k id hash recorded r

section

variable (hm : m.IsBackend) (hnames : ∀ j k, (crew j).name = (crew k).name → j = k)
  {content : Int → String} {moments : List (Moment ι)} {f : Fleet m ι} {pos pos' : ι → Position}
  {x : Moment ι} (h : InOrder crew content moments f.store pos)
  (hx : IsOrderlyAt content moments f x) (hs : f.store.IsNumbered) (hat : f.IsAt crew pos)
  (hat' : (f.after crew x).IsAt crew pos')
  (hsteps : Steps crew x f.store pos (f.after crew x).store pos')
  {k : ι} {id : Int} {hash : String} {now : Instant}

include h hx hat hat' hsteps in
/-- A worker that submits after its registration has made the item a copy of the content. -/
theorem isSubmitting_of_registers {since : Option Instant} {path : Artifact.Name} {name : String}
    (hevent : x.event = .move k)
    (hrequest : f.request? k = some (.registerHash id hash now since))
    (hnext : (f.after crew x).request? k = some (.submit path name)) :
    IsSubmitting crew (f.after crew x).store pos' k id hash now := by
  have hcontent := eq_of_namesContent hx.contents hevent hrequest
  have hasked := (request?_of_isAt crew hat k).symm.trans hrequest
  obtain ⟨left, ended, item, artifact, identity, hpos, rfl, -⟩ := Position.eq_registering _ hasked
  obtain ⟨r, hr, hheld⟩ := h.holders k item (by rw [hpos]; rfl)
  obtain ⟨q, hmoves, hstore, hpos'⟩ := hsteps.move_of_request crew hevent hasked
  have hk : pos' k = q := by rw [hpos', update_self]
  obtain ⟨stamp, _, hstamp, -, -, hanswer⟩ := answer_of_registers hx.answers hevent hrequest
  have hway :
      IsUnderWay crew (f.after crew x).store k item.id hash now (r.register hash stamp) := by
    refine ⟨?_, hheld, ?_, hstamp⟩
    · rw [hstore, hanswer]
      exact Store.find?_modify_self (fun _ => Row.id_register ..) hr
    · rw [Row.contentHash_register]
      rcases h.contents item.id r hr with hforwarded | hknown
      · cases Row.eq_of_isIn hforwarded (Row.isIn_of_isHeldBy hheld)
      · cases hold : r.contentHash with
        | none => rfl
        | some known => rw [hknown known hold, hcontent]; rfl
  rw [request?_of_isAt crew hat', hpos', update_self] at hnext
  obtain ⟨_, _, _, _, _, rfl⟩ := Position.eq_submitting _ hnext
  rw [hpos] at hmoves
  generalize (x.answer _ f.store).1 = answer at hmoves
  cases hmoves with
  | unique => exact ⟨_, _, _, _, _, _, hway, by rw [hpos', update_self], rfl⟩

include hm hnames h hx hs hsteps

/-- An item under way is left alone by all but its worker. -/
theorem isUnderWay_after {r : Row m.Stamp} (hway : IsUnderWay crew f.store k id hash now r)
    (hevent : x.event ≠ .move k) : IsUnderWay crew (f.after crew x).store k id hash now r := by
  rcases find?_of_held crew hm hnames h hx hs hsteps hway.row hway.held with hsame | ⟨hmove, -⟩
  · exact { hway with row := hsame }
  · exact absurd hmove hevent

theorem isSubmitting_after (hevent : x.event ≠ .move k)
    (hsubmitting : IsSubmitting crew f.store pos k id hash now) :
    IsSubmitting crew (f.after crew x).store pos' k id hash now := by
  obtain ⟨r, left, ended, item, name, identity, hway, hpos, hid⟩ := hsubmitting
  exact ⟨r, left, ended, item, name, identity,
    isUnderWay_after crew hm hnames h hx hs hsteps hway hevent,
    (hsteps.pos_eq crew hevent).trans hpos, hid⟩

omit hm hnames h hx hs in
/-- The submission is accepted. -/
theorem isEngaged_of_accepts (hevent : x.event = .move k) {ack : Engine.Acknowledgment}
    (hreply : x.reply = .ok ack) (hsubmitting : IsSubmitting crew f.store pos k id hash now) :
    IsEngaged crew (moments ++ [x]) (f.after crew x).store pos' k id hash now := by
  obtain ⟨r, left, ended, item, name, identity, hway, hpos, hid⟩ := hsubmitting
  obtain ⟨q, hmoves, hstore, hpos'⟩ := hsteps.move_of_request crew hevent (by rw [hpos]; rfl)
  have hanswer : (x.answer (.submit (Artifact.pathIn (crew k).dir name) item.displayName)
      f.store).1 = .ok ack := hreply
  rw [hanswer, hpos] at hmoves
  have hsame : (f.after crew x).store = f.store := hstore
  rw [hsame]
  cases hmoves with
  | accept => exact .inl ⟨r, _, _, _, _, _, _, _, hway, by rw [hpos', update_self], hid⟩

omit hm hnames hx in
/-- Nothing is written to a forwarded item. -/
theorem find?_of_forwarded {r : Row m.Stamp} (hr : f.store.find? id = some r)
    (hforwarded : r.isIn .forwarded = true) : (f.after crew x).store.find? id = some r := by
  obtain ⟨r', hr', hrow⟩ := hsteps.find? crew hs hr
  cases hrow with
  | same => exact hr'
  | claim _ _ _ _ _ _ hclaimable =>
    exact absurd hclaimable (Row.not_isClaimable_of_forwarded hforwarded _)
  | @register j left ended item name content hash now _ _ hevent hpos hid _ =>
    obtain ⟨q, hq, hholder⟩ := h.holders j item (by rw [hpos]; rfl)
    rw [hid, Store.id_of_find? hr, hr] at hq
    cases hq
    cases Row.eq_of_isIn hforwarded (Row.isIn_of_isHeldBy hholder)
  | conclude _ _ _ hheld _ =>
    cases Row.eq_of_isIn hforwarded (Row.isIn_of_isHeldBy hheld)

include hat in
/-- What was accepted is recorded, and stays so. -/
theorem isEngaged_after (hf : f = (start m ι).afterAll crew moments)
    (hengaged : IsEngaged crew moments f.store pos k id hash now) :
    IsEngaged crew (moments ++ [x]) (f.after crew x).store pos' k id hash now := by
  rcases hengaged with
    ⟨r, left, ended, item, taskRef, response, identity, retryAfter, hway, hpos, rfl⟩ |
    ⟨r, recorded, hforwarded⟩
  · by_cases hevent : x.event = .move k
    · have hasked : (pos k).request? (crew k) = some (.record item.id (crew k).name
          (.forwarded taskRef response identity) retryAfter) := by rw [hpos]; rfl
      have hrequest := (request?_of_isAt crew hat k).trans hasked
      obtain ⟨q, -, hstore, -⟩ := hsteps.move_of_request crew hevent hasked
      obtain ⟨stamp, retryStamp, hstamp, hanswer⟩ := answer_of_records hx.answers hevent hrequest
      refine .inr ⟨r.conclude (.forwarded taskRef response identity) retryStamp stamp, x.clock, ?_,
        Row.isIn_conclude.mpr rfl, Row.contentHash_conclude _ _ _ _ hway.content, ?_, ?_⟩
      · rw [hstore, hanswer]
        exact Store.find?_modify_self (fun _ => Row.id_conclude ..) hway.row
      · rw [Row.updatedAt_conclude]
        exact hstamp
      · exact ⟨moments, x, [], _, _, _, _, rfl, hevent, rfl, hf ▸ hrequest⟩
    · exact .inl ⟨r, left, ended, item, taskRef, response, identity, retryAfter,
        isUnderWay_after crew hm hnames h hx hs hsteps hway hevent,
        (hsteps.pos_eq crew hevent).trans hpos, rfl⟩
  · obtain ⟨early, y, late, _, _, _, _, hrun, hrecord⟩ := hforwarded.recorded
    refine .inr ⟨r, recorded, { hforwarded with row := ?_, recorded := ?_ }⟩
    · exact find?_of_forwarded crew h hs hsteps hforwarded.row hforwarded.forwarded
    · exact ⟨early, y, late ++ [x], _, _, _, _, by rw [hrun]; simp, hrecord⟩

end

/-! ## Two accepted submissions -/

section

variable (hm : m.IsBackend) (hnames : ∀ j k, (crew j).name = (crew k).name → j = k)
  {content : Int → String}

include hm hnames

/-- After the registration of a submission, its worker is about to submit the item. -/
theorem exists_submitting {before between : List (Moment ι)} {reg : Moment ι} {k : ι} {id : Int}
    {hash : String} {now : Instant} {since : Option Instant} {path : Artifact.Name} {name : String}
    (horderly : IsOrderly m crew content (before ++ [reg])) (hevent : reg.event = .move k)
    (hrequest : ((start m ι).afterAll crew before).request? k =
      some (.registerHash id hash now since))
    (hquiet : ∀ x ∈ between, x.event ≠ .move k)
    (hnext : ((start m ι).afterAll crew (before ++ reg :: between)).request? k =
      some (.submit path name)) :
    (∃ y ∈ before, y.clock = now) ∧ ∃ pos, Scene m crew content (before ++ [reg]) pos ∧
      IsSubmitting crew ((start m ι).afterAll crew (before ++ [reg])).store pos k id hash now := by
  obtain ⟨pos, hscene⟩ := exists_scene_of_isOrderly crew hm hnames horderly.of_append
  obtain ⟨pos', hscene', hx, hsteps⟩ := exists_scene crew hm hnames hscene horderly
  rw [List.append_cons, afterAll_append, request?_afterAll_of_ne crew hquiet,
    afterAll_snoc] at hnext
  have hat' := hscene'.positions
  rw [afterAll_snoc] at hat'
  refine ⟨(scene_of_registers crew hscene hrequest).1, pos', hscene', ?_⟩
  rw [afterAll_snoc]
  exact isSubmitting_of_registers crew hscene.order hx hscene.positions hat' hsteps hevent hrequest
    hnext

theorem exists_submitting_of_quiet {before rest : List (Moment ι)} {pos : ι → Position} {k : ι}
    {id : Int} {hash : String} {now : Instant} (h : Scene m crew content before pos)
    (hsubmitting : IsSubmitting crew ((start m ι).afterAll crew before).store pos k id hash now)
    (hquiet : ∀ x ∈ rest, x.event ≠ .move k)
    (horderly : IsOrderly m crew content (before ++ rest)) :
    ∃ pos', Scene m crew content (before ++ rest) pos' ∧
      IsSubmitting crew ((start m ι).afterAll crew (before ++ rest)).store pos' k id hash now :=
  scene_induction crew hm hnames (q := fun x => x.event ≠ .move k)
    (S := fun _ s pos => IsSubmitting crew s pos k id hash now)
    (fun _ _ _ _ hne h hx hsteps hS =>
      isSubmitting_after crew hm hnames h.order hx h.numbered hsteps hne hS)
    hquiet horderly h hsubmitting

theorem exists_engaged_of_engaged {before rest : List (Moment ι)} {pos : ι → Position} {k : ι}
    {id : Int} {hash : String} {now : Instant} (h : Scene m crew content before pos)
    (hengaged : IsEngaged crew before ((start m ι).afterAll crew before).store pos k id hash now)
    (horderly : IsOrderly m crew content (before ++ rest)) :
    ∃ pos', Scene m crew content (before ++ rest) pos' ∧ IsEngaged crew (before ++ rest)
      ((start m ι).afterAll crew (before ++ rest)).store pos' k id hash now :=
  scene_induction crew hm hnames (q := fun _ => True)
    (S := fun moments s pos => IsEngaged crew moments s pos k id hash now)
    (fun _ _ _ _ _ h hx hsteps hS =>
      isEngaged_after crew hm hnames h.order hx h.numbered h.positions hsteps rfl hS)
    (fun _ _ => trivial) horderly h hengaged

omit hm hnames [DecidableEq ι] in
/-- A moment that comes later than another stands in the rest of the run. -/
theorem exists_between {before after later rest : List (Moment ι)} {x y : Moment ι}
    (h : before ++ x :: after = later ++ y :: rest) (hlt : before.length < later.length) :
    ∃ mid, later = before ++ [x] ++ mid ∧ after = mid ++ y :: rest := by
  rcases List.append_eq_append_iff.mp h with ⟨tail, hlater, htail⟩ | ⟨tail, hbefore, -⟩
  · cases tail with
    | nil =>
      rw [hlater, List.append_nil] at hlt
      exact absurd hlt (Nat.lt_irrefl _)
    | cons z mid =>
      obtain ⟨rfl, hmid⟩ := List.cons.inj htail
      exact ⟨mid, hlater.trans (List.append_cons ..), hmid⟩
  · rw [hbefore, List.length_append] at hlt
    omega

/-- When a later moment comes, the item of an accepted submission is a copy of its content: it is
about to be submitted, or its submission was accepted. -/
theorem exists_engaged {moments before later rest : List (Moment ι)} {x : Moment ι} {k : ι}
    {id : Int} {hash : String} {now : Instant} (horderly : IsOrderly m crew content moments)
    (h : IsAccepted m crew moments before k id hash now) (hmoments : moments = later ++ x :: rest)
    (hlt : before.length < later.length) :
    (∃ y ∈ later, y.clock = now) ∧ ∃ pos, Scene m crew content later pos ∧
      (IsSubmitting crew ((start m ι).afterAll crew later).store pos k id hash now ∨
        IsEngaged crew later ((start m ι).afterAll crew later).store pos k id hash now) := by
  obtain ⟨reg, between, sub, after, since, path, name, ack, hrun, hreg, hrequest, hquiet, hsub,
    hnext, hack⟩ := h
  have horderly' : IsOrderly m crew content later := by
    rw [hmoments] at horderly
    exact horderly.of_append
  obtain ⟨mid, rfl, hmid⟩ := exists_between (hrun.symm.trans hmoments) hlt
  obtain ⟨⟨y, hy, hclock⟩, pos, hscene, hsubmitting⟩ :=
    exists_submitting crew hm hnames horderly'.of_append hreg hrequest hquiet hnext
  refine ⟨⟨y, by simp [hy], hclock⟩, ?_⟩
  by_cases hlate : between.length < mid.length
  · obtain ⟨tail, rfl, -⟩ := exists_between hmid hlate
    have hsplit : before ++ [reg] ++ (between ++ [sub] ++ tail) =
        before ++ [reg] ++ between ++ [sub] ++ tail := by simp only [List.append_assoc]
    rw [hsplit] at horderly' ⊢
    obtain ⟨pos', hscene', hsubmitting'⟩ := exists_submitting_of_quiet crew hm hnames hscene
      hsubmitting hquiet horderly'.of_append.of_append
    obtain ⟨pos'', hscene'', -, hsteps⟩ :=
      exists_scene crew hm hnames hscene' horderly'.of_append
    have hengaged : IsEngaged crew (before ++ [reg] ++ between ++ [sub]) _ pos'' k id hash now :=
      isEngaged_of_accepts crew hsteps hsub hack hsubmitting'
    rw [← afterAll_snoc] at hengaged
    obtain ⟨last, hlast, hcopy⟩ :=
      exists_engaged_of_engaged crew hm hnames hscene'' hengaged horderly'
    exact ⟨last, hlast, .inr hcopy⟩
  · have hbegin : mid <+: between := List.prefix_of_prefix_length_le ⟨x :: rest, rfl⟩
      ⟨sub :: after, hmid⟩ (Nat.le_of_not_lt hlate)
    obtain ⟨pos', hscene', hsubmitting'⟩ := exists_submitting_of_quiet crew hm hnames hscene
      hsubmitting (fun y hy => hquiet y (hbegin.subset hy)) horderly'
    exact ⟨pos', hscene', .inl hsubmitting'⟩

end

/-- The last write to the item of an accepted submission: the registration of its content while
it is under way, the record of it once it was forwarded. -/
def IsLastWrite (moments : List (Moment ι)) (k : ι) (id : Int) (hash : String)
    (registered written : Instant) (r : Row m.Stamp) : Prop :=
  (written = registered ∧
    IsUnderWay crew ((start m ι).afterAll crew moments).store k id hash registered r) ∨
  IsForwarded crew moments ((start m ι).afterAll crew moments).store k id hash written r

/-- What is written last stands in the row of the copy. -/
theorem IsLastWrite.row {moments : List (Moment ι)} {k : ι} {id : Int} {hash : String}
    {registered written : Instant} {r : Row m.Stamp}
    (h : IsLastWrite crew moments k id hash registered written r) :
    ((start m ι).afterAll crew moments).store.find? id = some r ∧ r.contentHash = some hash ∧
      m.stamp? written = some r.updatedAt := by
  rcases h with ⟨rfl, hway⟩ | hforwarded
  · exact ⟨hway.row, hway.content, hway.updated⟩
  · exact ⟨hforwarded.row, hforwarded.content, hforwarded.updated⟩

/-- The last write was made at a clock of the run. -/
theorem IsLastWrite.exists_clock {moments : List (Moment ι)} {k : ι} {id : Int} {hash : String}
    {registered written : Instant} {r : Row m.Stamp}
    (h : IsLastWrite crew moments k id hash registered written r)
    (hregistered : ∃ y ∈ moments, y.clock = registered) : ∃ y ∈ moments, y.clock = written := by
  rcases h with ⟨rfl, -⟩ | hforwarded
  · exact hregistered
  · obtain ⟨early, x, late, _, _, _, _, rfl, -, hclock, -⟩ := hforwarded.recorded
    exact ⟨x, by simp, hclock⟩

section

variable (hm : m.IsBackend) (hnames : ∀ j k, (crew j).name = (crew k).name → j = k)
  {content : Int → String}

include hm in
/-- A copy of the content is active at a registration, and this was no write to it. -/
theorem isActive_of_isEngaged {moments : List (Moment ι)} {pos : ι → Position} {x : Moment ι}
    {k : ι} {id : Int} {hash : String} {registered : Instant}
    (h : Scene m crew content moments pos)
    (hx : IsOrderlyAt content moments ((start m ι).afterAll crew moments) x)
    (hcopy : IsSubmitting crew ((start m ι).afterAll crew moments).store pos k id hash registered ∨
      IsEngaged crew moments ((start m ι).afterAll crew moments).store pos k id hash registered)
    {now : Instant} (hnow : ∃ y ∈ moments, y.clock = now) {stamp : m.Stamp}
    (hstamp : m.stamp? now = some stamp) :
    ∃ written r, IsLastWrite crew moments k id hash registered written r ∧
      r.isActive m stamp = true := by
  obtain ⟨y, hy, rfl⟩ := hnow
  obtain ⟨hle, hdated⟩ := hx.past y hy
  have hway : ∀ r,
      IsUnderWay crew ((start m ι).afterAll crew moments).store k id hash registered r →
      ∃ written r, IsLastWrite crew moments k id hash registered written r ∧
        r.isActive m stamp = true := by
    intro r hway
    have hclaimed := Row.isIn_of_isHeldBy hway.held
    obtain ⟨lease, hlease⟩ :=
      Option.isSome_iff_exists.mp (h.order.leases id r hway.row hclaimed)
    have hruns := below_eq_false_of_leasesRun hm hx.leases hx.dated (Store.mem_of_find? hway.row)
      hclaimed hlease hdated hle hstamp
    refine ⟨registered, r, .inl ⟨rfl, hway⟩, ?_⟩
    simp [Row.isActive, hclaimed, hlease, Medium.atMost_eq_not_below hm, hruns]
  rcases hcopy with ⟨r, _, _, _, _, _, hr, -⟩ | ⟨r, _, _, _, _, _, _, _, hr, -⟩ | ⟨r, written, hr⟩
  · exact hway r hr
  · exact hway r hr
  · refine ⟨written, r, .inr hr, ?_⟩
    simp [Row.isActive, hr.forwarded]

/-- Who submits next was not told that the content is a duplicate. -/
theorem answer_ne_of_submits {moments : List (Moment ι)} {pos pos' : ι → Position} {x : Moment ι}
    {k : ι} {id : Int} {hash : String} {now : Instant} {since : Option Instant}
    {path : Artifact.Name} {name : String} (h : Scene m crew content moments pos)
    (h' : Scene m crew content (moments ++ [x]) pos')
    (hsteps : Steps crew x ((start m ι).afterAll crew moments).store pos
      (((start m ι).afterAll crew moments).after crew x).store pos') (hevent : x.event = .move k)
    (hrequest : ((start m ι).afterAll crew moments).request? k =
      some (.registerHash id hash now since))
    (hnext : ((start m ι).afterAll crew (moments ++ [x])).request? k = some (.submit path name)) :
    (x.answer (.registerHash id hash now since) ((start m ι).afterAll crew moments).store).1 ≠
      .ok true := by
  intro hanswer
  rw [request?_of_isAt crew h.positions] at hrequest
  obtain ⟨q, hmoves, -, rfl⟩ := hsteps.move_of_request crew hevent hrequest
  obtain ⟨left, ended, item, artifact, identity, hpos, rfl, rfl⟩ :=
    Position.eq_registering _ hrequest
  rw [request?_of_isAt crew h'.positions, update_self] at hnext
  rw [hanswer, hpos] at hmoves
  cases hmoves with
  | duplicate => cases hnext
  | unique hne => exact hne rfl

include hnames in
/-- The copy of an accepted submission is not the item that another worker registers. -/
theorem ne_of_registers {moments : List (Moment ι)} {pos : ι → Position} {k₁ k₂ : ι} {a b : Int}
    {hash : String} {registered now : Instant} {since : Option Instant}
    (h : Scene m crew content moments pos)
    (hcopy : IsSubmitting crew ((start m ι).afterAll crew moments).store pos k₁ a hash registered ∨
      IsEngaged crew moments ((start m ι).afterAll crew moments).store pos k₁ a hash registered)
    (hrequest : ((start m ι).afterAll crew moments).request? k₂ =
      some (.registerHash b hash now since)) : a ≠ b := by
  rintro rfl
  obtain ⟨-, -, ⟨q, hq, hheld⟩, left, ended, item, name, identity, hpos⟩ :=
    scene_of_registers crew h hrequest
  have hsame : ∀ r,
      IsUnderWay crew ((start m ι).afterAll crew moments).store k₁ a hash registered r →
      k₁ = k₂ := fun r hway => by
    obtain rfl := Option.some.inj (hq.symm.trans hway.row)
    exact hnames k₁ k₂ (Row.eq_of_isHeldBy hway.held hheld)
  rcases hcopy with ⟨r, _, _, _, _, _, hway, hpos', -⟩ |
    ⟨r, _, _, _, _, _, _, _, hway, hpos', -⟩ | ⟨r, written, hforwarded⟩
  · obtain rfl := hsame r hway
    cases hpos.symm.trans hpos'
  · obtain rfl := hsame r hway
    cases hpos.symm.trans hpos'
  · obtain rfl := Option.some.inj (hq.symm.trans hforwarded.row)
    cases Row.eq_of_isIn hforwarded.forwarded (Row.isIn_of_isHeldBy hheld)

include hm hnames

/-- Of two accepted submissions of one content in an orderly run, the one that registered later
belongs to another item, and to a worker with a finite dedup window.  The last write to the
first item before this registration is older than the window. -/
theorem accepted_once_per_window {moments before₁ before₂ : List (Moment ι)}
    (horderly : IsOrderly m crew content moments) {k₁ k₂ : ι} {a b : Int} {hash : String}
    {r₁ r₂ : Instant} (h₁ : IsAccepted m crew moments before₁ k₁ a hash r₁)
    (h₂ : IsAccepted m crew moments before₂ k₂ b hash r₂) (hlt : before₁.length < before₂.length) :
    a ≠ b ∧ ∃ window since written row first,
      (crew k₂).settings.dedupWindow = some window ∧ r₂.sub? window = some since ∧
      IsLastWrite crew before₂ k₁ a hash r₁ written row ∧ written < since ∧
      m.stamp? since = some first ∧ m.below row.updatedAt first = true := by
  obtain ⟨reg, between, sub, after, since, path, name, ack, hrun, hreg, hrequest, hquiet, -, hnext,
    -⟩ := id h₂
  obtain ⟨hclock₁, pos, hscene, hcopy⟩ := exists_engaged crew hm hnames horderly h₁ hrun hlt
  have hne := ne_of_registers crew hnames hscene hcopy hrequest
  obtain ⟨hclock₂, hsince, -, -⟩ := scene_of_registers crew hscene hrequest
  have horderly' : IsOrderly m crew content (before₂ ++ [reg]) := by
    rw [hrun, List.append_cons] at horderly
    exact horderly.of_append
  obtain ⟨pos', hscene', hx, hsteps⟩ := exists_scene crew hm hnames hscene horderly'
  rw [List.append_cons, afterAll_append, request?_afterAll_of_ne crew hquiet] at hnext
  have hunique := answer_ne_of_submits crew hscene hscene' hsteps hreg hrequest hnext
  obtain ⟨stamp, first?, hstamp, hfirst, -, hanswer⟩ :=
    answer_of_registers hx.answers hreg hrequest
  obtain ⟨written, row, hlast, hactive⟩ :=
    isActive_of_isEngaged crew hm hscene hx hcopy hclock₂ hstamp
  obtain ⟨hrow, hcontent, hwritten⟩ := hlast.row
  have hunknown : (((start m ι).afterAll crew before₂).store.modify b
      (·.register hash stamp)).hasDuplicate b hash stamp first? = false := by
    rw [hanswer] at hunique
    exact Bool.eq_false_iff.mpr fun hknown => hunique (congrArg _ hknown)
  have hmem := Store.mem_of_find?
    ((Store.find?_modify_ne (fun r => Row.id_register r hash stamp) hne).trans hrow)
  obtain ⟨first, rfl, hbefore⟩ := Store.exists_since_of_hasDuplicate hunknown hmem
    (by rw [Store.id_of_find? hrow]; exact hne) hcontent hactive
  have hbelow : m.below row.updatedAt first = true := by
    rw [Medium.atMost_eq_not_below hm] at hbefore
    simpa using hbefore
  obtain ⟨since, rfl, hfirst⟩ := Option.bind_eq_some_iff.mp hfirst
  obtain ⟨window, hwindow, hsub⟩ := Option.bind_eq_some_iff.mp hsince
  refine ⟨hne, window, since, written, row, first, hwindow, hsub, hlast, ?_, hfirst, hbelow⟩
  have hordered : ∀ t, (∃ y ∈ before₂, y.clock = t) → m.IsOrdered t := by
    rintro t ⟨y, hy, rfl⟩
    exact horderly'.dated y (List.mem_append_left _ hy)
  exact Medium.lt_of_below hm (hordered written (hlast.exists_clock crew hclock₁)).1
    (fun hserver => Instant.nanos_lt_of_sub? ((hordered r₂ hclock₂).2 hserver) hsub) hwritten hfirst
    hbelow

end

/-! ### Runs on fixed inputs -/

/-- `a` forwards the first of two items with one content, and `b` forwards the other later. -/
def inTurn (later : Instant) : List (Moment Bool) :=
  List.replicate 2 (calm (Store.clock 0) (.enqueue sighting)) ++ moves 9 false (Store.clock 0) ++
    moves 9 true later

/-- The second of two items is forwarded two hours after the first, under a window of one. -/
theorem accepted_once_per_window_in_turn :
    ∃ window since written row first,
      (pair .standard true).settings.dedupWindow = some window ∧
      (Store.clock 7200).sub? window = some since ∧
      IsLastWrite (pair .standard) ((inTurn (Store.clock 7200)).take 17) false 1 "c0ffee"
        (Store.clock 0) written row ∧
      written < since ∧ Medium.embedded.stamp? since = some first ∧
      Medium.embedded.below row.updatedAt first = true := by
  have hdated : ∀ x ∈ inTurn (Store.clock 7200),
      x.clock.IsFourDigit ∧ x.clock.nanos < 1000000000 := by decide
  have horderly : IsOrderly .embedded (pair .standard) (fun _ => "c0ffee")
      (inTurn (Store.clock 7200)) :=
    ⟨by decide, fun x hx => Medium.isOrdered_of_nanos_lt (hdated x hx), by decide, by decide,
      by decide⟩
  have hfirst : IsAccepted .embedded (pair .standard) (inTurn (Store.clock 7200))
      ((inTurn (Store.clock 7200)).take 8) false 1 "c0ffee" (Store.clock 0) :=
    ⟨calm (Store.clock 0) (.move false), [], calm (Store.clock 0) (.move false),
      moves 1 false (Store.clock 0) ++ moves 9 true (Store.clock 7200), _, _, _, _, rfl, rfl, rfl,
      fun _ => nofun, rfl, rfl, rfl⟩
  have hsecond : IsAccepted .embedded (pair .standard) (inTurn (Store.clock 7200))
      ((inTurn (Store.clock 7200)).take 17) true 2 "c0ffee" (Store.clock 7200) :=
    ⟨calm (Store.clock 7200) (.move true), [], calm (Store.clock 7200) (.move true),
      moves 1 true (Store.clock 7200), _, _, _, _, rfl, rfl, rfl, fun _ => nofun, rfl, rfl, rfl⟩
  exact (accepted_once_per_window (pair .standard) (.inl rfl) (names_pair .standard) horderly hfirst
    hsecond (by decide)).2

/-- Settings under which the dedup window reaches a minute into the future. -/
def hasty : WorkerSettings :=
  { WorkerSettings.standard with dedupWindow := some (.ofMinutes (-1)) }

/-- `a` and `b` both submit one item, which `b` claimed after `a` had registered its content. -/
def shared (now later : Instant) : List (Moment Bool) :=
  calm now (.enqueue sighting) :: moves 7 false now ++ moves 7 true later ++
    moves 1 false later ++ moves 1 true later

/-- Whether the lease of every claimed row runs at the clock of a moment, by the instants of the
two. -/
def leasesLast (f : Fleet m ι) (x : Moment ι) : Bool :=
  f.store.rows.all fun r => !r.isIn .claimed ||
    r.leaseUntil.all fun lease => (m.instant? lease).all fun expiry => decide (x.clock ≤ expiry)

variable (m) in
/-- An orderly run, but for leases that are compared as instants and for leap seconds. -/
structure IsOrderlyByInstants (crew : Bool → Worker) (moments : List (Moment Bool)) : Prop where
  clock : moments.Pairwise fun x y => x.clock ≤ y.clock
  dated : ∀ x ∈ moments, x.clock.IsFourDigit
  leases : (start m Bool).Along crew (fun f x => f.leasesLast x = true) moments
  answers : (start m Bool).Along crew (fun f x => f.answersCalls x = true) moments
  contents : (start m Bool).Along crew
    (fun f x => f.namesContent (fun _ => "c0ffee") x = true) moments

/-- The last second of the year 9999. -/
def lastSecond : Instant := Store.clock 251702300799

/-- Half a second into a leap second, 39 seconds and a half after `Store.clock 0`. -/
def leapSecond : Instant := (Instant.ofParts? 1700000039 1500000000).getD .epoch

/-- Two items are forwarded at one instant under a window of less than nothing.  Compared as
instants, leases do not keep two workers from forwarding one item: a lease that ends in the year
10000 is stored as a text below every other, and a server reads a leap second as the next one. -/
theorem accepted_once_not_always :
    (IsOrderlyByInstants .embedded (pair hasty) (inTurn (Store.clock 0)) ∧
      IsAccepted .embedded (pair hasty) (inTurn (Store.clock 0))
        ((inTurn (Store.clock 0)).take 8) false 1 "c0ffee" (Store.clock 0) ∧
      IsAccepted .embedded (pair hasty) (inTurn (Store.clock 0))
        ((inTurn (Store.clock 0)).take 17) true 2 "c0ffee" (Store.clock 0) ∧
      ∃ window, hasty.dedupWindow = some window ∧ window.nanos < 0) ∧
    (IsOrderlyByInstants .embedded (leasing 60) (shared lastSecond lastSecond) ∧
      IsAccepted .embedded (leasing 60) (shared lastSecond lastSecond)
        ((shared lastSecond lastSecond).take 7) false 1 "c0ffee" lastSecond ∧
      IsAccepted .embedded (leasing 60) (shared lastSecond lastSecond)
        ((shared lastSecond lastSecond).take 14) true 1 "c0ffee" lastSecond) ∧
    IsOrderlyByInstants .server (leasing 40) (shared (Store.clock 0) leapSecond) ∧
      IsAccepted .server (leasing 40) (shared (Store.clock 0) leapSecond)
        ((shared (Store.clock 0) leapSecond).take 7) false 1 "c0ffee" (Store.clock 0) ∧
      IsAccepted .server (leasing 40) (shared (Store.clock 0) leapSecond)
        ((shared (Store.clock 0) leapSecond).take 14) true 1 "c0ffee" leapSecond := by
  have hquiet : ∀ (n : Nat) (j k : Bool) (now : Instant), j ≠ k →
      ∀ y ∈ moves n j now, y.event ≠ .move k := fun n j k now hne y hy hevent => by
    rw [List.eq_of_mem_replicate hy] at hevent
    exact hne (Event.move.inj hevent)
  refine ⟨⟨?negative, ?_, ?_, _, rfl, by decide⟩, ⟨?farLease, ?_, ?_⟩, ?leap, ?_, ?_⟩
  case negative | farLease | leap =>
    exact ⟨by decide, by decide, by decide, by decide, by decide⟩
  · exact ⟨calm (Store.clock 0) (.move false), [], calm (Store.clock 0) (.move false),
      moves 1 false (Store.clock 0) ++ moves 9 true (Store.clock 0), _, _, _, _, rfl, rfl, rfl,
      fun _ => nofun, rfl, rfl, rfl⟩
  · exact ⟨calm (Store.clock 0) (.move true), [], calm (Store.clock 0) (.move true),
      moves 1 true (Store.clock 0), _, _, _, _, rfl, rfl, rfl, fun _ => nofun, rfl, rfl, rfl⟩
  · exact ⟨calm lastSecond (.move false), moves 7 true lastSecond, calm lastSecond (.move false),
      moves 1 true lastSecond, _, _, _, _, rfl, rfl, rfl, hquiet 7 true false _ nofun, rfl, rfl,
      rfl⟩
  · exact ⟨calm lastSecond (.move true), moves 1 false lastSecond, calm lastSecond (.move true),
      [], _, _, _, _, rfl, rfl, rfl, hquiet 1 false true _ nofun, rfl, rfl, rfl⟩
  · exact ⟨calm (Store.clock 0) (.move false), moves 7 true leapSecond,
      calm leapSecond (.move false), moves 1 true leapSecond, _, _, _, _, rfl, rfl, rfl,
      hquiet 7 true false _ nofun, rfl, rfl, rfl⟩
  · exact ⟨calm leapSecond (.move true), moves 1 false leapSecond, calm leapSecond (.move true),
      [], _, _, _, _, rfl, rfl, rfl, hquiet 1 false true _ nofun, rfl, rfl, rfl⟩

end Fleet

end ArtifactRelay
