import ArtifactRelay.Proofs.Backlog.Exclusivity
import ArtifactRelay.Proofs.Fleet.Basic

/-!
# ArtifactRelay.Proofs.Fleet.Holding

Who holds an item while a worker is at work on it.  A worker that claimed an item
holds it as long as nobody else takes it, and from a takeover on it does not hold it
any more; but nothing on its way tells it so before it records an outcome.

`submission_of_held_iff` puts this at the registration of the content: the worker
that is told "no duplicate" submits the item in either case, and it still holds the
item exactly if no other worker took it since its claim.
-/

namespace ArtifactRelay

open Backlog Time Worker

/-- The row of that number is held by a worker. -/
def Backlog.Store.IsHeld {m : Medium} (s : Store m) (id : Int) (worker : String) : Prop :=
  ∃ r, s.find? id = some r ∧ r.isHeldBy worker = true

namespace Fleet

variable {m : Medium} {ι : Type} [DecidableEq ι] (crew : ι → Worker)

/-- The moment hands an item to a worker. -/
def Claims (f : Fleet m ι) (x : Moment ι) (k : ι) (item : WorkItem) : Prop :=
  x.event = .move k ∧ ∃ name now lease, f.request? k = some (.claim name now lease) ∧
    (x.answer (.claim name now lease) f.store).1 = .ok (some item)

/-- The moment is a claim of a worker that changes the row of that number. -/
def Takes (f : Fleet m ι) (x : Moment ι) (k : ι) (id : Int) : Prop :=
  x.event = .move k ∧ (∃ name now lease, f.request? k = some (.claim name now lease)) ∧
    (f.after crew x).store.find? id ≠ f.store.find? id

/-- What the run so far says of a worker at work on an item: it claimed the item, has claimed
nothing since, and holds it unless somebody else took it since. -/
def HasClaimed (moments : List (Moment ι)) (f : Fleet m ι) (k : ι) (item : WorkItem) : Prop :=
  ∃ before x between, moments = before ++ x :: between ∧
    ((start m ι).afterAll crew before).Claims x k item ∧
    let g := ((start m ι).afterAll crew before).after crew x
    g.Along crew (fun f x => ∀ other, ¬ f.Claims x k other) between ∧
      (∃ r, f.store.find? item.id = some r) ∧
      (f.store.IsHeld item.id (crew k).name ↔
        g.Along crew (fun f x => ∀ j, j ≠ k → ¬ f.Takes crew x j item.id) between)

/-- A moment after which a worker is still at work on the same item goes on with its claim. -/
theorem HasClaimed.snoc {moments : List (Moment ι)} {f : Fleet m ι} {k : ι} {item : WorkItem}
    (h : HasClaimed crew moments f k item) (hf : f = (start m ι).afterAll crew moments)
    {x : Moment ι} (hclaims : ∀ other, ¬ f.Claims x k other)
    (hfind : ∃ r, (f.after crew x).store.find? item.id = some r)
    (hheld : (f.after crew x).store.IsHeld item.id (crew k).name ↔
      f.store.IsHeld item.id (crew k).name ∧ ∀ j, j ≠ k → ¬ f.Takes crew x j item.id) :
    HasClaimed crew (moments ++ [x]) (f.after crew x) k item := by
  obtain ⟨before, y, between, rfl, hclaim, hsince, -, hiff⟩ := h
  have hend : (((start m ι).afterAll crew before).after crew y).afterAll crew between = f := by
    rw [hf, afterAll_append]
    rfl
  refine ⟨before, y, between ++ [x], by simp, hclaim, ?_, hfind, ?_⟩
  · rw [along_snoc, hend]
    exact ⟨hsince, hclaims⟩
  · rw [along_snoc, hend, hheld, hiff]

/-- A claim of a worker takes the row, or leaves it as it was. -/
theorem takes_or_eq {f : Fleet m ι} {pos : ι → Position} {x : Moment ι} (hat : f.IsAt crew pos)
    {k : ι} {left ended : Nat} {now : Instant} (hevent : x.event = .move k)
    (hpos : pos k = .claiming left ended now) {id : Int} {r r' : Row m.Stamp}
    (hr : f.store.find? id = some r) (hr' : (f.after crew x).store.find? id = some r') :
    f.Takes crew x k id ∨ r' = r := by
  refine Classical.or_iff_not_imp_right.mpr fun hne => ⟨hevent, ?_, ?_⟩
  · exact ⟨(crew k).name, now, (crew k).settings.lease,
      (request?_of_isAt crew hat k).trans (by rw [hpos]; rfl)⟩
  · rw [hr', hr]
    exact fun hsame => hne (Option.some.inj hsame)

/-- While a worker is at work on an item, it loses the item by a takeover, and by nothing else. -/
theorem isHeld_after_iff (hnames : ∀ j k, (crew j).name = (crew k).name → j = k)
    {f : Fleet m ι} {pos pos' : ι → Position} {x : Moment ι} (hs : f.store.IsNumbered)
    (hat : f.IsAt crew pos)
    (hsteps : Steps crew x f.store pos (f.after crew x).store pos') {k : ι} {item : WorkItem}
    (hitem : (pos k).item? = some item) (hitem' : (pos' k).item? = some item)
    {r : Row m.Stamp} (hr : f.store.find? item.id = some r) :
    (∃ r, (f.after crew x).store.find? item.id = some r) ∧
      ((f.after crew x).store.IsHeld item.id (crew k).name ↔
        f.store.IsHeld item.id (crew k).name ∧ ∀ j, j ≠ k → ¬ f.Takes crew x j item.id) := by
  obtain ⟨r', hr', hrow⟩ := hsteps.find? crew hs hr
  refine ⟨⟨r', hr'⟩, ?_⟩
  have hheld : f.store.IsHeld item.id (crew k).name ↔ r.isHeldBy (crew k).name = true := by
    simp [Store.IsHeld, hr]
  have hheld' : (f.after crew x).store.IsHeld item.id (crew k).name ↔
      r'.isHeldBy (crew k).name = true := by
    simp [Store.IsHeld, hr']
  rw [hheld, hheld']
  cases hrow with
  | same =>
    have hnot : ∀ j, j ≠ k → ¬ f.Takes crew x j item.id :=
      fun j _ htakes => htakes.2.2 (hr'.trans hr.symm)
    exact (and_iff_left hnot).symm
  | @claim j left ended now _ lastly stamp _ hevent hpos _ _ _ _ _ =>
    have hne : j ≠ k := by
      rintro rfl
      rw [hpos] at hitem
      cases hitem
    have hfree : ¬ (r.claim (crew j).name lastly stamp).isHeldBy (crew k).name = true := fun h =>
      hne (hnames j k (Row.isHeldBy_claim.mp h))
    refine iff_of_false hfree ?_
    rintro ⟨hholds, hnot⟩
    -- a claim that leaves the row as it was is one of its holder
    rcases takes_or_eq crew hat hevent hpos hr hr' with htakes | hsame
    · exact hnot j hne htakes
    · rw [hsame] at hfree
      exact hfree hholds
  | @register j _ _ _ _ _ _ _ _ _ hevent hpos _ _ =>
    have hnot : ∀ i, i ≠ k → ¬ f.Takes crew x i item.id := by
      rintro i - ⟨hmove, ⟨name, now, lease, hrequest⟩, -⟩
      cases hevent.symm.trans hmove
      rw [request?_of_isAt crew hat, hpos] at hrequest
      cases hrequest
    rw [Row.isHeldBy_register]
    exact (and_iff_left hnot).symm
  | @conclude j left ended other o retryAfter _ _ _ hevent hpos _ hj _ =>
    have hne : j ≠ k := by
      rintro rfl
      obtain ⟨q, hmoves, -, rfl⟩ := hsteps.move_of_request crew hevent (by rw [hpos]; rfl)
      rw [update_self] at hitem'
      rw [hpos] at hmoves
      cases hmoves
      rw [Position.item?_afterItem] at hitem'
      cases hitem'
    rw [Row.isHeldBy_conclude]
    constructor
    · exact fun h => by cases h
    · exact fun h => absurd (hnames _ _ (Row.eq_of_isHeldBy hj h.1)) hne

omit [DecidableEq ι] in
/-- A worker that was handed an item holds its row, and was told what the row says. -/
theorem find?_of_claims {f : Fleet m ι} {x : Moment ι} (hs : f.store.IsNumbered) {name : String}
    {now : Instant} {lease : Span} {item : WorkItem}
    (h : (x.answer (.claim name now lease) f.store).1 = .ok (some item)) :
    ∃ r, (x.answer (.claim name now lease) f.store).2.find? item.id = some r ∧
      r.isHeldBy name = true ∧ r.read m = .ok item := by
  change (x.reach f.store (f.store.claimNext name now lease)).1 = _ at h
  show ∃ r, (x.reach f.store (f.store.claimNext name now lease)).2.find? item.id = some r ∧ _
  rcases x.reach_cases f.store (f.store.claimNext name now lease) with hreach | ⟨e, hreach⟩
  · rw [hreach] at h ⊢
    obtain ⟨_, _, _, row, -, -, -, -, hfind, -, hread, hafter⟩ := Store.claimNext_some hs h
    rw [hafter]
    exact ⟨_, Store.find?_modify_self (fun _ => Row.id_claim ..) hfind,
      Row.isHeldBy_claim.mpr rfl, hread⟩
  · rw [hreach] at h
    cases h

/-- A worker at work on an item was just handed it, or was at work on it before. -/
theorem claims_or_item? {f : Fleet m ι} {pos pos' : ι → Position} {x : Moment ι}
    (hs : f.store.IsNumbered) (hat : f.IsAt crew pos)
    (hsteps : Steps crew x f.store pos (f.after crew x).store pos') {k : ι} {item : WorkItem}
    (hitem : (pos' k).item? = some item) :
    (f.Claims x k item ∧ ∃ r, (f.after crew x).store.find? item.id = some r ∧
        r.isHeldBy (crew k).name = true ∧ r.read m = .ok item) ∨
      ((pos k).item? = some item ∧ ∀ other, ¬ f.Claims x k other) := by
  by_cases hclaiming : x.event = .move k ∧ ∃ left ended now, pos k = .claiming left ended now
  · obtain ⟨hevent, left, ended, now, hpos⟩ := hclaiming
    have hrequest : (pos k).request? (crew k) =
        some (.claim (crew k).name now (crew k).settings.lease) := by rw [hpos]; rfl
    obtain ⟨q, hmoves, hstore, rfl⟩ := hsteps.move_of_request crew hevent hrequest
    rw [update_self] at hitem
    rw [hpos] at hmoves
    generalize hanswer : (x.answer _ f.store).1 = answer at hmoves
    cases hmoves with
    | claimNothing => cases hitem
    | claim =>
      cases hitem
      rw [hstore]
      exact .inl ⟨⟨hevent, _, _, _, (request?_of_isAt crew hat k).trans hrequest, hanswer⟩,
        find?_of_claims hs hanswer⟩
  · refine .inr ⟨?_, ?_⟩
    · by_cases hevent : x.event = .move k
      · exact hsteps.item?_eq crew (fun left ended now h =>
          hclaiming ⟨hevent, left, ended, now, h⟩) hitem
      · rwa [hsteps.pos_eq crew hevent] at hitem
    · rintro other ⟨hevent, name, now, lease, hrequest, -⟩
      rw [request?_of_isAt crew hat] at hrequest
      obtain ⟨left, ended, hpos⟩ := Position.eq_claiming _ hrequest
      exact hclaiming ⟨hevent, left, ended, now, hpos⟩

/-- What the run says of the workers at work, after one moment more. -/
theorem hasClaimed_after (hnames : ∀ j k, (crew j).name = (crew k).name → j = k)
    {moments : List (Moment ι)} {f : Fleet m ι} {pos pos' : ι → Position} {x : Moment ι}
    (ih : ∀ k item, (pos k).item? = some item → HasClaimed crew moments f k item)
    (hs : f.store.IsNumbered) (hat : f.IsAt crew pos)
    (hf : f = (start m ι).afterAll crew moments)
    (hsteps : Steps crew x f.store pos (f.after crew x).store pos') (k : ι) (item : WorkItem)
    (hitem : (pos' k).item? = some item) :
    HasClaimed crew (moments ++ [x]) (f.after crew x) k item := by
  rcases claims_or_item? crew hs hat hsteps hitem with
    ⟨hclaims, r, hr, hheld, -⟩ | ⟨hbefore, hnot⟩
  · exact ⟨moments, x, [], rfl, hf ▸ hclaims, trivial, ⟨r, hr⟩,
      iff_of_true ⟨r, hr, hheld⟩ trivial⟩
  · have hclaimed := ih k item hbefore
    obtain ⟨-, -, -, -, -, -, ⟨r, hr⟩, -⟩ := id hclaimed
    obtain ⟨hfind, hiff⟩ := isHeld_after_iff crew hnames hs hat hsteps hbefore hitem hr
    exact hclaimed.snoc crew hf hnot hfind hiff

/-- A worker whose registration is answered "no duplicate" submits the item, on its latest claim
of it.  It still holds the item then exactly if no other worker took it since that claim. -/
theorem submission_of_held_iff (hnames : ∀ j k, (crew j).name = (crew k).name → j = k)
    (moments : List (Moment ι)) {x : Moment ι} {k : ι} {id : Int} {hash : String} {now : Instant}
    {since : Option Instant} (hevent : x.event = .move k) :
    let f := (start m ι).afterAll crew moments
    f.request? k = some (.registerHash id hash now since) →
    (x.answer (.registerHash id hash now since) f.store).1 = .ok false →
    (∃ path name, (f.after crew x).request? k = some (.submit path name)) ∧
    ∃ before claim between item, moments = before ++ claim :: between ∧ item.id = id ∧
      ((start m ι).afterAll crew before).Claims claim k item ∧
      let g := ((start m ι).afterAll crew before).after crew claim
      g.Along crew (fun f x => ∀ other, ¬ f.Claims x k other) between ∧
        (f.store.IsHeld id (crew k).name ↔
          g.Along crew (fun f x => ∀ j, j ≠ k → ¬ f.Takes crew x j id) between) := by
  intro f hrequest hanswer
  obtain ⟨pos, hat', -, -, hclaimed⟩ := run_induction (m := m) crew
    (P := fun moments f pos => ∀ k item, (pos k).item? = some item →
      HasClaimed crew moments f k item)
    (fun k item h => by cases h)
    (fun moments f pos x pos' ih hs _ hat hf hsteps =>
      hasClaimed_after crew hnames ih hs hat hf hsteps) moments
  rw [request?_of_isAt crew hat'] at hrequest
  obtain ⟨left, ended, item, name, content, hpos, hid, -⟩ := Position.eq_registering _ hrequest
  constructor
  · obtain ⟨pos', hat'', hsteps⟩ := exists_steps crew hat' x
    obtain ⟨q, hmoves, -, rfl⟩ := hsteps.move_of_request crew hevent hrequest
    rw [request?_of_isAt crew hat'', update_self]
    rw [hanswer, hpos] at hmoves
    cases hmoves with
    | unique => exact ⟨_, _, rfl⟩
  · obtain ⟨before, claim, between, hmoments, hclaim, hsince, -, hiff⟩ :=
      hclaimed k item (by rw [hpos]; rfl)
    rw [hid] at hiff
    exact ⟨before, claim, between, item, hmoments, hid, hclaim, hsince, hiff⟩

/-! ### Runs on fixed inputs -/

/-- Two workers, `a` and `b`, on one directory. -/
def pair (settings : WorkerSettings) (k : Bool) : Worker where
  name := if k then "b" else "a"
  dir := "uploads"
  settings := settings

theorem names_pair (settings : WorkerSettings) :
    ∀ j k, (pair settings j).name = (pair settings k).name → j = k := by
  have hne : "a" ≠ "b" := by decide
  rintro (_ | _) (_ | _) h
  · rfl
  · exact absurd h hne
  · exact absurd h hne.symm
  · rfl

/-- A moment when all goes well: the backlog is reached, the artifact `x` is there, though it
cannot be read, and the engine accepts what is submitted. -/
def calm (now : Instant) (event : Event Bool) : Moment Bool where
  clock := now
  stopping := false
  folder := some [⟨[120], .folder⟩]
  reply := .ok ⟨none, "{}"⟩
  outage := none
  event := event

/-- The file `x`, with a logged hash. -/
def sighting : Observation := ⟨artifactObserved, "10.0.0.1", none, some "x", some "c0ffee"⟩

/-- A worker makes so many moves at a time. -/
def moves (n : Nat) (k : Bool) (now : Instant) : List (Moment Bool) :=
  List.replicate n (calm now (.move k))

/-- Two workers whose leases last so many seconds. -/
def leasing (seconds : Int) : Bool → Worker :=
  pair { WorkerSettings.standard with lease := .ofSeconds seconds }

/-- `a` claims the item and is slow to register its content; after the lease, `b` does all there
is to do. -/
def overtaken : List (Moment Bool) :=
  calm (Store.clock 0) (.enqueue sighting) :: moves 6 false (Store.clock 0) ++
    moves 9 true (Store.clock 61)

/-- An item that another worker has forwarded is submitted again: a registration does not ask
who holds the item. -/
theorem submission_of_forwarded :
    let f := (start .embedded Bool).afterAll (leasing 60) overtaken
    let x := calm (Store.clock 61) (.move false)
    (f.store.find? 1).any (·.isIn .forwarded) = true ∧ ¬ f.store.IsHeld 1 "a" ∧
      (∃ path name, (f.after (leasing 60) x).request? false = some (.submit path name)) ∧
      ∃ before claim between item, overtaken = before ++ claim :: between ∧ item.id = 1 ∧
        ((start .embedded Bool).afterAll (leasing 60) before).Claims claim false item ∧
        ¬ (((start .embedded Bool).afterAll (leasing 60) before).after (leasing 60) claim).Along
          (leasing 60) (fun f x => ∀ j, j ≠ false → ¬ f.Takes (leasing 60) x j 1) between := by
  have hforwarded : (((start .embedded Bool).afterAll (leasing 60) overtaken).store.find? 1).any
      (·.isIn .forwarded) = true := by decide
  have hlost : ¬ ((start .embedded Bool).afterAll (leasing 60) overtaken).store.IsHeld 1 "a" := by
    rintro ⟨r, hr, hheld⟩
    rw [hr] at hforwarded
    cases Row.eq_of_isIn hforwarded (Row.isIn_of_isHeldBy hheld)
  have hrequest : ((start .embedded Bool).afterAll (leasing 60) overtaken).request? false =
      some (.registerHash 1 "c0ffee" (Store.clock 0) (some (Store.clock (-3600)))) := by rfl
  obtain ⟨hsubmit, before, claim, between, item, hrun, hid, hclaims, -, hiff⟩ :=
    submission_of_held_iff (leasing 60) (names_pair _) overtaken
      (x := calm (Store.clock 61) (.move false)) rfl hrequest (by rfl)
  exact ⟨hforwarded, hlost, hsubmit, before, claim, between, item, hrun, hid, hclaims,
    fun halong => hlost (hiff.mpr halong)⟩

end Fleet

end ArtifactRelay
