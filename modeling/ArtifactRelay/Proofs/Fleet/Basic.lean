import ArtifactRelay.Backlog.Call
import ArtifactRelay.Proofs.Backlog.Runs
import ArtifactRelay.Proofs.Fleet.Position

/-!
# ArtifactRelay.Proofs.Fleet.Basic

Any number of workers on one backlog.  A fleet is the store and, for every worker,
the rest of its program.  At each moment one worker is given the answer to what it
asks, or an observation or a report comes in from outside; a worker whose cycle is
over begins the next one.  A run is a list of moments in any order, and each moment
brings its own clock, directory and engine with it.

`exists_steps` is what proofs about runs rest on: the workers of a fleet stay at
positions of their cycles, and a moment changes the store and one position in one of
the ways that `Steps` lists.
-/

namespace ArtifactRelay

open Backlog Time Worker

/-! ## The world of a moment -/

/-- What surrounds the workers at a moment. -/
structure World where
  clock : Instant
  stopping : Bool
  folder : Option Artifact.Folder
  reply : Except Engine.Fault Engine.Acknowledgment
  /-- Why the backlog cannot be reached, if it cannot. -/
  outage : Option Error

namespace World

variable {m : Medium}

/-- What an operation on the backlog answers and leaves; nothing happens in an outage. -/
def reach {α : Type} (x : World) (s : Store m) (result : Except Error α × Store m) :
    Except Error α × Store m :=
  match x.outage with
  | some e => (.error e, s)
  | none => result

/-- What a request answers and leaves. -/
def answer (x : World) : (r : Request) → Store m → r.Answer × Store m
  | .now, s => (x.clock, s)
  | .isStopping, s => (x.stopping, s)
  | .claim worker now lease, s => x.reach s (s.claimNext worker now lease)
  | .folder _, s => (x.folder, s)
  | .registerHash id hash now since, s => x.reach s (s.registerHash id hash now since)
  | .submit _ _, s => (x.reply, s)
  | .record id worker outcome retryAfter, s =>
    x.reach s (s.record id worker outcome retryAfter x.clock)

theorem reach_cases {α : Type} (x : World) (s : Store m) (result : Except Error α × Store m) :
    x.reach s result = result ∨ ∃ e, x.reach s result = (.error e, s) := by
  unfold reach
  cases x.outage with
  | none => exact .inl rfl
  | some e => exact .inr ⟨e, rfl⟩

/-- What is answered was asked of the backlog. -/
theorem reach_of_isOk {α : Type} {x : World} {s : Store m} {result : Except Error α × Store m}
    (h : (x.reach s result).1.isOk = true) : x.reach s result = result := by
  rcases x.reach_cases s result with hreach | ⟨e, hreach⟩
  · exact hreach
  · rw [hreach] at h
    cases h

theorem reach_of_fst_eq_ok {α : Type} {x : World} {s : Store m} {result : Except Error α × Store m}
    {a : α} (h : (x.reach s result).1 = .ok a) : x.reach s result = result :=
  reach_of_isOk (by rw [h]; rfl)

/-- The call on the backlog that a request makes. -/
def call? (x : World) : Request → Option Call
  | .claim worker now lease => some (.claim worker now lease)
  | .registerHash id hash now since => some (.registerHash id hash now since)
  | .record id worker outcome retryAfter => some (.record id worker outcome retryAfter x.clock)
  | _ => none

/-- A request changes the store by its call, if at all. -/
theorem answer_store (x : World) (r : Request) (s : Store m) :
    (x.answer r s).2 = s ∨ ∃ c, x.call? r = some c ∧ (x.answer r s).2 = s.after c := by
  have hreach : ∀ {α : Type} (result : Except Error α × Store m) (c : Call),
      result.2 = s.after c →
        (x.reach s result).2 = s ∨ (x.reach s result).2 = s.after c := by
    intro α result c hc
    rcases x.reach_cases s result with h | ⟨e, h⟩
    · exact .inr (by rw [h, hc])
    · exact .inl (by rw [h])
  cases r with
  | claim worker now lease =>
    rcases hreach _ (.claim worker now lease) rfl with h | h
    · exact .inl h
    · exact .inr ⟨_, rfl, h⟩
  | registerHash id hash now since =>
    rcases hreach _ (.registerHash id hash now since) rfl with h | h
    · exact .inl h
    · exact .inr ⟨_, rfl, h⟩
  | record id worker outcome retryAfter =>
    rcases hreach _ (.record id worker outcome retryAfter x.clock) rfl with h | h
    · exact .inl h
    · exact .inr ⟨_, rfl, h⟩
  | _ => exact .inl rfl

end World

/-! ## Fleets -/

/-- What happens at a moment. -/
inductive Event (ι : Type)
  | move (k : ι)
  | enqueue (o : Observation)
  | report (a : AnalysisRecord)

/-- A moment of a run. -/
structure Moment (ι : Type) extends World where
  event : Event ι

/-- Workers on one backlog. -/
structure Fleet (m : Medium) (ι : Type) where
  store : Store m
  program : ι → Program (Except Error Nat)

namespace Fleet

variable {m : Medium} {ι : Type} [DecidableEq ι]

/-- A family with one of its members replaced. -/
def update {α : Type} (f : ι → α) (k : ι) (a : α) : ι → α := fun j => if j = k then a else f j

@[simp] theorem update_self {α : Type} (f : ι → α) (k : ι) (a : α) : update f k a k = a := by
  simp [update]

theorem update_of_ne {α : Type} (f : ι → α) {j k : ι} (a : α) (h : j ≠ k) :
    update f k a j = f j := by
  simp [update, h]

/-- What a worker asks next. -/
def request? (f : Fleet m ι) (k : ι) : Option Request := (f.program k).request?

/-- Workers that have not begun, on an empty backlog. -/
def start (m : Medium) (ι : Type) : Fleet m ι := ⟨.empty m, fun _ => .done (.ok 0)⟩

variable (crew : ι → Worker)

/-- The fleet after a moment. -/
def after (f : Fleet m ι) (x : Moment ι) : Fleet m ι :=
  match x.event with
  | .move k =>
    match f.program k with
    | .done _ => ⟨f.store, update f.program k (crew k).cycle⟩
    | .ask r next =>
      ⟨(x.answer r f.store).2, update f.program k (next (x.answer r f.store).1)⟩
  | .enqueue o => ⟨(f.store.enqueue o x.clock).2, f.program⟩
  | .report a => ⟨(f.store.report a).2, f.program⟩

theorem after_done {f : Fleet m ι} {x : Moment ι} {k : ι} {result : Except Error Nat}
    (hevent : x.event = .move k) (h : f.program k = .done result) :
    f.after crew x = ⟨f.store, update f.program k (crew k).cycle⟩ := by
  unfold after
  simp only [hevent, h]

theorem after_ask {f : Fleet m ι} {x : Moment ι} {k : ι} {r : Request}
    {next : r.Answer → Program (Except Error Nat)} (hevent : x.event = .move k)
    (h : f.program k = .ask r next) :
    f.after crew x =
      ⟨(x.answer r f.store).2, update f.program k (next (x.answer r f.store).1)⟩ := by
  unfold after
  simp only [hevent, h]

/-- A worker that does not move goes on asking what it asked. -/
theorem request?_after_of_ne {f : Fleet m ι} {x : Moment ι} {k : ι} (h : x.event ≠ .move k) :
    (f.after crew x).request? k = f.request? k := by
  unfold request? after
  split
  · rename_i j hevent
    have hne : k ≠ j := fun hk => h (hk ▸ hevent)
    split
    · exact congrArg Program.request? (update_of_ne f.program _ hne)
    · exact congrArg Program.request? (update_of_ne f.program _ hne)
  · rfl
  · rfl

/-- The fleet after moments, one after the other. -/
def afterAll (f : Fleet m ι) (moments : List (Moment ι)) : Fleet m ι :=
  moments.foldl (after crew) f

@[simp] theorem afterAll_nil (f : Fleet m ι) : f.afterAll crew [] = f := rfl

@[simp] theorem afterAll_cons (f : Fleet m ι) (x : Moment ι) (moments : List (Moment ι)) :
    f.afterAll crew (x :: moments) = (f.after crew x).afterAll crew moments := rfl

theorem afterAll_append (f : Fleet m ι) (first second : List (Moment ι)) :
    f.afterAll crew (first ++ second) = (f.afterAll crew first).afterAll crew second :=
  List.foldl_append ..

theorem afterAll_snoc (f : Fleet m ι) (moments : List (Moment ι)) (x : Moment ι) :
    f.afterAll crew (moments ++ [x]) = (f.afterAll crew moments).after crew x :=
  List.foldl_append ..

theorem request?_afterAll_of_ne {f : Fleet m ι} {moments : List (Moment ι)} {k : ι}
    (h : ∀ x ∈ moments, x.event ≠ .move k) :
    (f.afterAll crew moments).request? k = f.request? k := by
  induction moments generalizing f with
  | nil => rfl
  | cons x moments ih =>
    rw [afterAll_cons, ih fun y hy => h y (List.mem_cons_of_mem x hy),
      request?_after_of_ne crew (h x List.mem_cons_self)]

/-- Something holds of every moment of a run and of the fleet that it finds. -/
def Along (p : Fleet m ι → Moment ι → Prop) : Fleet m ι → List (Moment ι) → Prop
  | _, [] => True
  | f, x :: moments => p f x ∧ Along p (f.after crew x) moments

instance decidableAlong {p : Fleet m ι → Moment ι → Prop} [∀ f x, Decidable (p f x)] :
    ∀ (f : Fleet m ι) (moments : List (Moment ι)), Decidable (f.Along crew p moments)
  | _, [] => .isTrue trivial
  | f, x :: moments => @instDecidableAnd _ _ _ (decidableAlong (f.after crew x) moments)

theorem along_append {p : Fleet m ι → Moment ι → Prop} {f : Fleet m ι}
    {first second : List (Moment ι)} :
    f.Along crew p (first ++ second) ↔
      f.Along crew p first ∧ (f.afterAll crew first).Along crew p second := by
  induction first generalizing f with
  | nil => simp [Along]
  | cons x first ih =>
    rw [List.cons_append]
    simp only [Along, afterAll_cons, ih, and_assoc]

theorem along_snoc {p : Fleet m ι → Moment ι → Prop} {f : Fleet m ι}
    {moments : List (Moment ι)} {x : Moment ι} :
    f.Along crew p (moments ++ [x]) ↔
      f.Along crew p moments ∧ p (f.afterAll crew moments) x := by
  rw [along_append]
  simp only [Along, and_true]

/-! ## Moments as steps from position to position -/

/-- Every worker is at a position. -/
def IsAt (f : Fleet m ι) (pos : ι → Position) : Prop :=
  ∀ k, f.program k = (pos k).program (crew k)

/-- What a moment does to the store and the positions. -/
inductive Steps (x : Moment ι) (s : Store m) (pos : ι → Position) :
    Store m → (ι → Position) → Prop
  | begin {k : ι} {result : Except Error Nat} (hevent : x.event = .move k)
      (hpos : pos k = .finished result) :
    Steps x s pos s (update pos k (.start (crew k).settings.batch 0))
  | move {k : ι} {r : Request} {q : Position} (hevent : x.event = .move k)
      (hmoves : (crew k).Moves (pos k) r (x.answer r s).1 q) :
    Steps x s pos (x.answer r s).2 (update pos k q)
  | enqueue {o : Observation} (hevent : x.event = .enqueue o) :
    Steps x s pos (s.enqueue o x.clock).2 pos
  | report {a : AnalysisRecord} (hevent : x.event = .report a) :
    Steps x s pos (s.report a).2 pos

omit [DecidableEq ι] in
theorem isAt_start : (start m ι).IsAt crew fun _ => .finished (.ok 0) := fun _ => rfl

theorem isAt_update {f : Fleet m ι} {pos : ι → Position} (h : f.IsAt crew pos) (k : ι)
    {q : Position} {p : Program (Except Error Nat)} (hp : p = q.program (crew k)) (s : Store m) :
    (⟨s, update f.program k p⟩ : Fleet m ι).IsAt crew (update pos k q) := by
  intro j
  show update f.program k p j = (update pos k q j).program (crew j)
  by_cases hj : j = k
  · subst hj
    rw [update_self, update_self, hp]
  · rw [update_of_ne _ _ hj, update_of_ne _ _ hj, h j]

/-- Workers go from position to position. -/
theorem exists_steps {f : Fleet m ι} {pos : ι → Position} (h : f.IsAt crew pos)
    (x : Moment ι) :
    ∃ pos', (f.after crew x).IsAt crew pos' ∧
      Steps crew x f.store pos (f.after crew x).store pos' := by
  cases hevent : x.event with
  | enqueue o =>
    unfold after
    rw [hevent]
    exact ⟨pos, h, .enqueue hevent⟩
  | report a =>
    unfold after
    rw [hevent]
    exact ⟨pos, h, .report hevent⟩
  | move k =>
    rcases (crew k).exists_moves (pos k) with ⟨result, hpos⟩ | ⟨r, next, hprogram, hnext⟩
    · have hdone : f.program k = .done result := by rw [h k, hpos]; rfl
      rw [after_done crew hevent hdone]
      exact ⟨_, isAt_update crew h k (Position.program_start ..).symm _, .begin hevent hpos⟩
    · have hask : f.program k = .ask r next := by rw [h k, hprogram]
      obtain ⟨q, hq, hmoves⟩ := hnext (x.answer r f.store).1
      rw [after_ask crew hevent hask]
      exact ⟨_, isAt_update crew h k hq _, .move hevent hmoves⟩

omit [DecidableEq ι] in
theorem request?_of_isAt {f : Fleet m ι} {pos : ι → Position} (h : f.IsAt crew pos) (k : ι) :
    f.request? k = (pos k).request? (crew k) := by
  rw [request?, h k, Position.request?_program]

/-- A moment changes the store by one call at most. -/
theorem Steps.store {x : Moment ι} {s s' : Store m} {pos pos' : ι → Position}
    (h : Steps crew x s pos s' pos') : s' = s ∨ ∃ c, s' = s.after c := by
  cases h with
  | begin => exact .inl rfl
  | @move k r q hevent hmoves =>
    rcases x.answer_store r s with h | ⟨c, -, h⟩
    · exact .inl h
    · exact .inr ⟨c, h⟩
  | @enqueue o hevent => exact .inr ⟨.enqueue o x.clock, rfl⟩
  | @report a hevent => exact .inr ⟨.report a, rfl⟩

theorem Steps.isNumbered {x : Moment ι} {s s' : Store m} {pos pos' : ι → Position}
    (h : Steps crew x s pos s' pos') (hs : s.IsNumbered) : s'.IsNumbered := by
  rcases h.store with rfl | ⟨c, rfl⟩
  · exact hs
  · exact Store.isNumbered_after hs c

theorem Steps.isCounted {x : Moment ι} {s s' : Store m} {pos pos' : ι → Position}
    (h : Steps crew x s pos s' pos') (hs : s.IsNumbered) (hcounted : s.IsCounted) :
    s'.IsCounted := by
  rcases h.store with rfl | ⟨c, rfl⟩
  · exact hcounted
  · exact Store.isCounted_after hs hcounted c

/-- The move of a worker that asks something. -/
theorem Steps.move_of_request {x : Moment ι} {s s' : Store m} {pos pos' : ι → Position}
    (h : Steps crew x s pos s' pos') {k : ι} (hevent : x.event = .move k) {r : Request}
    (hrequest : (pos k).request? (crew k) = some r) :
    ∃ q, (crew k).Moves (pos k) r (x.answer r s).1 q ∧ s' = (x.answer r s).2 ∧
      pos' = update pos k q := by
  cases h with
  | begin hevent' hpos =>
    cases hevent.symm.trans hevent'
    rw [hpos] at hrequest
    cases hrequest
  | move hevent' hmoves =>
    cases hevent.symm.trans hevent'
    cases hmoves.request?.symm.trans hrequest
    exact ⟨_, hmoves, rfl, rfl⟩
  | enqueue hevent' => cases hevent.symm.trans hevent'
  | report hevent' => cases hevent.symm.trans hevent'

/-- A moment moves one worker at most. -/
theorem Steps.pos_eq {x : Moment ι} {s s' : Store m} {pos pos' : ι → Position}
    (h : Steps crew x s pos s' pos') {k : ι} (hevent : x.event ≠ .move k) : pos' k = pos k := by
  cases h with
  | begin hevent' =>
    exact update_of_ne _ _ fun hk => hevent (hk ▸ hevent')
  | move hevent' =>
    exact update_of_ne _ _ fun hk => hevent (hk ▸ hevent')
  | enqueue => rfl
  | report => rfl

/-- A worker is where it was, at the start of a cycle, or one move further. -/
theorem Steps.pos_cases {x : Moment ι} {s s' : Store m} {pos pos' : ι → Position}
    (h : Steps crew x s pos s' pos') (k : ι) :
    pos' k = pos k ∨ pos' k = .start (crew k).settings.batch 0 ∨
      ∃ r, (crew k).Moves (pos k) r (x.answer r s).1 (pos' k) := by
  by_cases hevent : x.event = .move k
  · cases h with
    | begin hevent' =>
      cases hevent.symm.trans hevent'
      exact .inr (.inl (update_self ..))
    | move hevent' hmoves =>
      cases hevent.symm.trans hevent'
      rw [update_self]
      exact .inr (.inr ⟨_, hmoves⟩)
    | enqueue hevent' => cases hevent.symm.trans hevent'
    | report hevent' => cases hevent.symm.trans hevent'
  · exact .inl (h.pos_eq crew hevent)

/-- Only a claim brings a worker to an item. -/
theorem Steps.item?_eq {x : Moment ι} {s s' : Store m} {pos pos' : ι → Position}
    (h : Steps crew x s pos s' pos') {k : ι}
    (hpos : ∀ left ended now, pos k ≠ .claiming left ended now)
    {item : WorkItem} (hitem : (pos' k).item? = some item) : (pos k).item? = some item := by
  rcases h.pos_cases crew k with hsame | hstart | ⟨r, hmoves⟩
  · rwa [hsame] at hitem
  · rw [hstart, Position.item?_start] at hitem
    cases hitem
  · exact hmoves.item?_eq _ hpos hitem

/-- What a worker reads from the clock is the clock of the moment. -/
theorem Steps.instant? {x : Moment ι} {s s' : Store m} {pos pos' : ι → Position}
    (h : Steps crew x s pos s' pos') {k : ι} {now : Instant}
    (hnow : (pos' k).instant? = some now) : (pos k).instant? = some now ∨ now = x.clock := by
  rcases h.pos_cases crew k with hsame | hstart | ⟨r, hmoves⟩
  · exact .inl (by rwa [hsame] at hnow)
  · rw [hstart, Position.instant?_start] at hnow
    cases hnow
  · generalize hanswer : (x.answer r s).1 = answer at hmoves
    generalize pos k = p at hmoves ⊢
    generalize pos' k = q at hmoves hnow
    cases hmoves with
    | date | check =>
      cases hnow
      exact .inr hanswer.symm
    | fail | record =>
      rw [Position.instant?_afterItem] at hnow
      cases hnow
    | _ => cases hnow

/-- A worker retires an item as a duplicate after it was told so. -/
theorem Steps.registering_of_recording {x : Moment ι} {s s' : Store m} {pos pos' : ι → Position}
    (h : Steps crew x s pos s' pos') {k : ι} (hevent : x.event = .move k) {left ended : Nat}
    {item : WorkItem} {reason hash : String} {retryAfter : Option Instant}
    (hpos : pos' k = .recording left ended item (.dead reason (some hash)) retryAfter) :
    reason = (crew k).duplicateReason hash ∧ ∃ now since,
      (pos k).request? (crew k) = some (.registerHash item.id hash now since) ∧
      (x.answer (.registerHash item.id hash now since) s).1 = .ok true := by
  cases h with
  | begin hevent' =>
    cases hevent.symm.trans hevent'
    rw [update_self] at hpos
    exact (Position.start_ne_recording _ _ hpos).elim
  | @move j r q hevent' hmoves =>
    cases hevent.symm.trans hevent'
    rw [update_self] at hpos
    subst hpos
    generalize hanswer : (x.answer r s).1 = answer at hmoves
    generalize pos k = p at hmoves
    generalize hq : Position.recording left ended item _ retryAfter = q at hmoves
    cases hmoves with
    | duplicate =>
      cases hq
      exact ⟨rfl, _, _, rfl, hanswer⟩
    | fail | record => exact (Position.afterItem_ne_recording _ _ _ hq.symm).elim
    | _ => cases hq
  | enqueue hevent' => cases hevent.symm.trans hevent'
  | report hevent' => cases hevent.symm.trans hevent'

/-! ## One row through a moment -/

/-- What a moment may do to a row: one worker makes one of the three changes. -/
inductive RowSteps (x : Moment ι) (pos : ι → Position) : Row m.Stamp → Row m.Stamp → Prop
  | same (r : Row m.Stamp) : RowSteps x pos r r
  | claim {k : ι} {left ended : Nat} {now expiry : Instant} {lastly stamp : m.Stamp}
      {r : Row m.Stamp} (hevent : x.event = .move k) (hpos : pos k = .claiming left ended now)
      (hexpiry : now.add? (crew k).settings.lease = some expiry)
      (hlastly : m.stamp? expiry = some lastly) (hstamp : m.stamp? now = some stamp)
      (hname : m.keepsText (crew k).name = true) (hclaimable : r.isClaimable m stamp = true) :
    RowSteps x pos r (r.claim (crew k).name lastly stamp)
  | register {k : ι} {left ended : Nat} {item : WorkItem} {name : Artifact.Name}
      {content : Artifact.Content} {hash : String} {now : Instant} {stamp : m.Stamp}
      {r : Row m.Stamp} (hevent : x.event = .move k)
      (hpos : pos k = .registering left ended item name content hash now) (hid : item.id = r.id)
      (hstamp : m.stamp? now = some stamp) :
    RowSteps x pos r (r.register hash stamp)
  | conclude {k : ι} {left ended : Nat} {item : WorkItem} {o : Outcome}
      {retryAfter : Option Instant} {stamp : m.Stamp} {retryStamp : Option m.Stamp}
      {r : Row m.Stamp} (hevent : x.event = .move k)
      (hpos : pos k = .recording left ended item o retryAfter) (hid : item.id = r.id)
      (hheld : r.isHeldBy (crew k).name = true) (hstamp : m.stamp? x.clock = some stamp) :
    RowSteps x pos r (r.conclude o retryStamp stamp)

theorem Steps.find? {x : Moment ι} {s s' : Store m} {pos pos' : ι → Position}
    (h : Steps crew x s pos s' pos') (hs : s.IsNumbered) {id : Int} {r : Row m.Stamp}
    (hr : s.find? id = some r) :
    ∃ r', s'.find? id = some r' ∧ RowSteps crew x pos r r' := by
  cases h with
  | begin => exact ⟨r, hr, .same r⟩
  | @enqueue o hevent =>
    obtain ⟨r', hr', hchange⟩ := Store.find?_after hs (.enqueue o x.clock) hr
    cases hchange
    exact ⟨r, hr', .same r⟩
  | @report a hevent =>
    obtain ⟨r', hr', hchange⟩ := Store.find?_after hs (.report a) hr
    cases hchange
    exact ⟨r, hr', .same r⟩
  | @move k request q hevent hmoves =>
    rcases x.answer_store request s with hsame | ⟨c, hc, hafter⟩
    · rw [hsame]
      exact ⟨r, hr, .same r⟩
    · obtain ⟨r', hr', hchange⟩ := Store.find?_after hs c hr
      rw [hafter]
      refine ⟨r', hr', ?_⟩
      generalize hanswer : (x.answer request s).1 = answer at hmoves
      clear hanswer hafter
      generalize hpos : pos k = p at hmoves
      -- the call is that of the worker's position, which fixes what the row goes through
      cases hmoves with
      | claim | claimNothing =>
        cases hc
        cases hchange with
        | same => exact .same r
        | claim hexpiry hlastly hstamp hname hclaimable =>
          exact .claim hevent hpos hexpiry hlastly hstamp hname hclaimable
      | duplicate | unique =>
        cases hc
        generalize hid : WorkItem.id _ = key at hchange
        cases hchange with
        | same => exact .same r
        | register hstamp => exact .register hevent hpos hid hstamp
      | record =>
        cases hc
        generalize hid : WorkItem.id _ = key at hchange
        cases hchange with
        | same => exact .same r
        | conclude hstamp hretry hheld => exact .conclude hevent hpos hid hheld hstamp
      | _ => cases hc

/-- A row that a moment leaves was there before, or it is a fresh observation. -/
theorem Steps.exists_rowSteps {x : Moment ι} {s s' : Store m} {pos pos' : ι → Position}
    (h : Steps crew x s pos s' pos') (hs : s.IsNumbered) {id : Int} {r' : Row m.Stamp}
    (hr' : s'.find? id = some r') :
    (∃ r, s.find? id = some r ∧ RowSteps crew x pos r r') ∨
      ∃ fresh o stamp, r' = .ofObservation fresh stamp o := by
  cases hr : s.find? id with
  | some r =>
    obtain ⟨q, hq, hrow⟩ := h.find? crew hs hr
    cases hr'.symm.trans hq
    exact .inl ⟨r, rfl, hrow⟩
  | none =>
    rcases h.store with rfl | ⟨c, rfl⟩
    · rw [hr] at hr'
      cases hr'
    · obtain ⟨o, _, stamp, -, -, -, rfl⟩ := Store.find?_after_of_none hr hr'
      exact .inr ⟨_, o, stamp, rfl⟩

/-! ## Runs -/

/-- Every run is one of positions: what holds at the start, and is kept by every moment, holds
at the end. -/
theorem run_induction {P : List (Moment ι) → Fleet m ι → (ι → Position) → Prop}
    (nil : P [] (start m ι) fun _ => .finished (.ok 0))
    (snoc : ∀ moments f pos x pos', P moments f pos → f.store.IsNumbered → f.store.IsCounted →
      f.IsAt crew pos → f = (start m ι).afterAll crew moments →
      Steps crew x f.store pos (f.after crew x).store pos' →
      P (moments ++ [x]) (f.after crew x) pos')
    (moments : List (Moment ι)) :
    ∃ pos, ((start m ι).afterAll crew moments).IsAt crew pos ∧
      ((start m ι).afterAll crew moments).store.IsNumbered ∧
      ((start m ι).afterAll crew moments).store.IsCounted ∧
      P moments ((start m ι).afterAll crew moments) pos := by
  have hrun : ∀ (rest before : List (Moment ι)) (pos : ι → Position),
      ((start m ι).afterAll crew before).IsAt crew pos →
      ((start m ι).afterAll crew before).store.IsNumbered →
      ((start m ι).afterAll crew before).store.IsCounted →
      P before ((start m ι).afterAll crew before) pos →
      ∃ pos, ((start m ι).afterAll crew (before ++ rest)).IsAt crew pos ∧
        ((start m ι).afterAll crew (before ++ rest)).store.IsNumbered ∧
        ((start m ι).afterAll crew (before ++ rest)).store.IsCounted ∧
        P (before ++ rest) ((start m ι).afterAll crew (before ++ rest)) pos := by
    intro rest
    induction rest with
    | nil =>
      intro before pos hat hs hcounted hP
      rw [List.append_nil]
      exact ⟨pos, hat, hs, hcounted, hP⟩
    | cons x rest ih =>
      intro before pos hat hs hcounted hP
      obtain ⟨pos', hat', hsteps⟩ := exists_steps crew hat x
      have hnext := ih (before ++ [x]) pos'
      rw [afterAll_snoc, List.append_assoc, List.singleton_append] at hnext
      exact hnext hat' (hsteps.isNumbered crew hs) (hsteps.isCounted crew hs hcounted)
        (snoc before _ pos x pos' hP hs hcounted hat rfl hsteps)
  exact hrun moments [] _ (isAt_start crew) List.Pairwise.nil (fun _ _ h => by cases h) nil

end Fleet

end ArtifactRelay
