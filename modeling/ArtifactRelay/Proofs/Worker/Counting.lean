import ArtifactRelay.Proofs.Worker.Chronicle

/-!
# ArtifactRelay.Proofs.Worker.Counting

What a cycle that answers a number has done, whatever other workers do meanwhile.

A worker deals with one item at a time.  Between two items its books are closed: each
item that it was handed has its last outcome written (`Chronicle.IsIdle`).  While it is
at work on an item, that one is open and the others are closed, and the worker holds
the item or somebody else took it since (`Chronicle.IsAtWork`).  So the number that a
cycle answers is the number of the items that it finished, at most one more item was
claimed, and nothing that it claimed is left in its hands (`cycle_counts`).
-/

namespace ArtifactRelay

open Backlog Time Worker

/-- No outcome leaves an item claimed. -/
theorem Outcome.target_ne_claimed (o : Outcome) : o.target ≠ .claimed := by
  cases o <;> exact nofun

/-- A backoff that cannot be had is no loss. -/
theorem RetryPolicy.isLoss_of_retryAfter {p : RetryPolicy} {attempts : Nat} {now : Instant}
    {e : Error} (h : p.retryAfter attempts now = .error e) : e.isLoss = false := by
  unfold retryAfter at h
  split at h
  · cases h
  · split at h <;> cases h
    rfl

/-- What is not answered by the backlog is answered by the outage. -/
theorem World.mem_outage_or_reach {m : Medium} {α : Type} (x : World) (s : Store m)
    (result : Except Error α × Store m) :
    x.reach s result = result ∨ ∃ e ∈ x.outage, x.reach s result = (.error e, s) := by
  unfold reach
  cases x.outage with
  | none => exact .inl rfl
  | some e => exact .inr ⟨e, rfl, rfl⟩

/-- A claim that is answered without a fault is answered by the backlog. -/
theorem World.answer_claim {m : Medium} (x : World) {s : Store m} {worker : String} {now : Instant}
    {lease : Span} {item? : Option WorkItem}
    (h : (x.answer (.claim worker now lease) s).1 = .ok item?) :
    x.answer (.claim worker now lease) s = s.claimNext worker now lease :=
  x.reach_of_fst_eq_ok h

namespace Chronicle

variable {m : Medium}

/-! ## The books of a worker -/

/-- So many items are finished, and besides these the worker was handed the items `rest`. -/
structure Books (t : Chronicle m) (ended : Nat) (rest : List Int) : Prop where
  numbered : t.store.IsNumbered
  ended : t.finished.length = ended
  claimed : t.claimed.map (·.id) = t.finished.map (·.1) ++ rest
  distinct : (t.claimed.map (·.id)).Nodup
  written : ∀ x ∈ t.finished, t.store.HasStatus x.1 x.2.target
  returned : t.returned = []
  discarded : t.discarded = []

/-- The worker was handed the item, and holds it unless somebody else took it since. -/
def Keeps (t : Chronicle m) (name : String) (item : WorkItem) : Prop :=
  ∃ before claim since, t.deeds = before ++ claim :: since ∧
    (∃ e, claim.own? = some e ∧ e.claimed? = some item) ∧
    (t.store.IsHeld item.id name ∨ ∃ d ∈ since, d.IsTakeover item.id name)

/-- The worker is done with all items that it was handed. -/
structure IsIdle (t : Chronicle m) (ended : Nat) : Prop where
  books : t.Books ended []
  asks : t.asks = ended

/-- The worker is done with all items that it was handed but one. -/
structure IsAtWork (t : Chronicle m) (name : String) (ended : Nat) (item : WorkItem) : Prop where
  books : t.Books ended [item.id]
  asks : t.asks = ended + 1
  keeps : t.Keeps name item

/-- Somebody else took the item after the worker was handed it, and the outcome that the worker
had for it then is the last that happened, and changed nothing. -/
def Drops (t : Chronicle m) (name : String) (id : Int) : Prop :=
  ∃ before claim since last, t.deeds = before ++ claim :: (since ++ [last]) ∧
    (∃ e item, claim.own? = some e ∧ e.claimed? = some item ∧ item.id = id) ∧
    (∃ d ∈ since, d.IsTakeover id name) ∧
    (∃ e, last.own? = some e ∧ e.discarded? = some id) ∧ last.found = t.store

/-- What a cycle that answers `n` leaves. -/
structure Closes (t : Chronicle m) (w : Worker) (n : Nat) : Prop where
  /-- It forwarded or retired `n` items, … -/
  finished : t.finished.length = n
  /-- … which are forwarded or dead by the outcome that was written. -/
  written : ∀ x ∈ t.finished, x.2.target.isTerminal = true ∧ t.store.HasStatus x.1 x.2.target
  batch : n ≤ w.settings.batch
  /-- It asked for an item once for each of them, and maybe once more … -/
  asks : (t.asks = n ∨ t.asks = n + 1) ∧ t.asks ≤ w.settings.batch
  /-- … which it may have been handed, or not. -/
  claims : (t.claimed.length = n ∨ t.claimed.length = n + 1) ∧ t.claimed.length ≤ t.asks
  distinct : (t.claimed.map (·.id)).Nodup
  /-- All items that it was handed are finished, but for a last one that it put back or lost. -/
  claimed : t.claimed.map (·.id) = t.finished.map (·.1) ++ (t.returned ++ t.discarded)
  returned : ∀ id ∈ t.returned, t.store.HasStatus id .pending
  discarded : ∀ id ∈ t.discarded, t.Drops w.name id
  /-- It holds none of them. -/
  away : ∀ item ∈ t.claimed, t.store.IsAway item.id w.name

variable {t t' : Chronicle m} {name : String} {ended : Nat} {rest : List Int} {item : WorkItem}

/-- The books do not change with what enters nothing on them. -/
theorem Books.of_eq (h : t.Books ended rest) (hclaimed : t'.claimed = t.claimed)
    (hfinished : t'.finished = t.finished) (hreturned : t'.returned = t.returned)
    (hdiscarded : t'.discarded = t.discarded) (hnumbered : t'.store.IsNumbered)
    (hwritten : ∀ x ∈ t.finished, t'.store.HasStatus x.1 x.2.target) : t'.Books ended rest where
  numbered := hnumbered
  ended := hfinished ▸ h.ended
  claimed := by rw [hclaimed, hfinished, h.claimed]
  distinct := hclaimed ▸ h.distinct
  written := hfinished ▸ hwritten
  returned := hreturned.trans h.returned
  discarded := hdiscarded.trans h.discarded

theorem Books.drift (h : t.Books ended rest) (hdrift : t.Drifts name t') : t'.Books ended rest :=
  h.of_eq (hdrift.pick fun _ he => he.claimed) (hdrift.pick fun _ he => he.finished)
    (hdrift.pick fun _ he => he.returned) (hdrift.pick fun _ he => he.discarded)
    (hdrift.isNumbered h.numbered)
    fun x hx => hdrift.hasStatus h.numbered (isTerminal_of_mem_finished hx) (h.written x hx)

theorem asks_drift (hdrift : t.Drifts name t') : t'.asks = t.asks :=
  congrArg List.length (hdrift.pick fun _ he => he.asked)

theorem Keeps.drift (h : t.Keeps name item) (hs : t.store.IsNumbered)
    (hdrift : t.Drifts name t') : t'.Keeps name item := by
  obtain ⟨before, claim, since, hdeeds, hclaim, hheld | ⟨d, hd, htakeover⟩⟩ := h
  · obtain ⟨d, hdeeds', hd⟩ := hdrift.isHeld hs hheld
    refine ⟨before, claim, since ++ [d], ?_, hclaim, hd.imp_right fun hd => ⟨d, by simp, hd⟩⟩
    rw [hdeeds', hdeeds, List.append_assoc, List.cons_append]
  · obtain ⟨last, hdeeds'⟩ := hdrift.exists_deed
    refine ⟨before, claim, since ++ [last], ?_, hclaim, .inr ⟨d, by simp [hd], htakeover⟩⟩
    rw [hdeeds', hdeeds, List.append_assoc, List.cons_append]

theorem IsIdle.drift (h : t.IsIdle ended) (hdrift : t.Drifts name t') : t'.IsIdle ended :=
  ⟨h.books.drift hdrift, (asks_drift hdrift).trans h.asks⟩

theorem IsAtWork.drift (h : t.IsAtWork name ended item) (hdrift : t.Drifts name t') :
    t'.IsAtWork name ended item :=
  ⟨h.books.drift hdrift, (asks_drift hdrift).trans h.asks,
    h.keeps.drift h.books.numbered hdrift⟩

/-! ## The dealings of a worker -/

/-- An item that is claimed is not one that is finished. -/
theorem Books.not_mem_finished (h : t.Books ended rest) {id : Int} {r : Row m.Stamp}
    (hr : t.store.find? id = some r) {now : m.Stamp} (hclaimable : r.isClaimable m now = true) :
    id ∉ t.finished.map (·.1) := by
  intro hmem
  obtain ⟨x, hx, rfl⟩ := List.mem_map.mp hmem
  have hterminal := isTerminal_of_mem_finished hx
  obtain ⟨r', hr', hin⟩ := h.written x hx
  cases hr.symm.trans hr'
  have hstatus : x.2.target = .pending ∨ x.2.target = .claimed := by
    rcases Row.isClaimable_cases hclaimable with hpending | ⟨hclaimed, -⟩
    · exact .inl (Row.eq_of_isIn hin hpending)
    · exact .inr (Row.eq_of_isIn hin hclaimed)
  rcases hstatus with hstatus | hstatus <;> rw [hstatus] at hterminal <;> cases hterminal

theorem asks_claim {now : Instant} {lease : Span} {answer : Except Error (Option WorkItem)}
    {s : Store m} : (t.exchange ⟨.claim name now lease, answer⟩ s).asks = t.asks + 1 := by
  unfold asks
  rw [pick_exchange_some t Exchange.asked? (a := ()) rfl, List.length_append]
  rfl

/-- What is finished is finished after every call. -/
theorem Books.written_after (h : t.Books ended rest) (c : Call) :
    ∀ x ∈ t.finished, (t.store.after c).HasStatus x.1 x.2.target := fun x hx =>
  Store.hasStatus_after h.numbered c (isTerminal_of_mem_finished hx) (h.written x hx)

/-- A worker that is handed an item is at work on it. -/
theorem IsIdle.claim (h : t.IsIdle ended) {now : Instant} {lease : Span}
    (hclaim : (t.store.claimNext name now lease).1 = .ok (some item)) :
    (t.exchange ⟨.claim name now lease, .ok (some item)⟩
      (t.store.claimNext name now lease).2).IsAtWork name ended item := by
  obtain ⟨_, lastly, stamp, row, -, -, -, -, hfind, hclaimable, -, hafter⟩ :=
    Store.claimNext_some h.books.numbered hclaim
  let e : Exchange := ⟨.claim name now lease, .ok (some item)⟩
  let t' := t.exchange e (t.store.claimNext name now lease).2
  have hclaimed : t'.claimed = t.claimed ++ [item] :=
    pick_exchange_some t Exchange.claimed? rfl _
  have hfinished : t'.finished = t.finished := pick_exchange_none _ _ rfl _
  have hheld : t'.store.IsHeld item.id name := by
    refine ⟨row.claim name lastly stamp, ?_, Row.isHeldBy_claim.mpr rfl⟩
    rw [show t'.store = _ from hafter]
    exact Store.find?_modify_self (fun _ => Row.id_claim ..) hfind
  refine ⟨⟨?_, ?_, ?_, ?_, ?_, ?_, ?_⟩, ?_, t.deeds, _, [], rfl, ⟨e, rfl, rfl⟩, .inl hheld⟩
  · exact Store.isNumbered_after h.books.numbered (.claim name now lease)
  · exact hfinished ▸ h.books.ended
  · rw [hclaimed, hfinished, List.map_append, h.books.claimed, List.append_nil]
    rfl
  · rw [hclaimed, List.map_append]
    refine List.nodup_append.mpr ⟨h.books.distinct, by simp, fun id hid other hother => ?_⟩
    rintro rfl
    cases List.mem_singleton.mp hother
    rw [h.books.claimed, List.append_nil] at hid
    exact h.books.not_mem_finished hfind hclaimable hid
  · rw [hfinished]
    exact h.books.written_after (.claim name now lease)
  · exact (pick_exchange_none _ _ rfl _).trans h.books.returned
  · exact (pick_exchange_none _ _ rfl _).trans h.books.discarded
  · exact asks_claim.trans (congrArg (· + 1) h.asks)

/-- Where an outcome was written, the row is in the state of the outcome. -/
theorem hasStatus_of_record {s : Store m} {id : Int} {o : Outcome} {retryAfter : Option Instant}
    {now : Instant} {updated : WorkItem}
    (h : (s.record id name o retryAfter now).1 = .ok updated) :
    (s.record id name o retryAfter now).2.HasStatus id o.target := by
  rcases s.record_cases id name o retryAfter now with
    ⟨e, hcase⟩ | ⟨stamp, retryStamp, row, -, -, hrow, -, hcase⟩
  · rw [hcase] at h
    cases h
  · rw [hcase]
    exact ⟨_, Store.find?_modify_self (fun _ => Row.id_conclude ..) hrow,
      Row.isIn_conclude.mpr rfl⟩

/-- Once a final outcome is written, the worker is done with the item. -/
theorem IsAtWork.finish (h : t.IsAtWork name ended item) {o : Outcome}
    {retryAfter : Option Instant} {now : Instant} {updated : WorkItem}
    (hterminal : o.target.isTerminal = true)
    (hok : (t.store.record item.id name o retryAfter now).1 = .ok updated) :
    (t.exchange ⟨.record item.id name o retryAfter, .ok updated⟩
      (t.store.record item.id name o retryAfter now).2).IsIdle (ended + 1) := by
  let e : Exchange := ⟨.record item.id name o retryAfter, .ok updated⟩
  let t' := t.exchange e (t.store.record item.id name o retryAfter now).2
  have hwritten : e.written? = some (item.id, o) := rfl
  have hclaimed : t'.claimed = t.claimed := pick_exchange_none _ _ rfl _
  have hfinished : t'.finished = t.finished ++ [(item.id, o)] :=
    pick_exchange_some _ _ (Option.filter_eq_some_iff.mpr ⟨hwritten, hterminal⟩) _
  have hreturned : e.returned? = none := by simp [Exchange.returned?, hwritten, hterminal]
  refine ⟨⟨?_, ?_, ?_, ?_, ?_, ?_, ?_⟩, ?_⟩
  · exact Store.isNumbered_after h.books.numbered (.record item.id name o retryAfter now)
  · rw [hfinished, List.length_append, h.books.ended]
    rfl
  · rw [hclaimed, hfinished, h.books.claimed, List.map_append, List.append_nil]
    rfl
  · exact hclaimed ▸ h.books.distinct
  · rw [hfinished]
    intro x hx
    rcases List.mem_append.mp hx with hx | hx
    · exact h.books.written_after (.record item.id name o retryAfter now) x hx
    · cases List.mem_singleton.mp hx
      exact hasStatus_of_record hok
  · exact (pick_exchange_none _ _ hreturned _).trans h.books.returned
  · exact (pick_exchange_none _ _ rfl _).trans h.books.discarded
  · exact (congrArg List.length (pick_exchange_none t Exchange.asked? rfl _)).trans h.asks

/-! ## The end of a cycle -/

/-- Nobody holds an item whose outcome is written. -/
theorem isAway_of_written {s : Store m} (hwritten : ∀ x ∈ t.finished, s.HasStatus x.1 x.2.target)
    {id : Int} (h : id ∈ t.finished.map (·.1)) (worker : String) : s.IsAway id worker := by
  obtain ⟨x, hx, rfl⟩ := List.mem_map.mp h
  exact (hwritten x hx).isAway x.2.target_ne_claimed worker

/-- A worker that is done with all its items may end its cycle. -/
theorem Books.closes {w : Worker} (h : t.Books ended []) (hbatch : ended ≤ w.settings.batch)
    (hasks : (t.asks = ended ∨ t.asks = ended + 1) ∧ t.asks ≤ w.settings.batch) :
    t.Closes w ended where
  finished := h.ended
  written x hx := ⟨isTerminal_of_mem_finished hx, h.written x hx⟩
  batch := hbatch
  asks := hasks
  claims := by
    have hlength := congrArg List.length h.claimed
    rw [List.append_nil, List.length_map, List.length_map, h.ended] at hlength
    exact ⟨.inl hlength, by omega⟩
  distinct := h.distinct
  claimed := by rw [h.claimed, h.returned, h.discarded]; rfl
  returned := by simp [h.returned]
  discarded := by simp [h.discarded]
  away item hitem := by
    have hmem : item.id ∈ t.finished.map (·.1) := by
      rw [← List.append_nil (t.finished.map _), ← h.claimed]
      exact List.mem_map_of_mem hitem
    exact isAway_of_written h.written hmem _

/-- A worker ends its cycle when it is handed nothing. -/
theorem IsIdle.askInVain {w : Worker} (h : t.IsIdle ended) {left : Nat}
    (hbatch : ended + left < w.settings.batch) {now : Instant} {lease : Span}
    (hnothing : (t.store.claimNext w.name now lease).1 = .ok none) :
    (t.exchange ⟨.claim w.name now lease, .ok none⟩
      (t.store.claimNext w.name now lease).2).Closes w ended := by
  rw [(Store.claimNext_none hnothing).1]
  have hbooks : (t.exchange ⟨.claim w.name now lease, .ok none⟩ t.store).Books ended [] :=
    h.books.of_eq (pick_exchange_none _ _ rfl _) (pick_exchange_none _ _ rfl _)
      (pick_exchange_none _ _ rfl _) (pick_exchange_none _ _ rfl _) h.books.numbered h.books.written
  have hasks : (t.exchange ⟨.claim w.name now lease, .ok none⟩ t.store).asks = ended + 1 :=
    asks_claim.trans (congrArg (· + 1) h.asks)
  exact hbooks.closes (by omega) ⟨.inr hasks, by omega⟩

/-- A worker may end its cycle with an exchange after which the last item that it was handed is
not with it any more. -/
theorem IsAtWork.closes {w : Worker} (h : t.IsAtWork w.name ended item)
    (hbatch : ended < w.settings.batch) {e : Exchange} {s : Store m}
    (hclaimed : e.claimed? = none) (hfinished : e.finished? = none) (hasked : e.asked? = none)
    (hrest : e.returned?.toList ++ e.discarded?.toList = [item.id])
    (hwritten : ∀ x ∈ t.finished, s.HasStatus x.1 x.2.target) (haway : s.IsAway item.id w.name)
    (hreturned : ∀ id ∈ e.returned?, s.HasStatus id .pending)
    (hdiscarded : ∀ id ∈ e.discarded?, (t.exchange e s).Drops w.name id) :
    (t.exchange e s).Closes w ended := by
  have hclaimed' : (t.exchange e s).claimed = t.claimed := pick_exchange_none _ _ hclaimed _
  have hfinished' : (t.exchange e s).finished = t.finished := pick_exchange_none _ _ hfinished _
  have hreturned' : (t.exchange e s).returned = e.returned?.toList := by
    rw [returned, pick_exchange, ← returned, h.books.returned, List.nil_append]
  have hdiscarded' : (t.exchange e s).discarded = e.discarded?.toList := by
    rw [discarded, pick_exchange, ← discarded, h.books.discarded, List.nil_append]
  have hasks : (t.exchange e s).asks = ended + 1 :=
    (congrArg List.length (pick_exchange_none t Exchange.asked? hasked s)).trans h.asks
  refine ⟨hfinished' ▸ h.books.ended, ?_, Nat.le_of_lt hbatch, ⟨.inr hasks, hasks ▸ hbatch⟩, ?_,
    hclaimed' ▸ h.books.distinct, ?_, ?_, ?_, ?_⟩
  · rw [hfinished']
    exact fun x hx => ⟨isTerminal_of_mem_finished hx, hwritten x hx⟩
  · have hlength := congrArg List.length h.books.claimed
    rw [List.length_map, List.length_append, List.length_map, h.books.ended] at hlength
    rw [hclaimed', hasks]
    exact ⟨.inr hlength, Nat.le_of_eq hlength⟩
  · rw [hclaimed', hfinished', hreturned', hdiscarded', hrest]
    exact h.books.claimed
  · rw [hreturned']
    exact fun id hid => hreturned id (Option.mem_toList.mp hid)
  · rw [hdiscarded']
    exact fun id hid => hdiscarded id (Option.mem_toList.mp hid)
  · rw [hclaimed']
    intro i hi
    have hmem : i.id ∈ t.finished.map (·.1) ++ [item.id] :=
      h.books.claimed ▸ List.mem_map_of_mem hi
    rcases List.mem_append.mp hmem with hmem | hmem
    · exact isAway_of_written hwritten hmem _
    · rw [List.mem_singleton.mp hmem]
      exact haway

/-- A worker ends its cycle with an item that it put back. -/
theorem IsAtWork.giveBack {w : Worker} (h : t.IsAtWork w.name ended item)
    (hbatch : ended < w.settings.batch) {o : Outcome} {retryAfter : Option Instant} {now : Instant}
    {updated : WorkItem} (hopen : o.target.isTerminal = false)
    (hok : (t.store.record item.id w.name o retryAfter now).1 = .ok updated) :
    (t.exchange ⟨.record item.id w.name o retryAfter, .ok updated⟩
      (t.store.record item.id w.name o retryAfter now).2).Closes w ended := by
  let e : Exchange := ⟨.record item.id w.name o retryAfter, .ok updated⟩
  have hwritten : e.written? = some (item.id, o) := rfl
  have hfinished : e.finished? = none := by simp [Exchange.finished?, hwritten, hopen]
  have hreturned : e.returned? = some item.id := by simp [Exchange.returned?, hwritten, hopen]
  have hin := hasStatus_of_record hok
  refine h.closes hbatch (e := e) rfl hfinished rfl (by rw [hreturned]; rfl)
    (h.books.written_after (.record item.id w.name o retryAfter now))
    (hin.isAway o.target_ne_claimed _) (fun id hid => ?_) nofun
  cases hreturned.symm.trans hid
  cases o with
  | retry reason => exact hin
  | forwarded | dead => cases hopen

/-- A worker ends its cycle with an item that it lost. -/
theorem IsAtWork.lose (hm : m.IsBackend) {w : Worker} (h : t.IsAtWork w.name ended item)
    (hbatch : ended < w.settings.batch) {o : Outcome} {retryAfter : Option Instant} {now : Instant}
    {fault : Error} (hloss : fault.isLoss = true)
    (herror : (t.store.record item.id w.name o retryAfter now).1 = .error fault) :
    (t.exchange ⟨.record item.id w.name o retryAfter, .error fault⟩
      (t.store.record item.id w.name o retryAfter now).2).Closes w ended := by
  let e : Exchange := ⟨.record item.id w.name o retryAfter, .error fault⟩
  obtain ⟨hsame, haway⟩ := Store.isAway_of_loss hm herror hloss
  have hdiscarded : e.discarded? = some item.id := if_pos hloss
  rw [hsame]
  refine h.closes hbatch (e := e) rfl rfl rfl (by rw [hdiscarded]; rfl) h.books.written haway nofun
    fun id hid => ?_
  cases hdiscarded.symm.trans hid
  obtain ⟨before, claim, since, hdeeds, ⟨c, hc, hclaim⟩, hheld | htakeover⟩ := h.keeps
  · obtain ⟨r, hr, hheld⟩ := hheld
    obtain ⟨r', hr', hnot⟩ := haway
    cases hr.symm.trans hr'
    rw [hheld] at hnot
    cases hnot
  · refine ⟨before, claim, since, ⟨t.store, .own e⟩, ?_, ⟨c, item, hc, hclaim, rfl⟩, htakeover,
      ⟨e, rfl, hdiscarded⟩, rfl⟩
    rw [exchange, hdeeds, List.append_assoc, List.cons_append]

end Chronicle

/-! ## Positions of a cycle -/

namespace Worker

/-- What a record says of a loss counts as a retry. -/
theorem ofRecord_error (e : Error) :
    ofRecord (.error e) = if e.isLoss then .ok (.retry "lease lost") else .error e := by
  cases e <;> rfl

variable {m : Medium} {w : Worker} {t t' : Chronicle m}

/-- What is on the books at a position of a cycle. -/
def Position.Counts (w : Worker) (t : Chronicle m) : Position → Prop
  | finished (.error _) => True
  | finished (.ok n) => t.Closes w n
  | starting left ended | dating left ended | claiming left ended _ =>
    ended + left < w.settings.batch ∧ t.IsIdle ended
  | looking left ended item | checking left ended item .. | registering left ended item ..
  | submitting left ended item .. | deferring left ended item _ | recording left ended item .. =>
    ended + left < w.settings.batch ∧ t.IsAtWork w.name ended item

namespace Position

theorem counts_start {left ended : Nat} (hbatch : ended + left ≤ w.settings.batch)
    (h : t.IsIdle ended) : (start left ended).Counts w t := by
  cases left with
  | zero => exact h.books.closes hbatch ⟨.inl h.asks, h.asks ▸ hbatch⟩
  | succ less => exact ⟨hbatch, h⟩

/-- What is on the books of a worker does not change with what happens around it. -/
theorem Counts.drift {p : Position} {r : Request} (hp : p.request? w = some r)
    (h : p.Counts w t) (hdrift : t.Drifts w.name t') : p.Counts w t' := by
  cases p with
  | finished => cases hp
  | _ => exact ⟨h.1, h.2.drift hdrift⟩

theorem Counts.overhear {p : Position} {r : Request} (hp : p.request? w = some r)
    {calls : List Call} (hcalls : ∀ c ∈ calls, c.worker? ≠ some w.name) (h : p.Counts w t) :
    p.Counts w (calls.foldl Chronicle.overhear t) := by
  induction calls generalizing t with
  | nil => exact h
  | cons c calls ih =>
    exact ih (fun d hd => hcalls d (List.mem_cons_of_mem c hd))
      (h.drift hp (.other (hcalls c List.mem_cons_self)))

/-- Recording an outcome ends the item, the cycle, or both. -/
theorem Counts.record (hm : m.IsBackend) {x : World} (hx : ∀ e ∈ x.outage, e.isLoss = false)
    {left ended : Nat} {item : WorkItem} {o : Outcome} {retryAfter : Option Instant}
    (h : (recording left ended item o retryAfter).Counts w t) {answer : Except Error WorkItem}
    (hanswer : (x.answer (.record item.id w.name o retryAfter) t.store).1 = answer) :
    (afterItem left ended (ofRecord (answer.map fun updated => (o, updated)))).Counts w
      (t.exchange ⟨.record item.id w.name o retryAfter, answer⟩
        (x.answer (.record item.id w.name o retryAfter) t.store).2) := by
  obtain ⟨hbatch, hwork⟩ := h
  have hless : ended < w.settings.batch := by omega
  change (x.reach t.store (t.store.record item.id w.name o retryAfter x.clock)).1 = _ at hanswer
  show Position.Counts w (t.exchange _ (x.reach t.store _).2) _
  rcases x.mem_outage_or_reach t.store (t.store.record item.id w.name o retryAfter x.clock) with
    hreach | ⟨e, he, hreach⟩
  · rw [hreach] at hanswer ⊢
    cases answer with
    | ok updated =>
      show (afterItem left ended (.ok o)).Counts w _
      unfold afterItem
      dsimp only
      split
      · rename_i hterminal
        exact counts_start (by omega) (hwork.finish hterminal hanswer)
      · rename_i hopen
        exact hwork.giveBack hless (Bool.eq_false_iff.mpr hopen) hanswer
    | error e =>
      show (afterItem left ended (ofRecord (.error e))).Counts w _
      rw [ofRecord_error]
      split
      · rename_i hloss
        exact hwork.lose hm hless hloss hanswer
      · trivial
  · rw [hreach] at hanswer
    subst hanswer
    show (afterItem left ended (ofRecord (.error e))).Counts w _
    rw [ofRecord_error, hx e he]
    trivial

/-- Every exchange of a worker is entered on the books. -/
theorem Counts.exchange (hm : m.IsBackend) {x : World} (hx : ∀ e ∈ x.outage, e.isLoss = false)
    {p q : Position} {r : Request} (h : p.Counts w t)
    (hmoves : w.Moves p r (x.answer r t.store).1 q) :
    q.Counts w (t.exchange ⟨r, (x.answer r t.store).1⟩ (x.answer r t.store).2) := by
  have hdrift : r.isQuiet = true → _ := Chronicle.Drifts.of_answer w.name t x
  generalize hanswer : (x.answer r t.store).1 = answer at hmoves hdrift ⊢
  cases hmoves with
  | stop =>
    have hidle := h.2.drift (hdrift rfl)
    have hle : _ ≤ w.settings.batch := Nat.le_of_lt (Nat.lt_of_le_of_lt (Nat.le_add_right ..) h.1)
    exact hidle.books.closes hle ⟨.inl hidle.asks, hidle.asks ▸ hle⟩
  | @claimNothing left ended now answer result hnothing hresult =>
    subst hresult
    cases answer with
    | error e => trivial
    | ok claimed =>
      cases claimed with
      | some item => exact absurd rfl (hnothing item)
      | none =>
        have hclaim := x.answer_claim hanswer
        rw [hclaim] at hanswer ⊢
        exact h.2.askInVain h.1 hanswer
  | @claim left ended now item =>
    have hclaim := x.answer_claim hanswer
    rw [hclaim] at hanswer ⊢
    exact ⟨h.1, h.2.claim hanswer⟩
  | @fail left ended item reason now e hbackoff =>
    show (afterItem left ended (ofRecord (.error e))).Counts w _
    rw [ofRecord_error, RetryPolicy.isLoss_of_retryAfter hbackoff]
    trivial
  | record => exact Counts.record hm hx h hanswer
  | _ => exact ⟨h.1, h.2.drift (hdrift rfl)⟩

end Position

/-- What a cycle did that answers a number, whatever is answered to it and whatever others do
between its requests.  The number is that of the items that it forwarded or retired.  It claimed
these and at most one more, which it put back or lost to another worker; and nothing that it
claimed is with it any more, then or after further calls of others. -/
theorem cycle_counts (hm : m.IsBackend) {s : Store m} (hs : s.IsNumbered)
    {around : Nat → Interlude} (haround : ∀ k, (around k).IsApart w.name) {n : Nat}
    (h : (w.cycle.run (Chronicle.answer around) ⟨s, []⟩).1 = .ok n) :
    let left := (w.cycle.run (Chronicle.answer around) ⟨s, []⟩).2
    left.Closes w n ∧
      ∀ later : List Call, (∀ c ∈ later, c.worker? ≠ some w.name) →
        ∀ item ∈ left.claimed, (left.store.afterAll later).IsAway item.id w.name := by
  intro left
  have hstart : (⟨s, []⟩ : Chronicle m).IsIdle 0 :=
    ⟨⟨hs, rfl, rfl, List.nodup_nil, nofun, rfl, rfl⟩, rfl⟩
  have hkept : (Position.finished (.ok n)).Counts w left ∧ left.store.IsNumbered := by
    unfold left
    rw [← h, cycle, ← Position.program_start]
    refine w.run_of_moves (P := fun (p : Position) (t : Chronicle m) =>
      p.Counts w t ∧ t.store.IsNumbered) (fun p t r q hp hmoves => ?_)
      ⟨Position.counts_start (Nat.le_of_eq (Nat.zero_add _)) hstart, hs⟩
    have hx := haround t.exchanges.length
    obtain ⟨hcounts, hnumbered⟩ := hp
    refine ⟨?_, Chronicle.isNumbered_answer hnumbered around r⟩
    exact (hcounts.overhear hmoves.request? hx.calls).exchange hm hx.outage hmoves
  exact ⟨hkept.1, fun later hlater item hitem =>
    Store.isAway_afterAll_others hlater hkept.2 (hkept.1.away item hitem)⟩

/-! ### A run on fixed inputs -/

/-- All goes well but for the last record: before that, `b` claims what it finds after the lease. -/
def overtaking (k : Nat) : Interlude where
  toWorld := (Fleet.calm (Store.clock 0) (.move false)).toWorld
  calls := if k = 14 then [.claim "b" (Store.clock 61) (.ofSeconds 60)] else []

/-- Of two items, `a` forwards the first one.  The second one is a copy, but when `a` has found
that out, the item is with `b`. -/
theorem cycle_counts_overtaken :
    let s := (Store.empty .embedded).afterAll
      [.enqueue Fleet.sighting (Store.clock 0), .enqueue Fleet.sighting (Store.clock 0)]
    let left := ((Fleet.leasing 60 false).cycle.run (Chronicle.answer overtaking) ⟨s, []⟩).2
    left.Closes (Fleet.leasing 60 false) 1 ∧ left.finished.map (·.1) = [1] ∧
      left.discarded = [2] := by
  intro s left
  have hapart : ∀ k, (overtaking k).IsApart (Fleet.leasing 60 false).name := by
    refine fun k => ⟨fun c hc => ?_, nofun⟩
    unfold overtaking at hc
    dsimp only at hc
    split at hc
    · cases List.mem_singleton.mp hc
      decide
    · cases hc
  have hanswer : ((Fleet.leasing 60 false).cycle.run (Chronicle.answer overtaking)
      ⟨s, []⟩).1.toOption = some 1 := by decide +kernel
  have hrun : ((Fleet.leasing 60 false).cycle.run (Chronicle.answer overtaking) ⟨s, []⟩).1 =
      .ok 1 := by
    generalize (Program.run _ _ _).1 = result at hanswer ⊢
    cases result with
    | error e => cases hanswer
    | ok n => exact congrArg Except.ok (Option.some.inj hanswer)
  obtain ⟨hcloses, -⟩ :=
    cycle_counts (.inl rfl) (Store.isNumbered_of_isReachable ⟨_, rfl⟩) hapart hrun
  exact ⟨hcloses, by decide +kernel, by decide +kernel⟩

end Worker

end ArtifactRelay
