import ArtifactRelay.Proofs.Backlog.Consistency
import ArtifactRelay.Proofs.Backlog.Matching

/-!
# ArtifactRelay.Proofs.Backlog.Agreement

Both media answer alike.  Whatever is asked of a file and of a server, one after the
other from the empty backlog on, matching stores answer it alike (`Matches.after`), and
so do whole runs (`Matches.replies`), as long as there are numbers for new items and
counts for new claims.  The counts of the rows are those of `Store.takings`, so the
bound on the claims of a run is a bound on what the rows hold.
-/

namespace ArtifactRelay

open Text Time

namespace Backlog

/-! ## What is asked of a store -/

namespace Call

/-- The texts of a call. -/
def texts : Call → List String
  | enqueue o _ => o.texts
  | claim worker _ _ => [worker]
  | registerHash _ hash _ _ => [hash]
  | record _ worker o _ _ => worker :: o.texts
  | report a => [a.contentHash]

/-- Both media keep the instants of a call alike, and no text of it has a zero character. -/
def IsPlain (c : Call) : Prop :=
  (∀ t ∈ c.instants, t.IsPlain) ∧ ∀ text ∈ c.texts, '\x00' ∉ text.toList

instance (c : Call) : Decidable c.IsPlain := inferInstanceAs (Decidable (_ ∧ _))

theorem IsPlain.keepsText {c : Call} (h : c.IsPlain) :
    ∀ text ∈ c.texts, Medium.server.keepsText text = true := by
  intro text htext
  have hzero := h.2 text htext
  simp only [List.all_eq_true, decide_eq_true_eq]
  exact fun ch hch heq => hzero (heq ▸ hch)

end Call

/-- What may be asked of a store: a call, or items. -/
inductive Action
  | call (c : Call)
  | get (id : Int)
  | list (status : Option Status) (limit : Int)

namespace Action

/-- The call, if it is one. -/
def call? : Action → Option Call
  | call c => some c
  | _ => none

/-- A plain call, or a question that both media answer: a list is limited by a number that is not
negative. -/
def IsPlain : Action → Prop
  | call c => c.IsPlain
  | get _ => True
  | list _ limit => 0 ≤ limit

instance : (a : Action) → Decidable a.IsPlain
  | call c => inferInstanceAs (Decidable c.IsPlain)
  | get _ => inferInstanceAs (Decidable True)
  | list _ limit => inferInstanceAs (Decidable (0 ≤ limit))

end Action

/-- What a store answers. -/
inductive Reply
  | item (answer : Except Error WorkItem)
  | claimed (answer : Except Error (Option WorkItem))
  | duplicate (answer : Except Error Bool)
  | items (answer : Except Error (List WorkItem))
  | done (answer : Except Error Unit)

namespace Store

section

variable {m : Medium}

/-- The answer to a call. -/
def answer (s : Store m) : Call → Reply
  | .enqueue o now => .item (s.enqueue o now).1
  | .claim worker now lease => .claimed (s.claimNext worker now lease).1
  | .registerHash id hash now since => .duplicate (s.registerHash id hash now since).1
  | .record id worker o retryAfter now => .item (s.record id worker o retryAfter now).1
  | .report a => .done (s.report a).1

/-- The answer to what is asked. -/
def reply (s : Store m) : Action → Reply
  | .call c => s.answer c
  | .get id => .item (s.get id)
  | .list status limit => .items (s.list status limit)

/-- The store after what is asked; items are read without a change. -/
def next (s : Store m) : Action → Store m
  | .call c => s.after c
  | _ => s

/-- The answers to what is asked, one after the other. -/
def replies : Store m → List Action → List Reply
  | _, [] => []
  | s, a :: actions => s.reply a :: (s.next a).replies actions

end

/-! ### Runs -/

/-- Matching stores answer a plain call alike, if there is a number for a new item and a claim is
not one too many. -/
theorem Matches.after {s : Store .embedded} {u : Store .server} (h : s.Matches u)
    (hs : s.IsNumbered) {c : Call} (hplain : c.IsPlain)
    (hnext : c.isEnqueue = true → s.nextId ≤ maxSigned64)
    (hcount : ∀ id r, s.find? id = some r → s.IsTakenBy id c →
      ∀ n : Nat, r.attempts = .counted n → n + 1 < claimLimit) :
    s.answer c = u.answer c ∧ (s.after c).Matches (u.after c) := by
  have htexts := hplain.keepsText
  have hinstants := hplain.1
  cases c with
  | enqueue o now =>
    have hnow : now.IsPlain := hinstants now (by simp [Call.instants])
    obtain ⟨hanswer, hafter⟩ := h.enqueue hnow htexts (hnext rfl)
    exact ⟨congrArg Reply.item hanswer, hafter⟩
  | claim worker now lease =>
    have hexpiry : ∀ t ∈ now.add? lease, t.IsPlain := fun t ht =>
      hinstants t (by simp [Call.instants, Option.mem_def.mp ht])
    obtain ⟨hanswer, hafter⟩ := h.claimNext hs (hinstants now (by simp [Call.instants])) hexpiry
      (htexts worker (by simp [Call.texts])) hcount
    exact ⟨congrArg Reply.claimed hanswer, hafter⟩
  | registerHash id hash now since =>
    have hsince : ∀ t ∈ since, t.IsPlain := fun t ht =>
      hinstants t (by simp [Call.instants, Option.mem_def.mp ht])
    obtain ⟨hanswer, hafter⟩ := h.registerHash id (hinstants now (by simp [Call.instants])) hsince
      (htexts hash (by simp [Call.texts]))
    exact ⟨congrArg Reply.duplicate hanswer, hafter⟩
  | record id worker o retryAfter now =>
    have hretry : ∀ t ∈ retryAfter, t.IsPlain := fun t ht =>
      hinstants t (by simp [Call.instants, Option.mem_def.mp ht])
    have houtcome : ∀ text ∈ o.texts, Medium.server.keepsText text = true := fun text ht =>
      htexts text (List.mem_cons_of_mem _ ht)
    obtain ⟨hanswer, hafter⟩ := h.record id (hinstants now (by simp [Call.instants])) hretry
      (htexts worker (by simp [Call.texts])) houtcome
    exact ⟨congrArg Reply.item hanswer, hafter⟩
  | report a =>
    obtain ⟨hanswer, hafter⟩ := h.report (hinstants a.reportedAt (by simp [Call.instants]))
      (htexts a.contentHash (by simp [Call.texts]))
    exact ⟨congrArg Reply.done hanswer, hafter⟩

open Classical in
/-- Matching stores answer alike along a run. -/
theorem Matches.replies {s : Store .embedded} {u : Store .server} (h : s.Matches u)
    (hs : s.IsNumbered) {claims : Int → Nat} (hclaims : s.IsConsistent claims)
    {actions : List Action} (hplain : ∀ a ∈ actions, a.IsPlain)
    (hcount : ∀ id, claims id + s.takings id (actions.filterMap Action.call?) < claimLimit)
    (hnext : s.nextId + (actions.filterMap Action.call?).countP Call.isEnqueue ≤ maxSigned64 + 1) :
    s.replies actions = u.replies actions := by
  induction actions generalizing s u claims with
  | nil => rfl
  | cons a actions ih =>
    have hfirst := hplain a List.mem_cons_self
    have hrest : ∀ b ∈ actions, b.IsPlain := fun b hb => hplain b (List.mem_cons_of_mem _ hb)
    rw [Store.replies, Store.replies]
    cases a with
    | get id =>
      have hreply : s.reply (.get id) = u.reply (.get id) := congrArg Reply.item (h.get id)
      rw [hreply]
      exact congrArg _ (ih h hs hclaims hrest hcount hnext)
    | list status limit =>
      have hreply : s.reply (.list status limit) = u.reply (.list status limit) :=
        congrArg Reply.items (h.list status hfirst)
      rw [hreply]
      exact congrArg _ (ih h hs hclaims hrest hcount hnext)
    | call c =>
      have hcalls : (Action.call c :: actions).filterMap Action.call? =
          c :: actions.filterMap Action.call? := rfl
      rw [hcalls] at hcount hnext
      rw [List.countP_cons] at hnext
      simp only [takings] at hcount
      have htaken : ∀ id r, s.find? id = some r → s.IsTakenBy id c →
          ∀ n : Nat, r.attempts = .counted n → n + 1 < claimLimit := by
        intro id r hr htakes n hn
        have hlimit := hcount id
        rw [if_pos htakes] at hlimit
        unfold claimLimit at hlimit ⊢
        have hfits : claims id ≤ maxSigned64 := by
          unfold maxSigned64
          omega
        have hattempts := (hclaims.rows id r hr).attempts
        rw [hn, Cell.counted_inj hfits] at hattempts
        omega
      have hroom : c.isEnqueue = true → s.nextId ≤ maxSigned64 := by
        intro hc
        rw [if_pos hc] at hnext
        omega
      obtain ⟨hreply, hafter⟩ := h.after hs hfirst hroom htaken
      have hused := s.nextId_after_le c
      show s.answer c :: _ = u.answer c :: _
      rw [hreply]
      refine congrArg _ (ih hafter (isNumbered_after hs c) (isConsistent_after hs hclaims c) hrest
        ?_ ?_)
      · intro id
        have hlimit := hcount id
        show claims id + (if s.IsTakenBy id c then 1 else 0) + (s.after c).takings id _ < _
        omega
      · show (s.after c).nextId + _ ≤ _
        omega

/-- Both media give the same answers to whatever is asked from the empty backlog on: the same
items, verdicts and errors.  They keep the instants and texts alike, no item is claimed 2^31 - 1
times, and there are numbers for all observations. -/
theorem replies_agree {actions : List Action} (hplain : ∀ a ∈ actions, a.IsPlain)
    (hclaims : ∀ id,
      (empty .embedded).takings id (actions.filterMap Action.call?) < claimLimit)
    (hroom : (actions.filterMap Action.call?).countP Call.isEnqueue ≤ maxSigned64) :
    (empty .embedded).replies actions = (empty .server).replies actions := by
  refine matches_empty.replies List.Pairwise.nil (isConsistent_empty _) hplain ?_ ?_
  · simpa only [Nat.zero_add] using hclaims
  · show 1 + _ ≤ maxSigned64 + 1
    omega

/-- A file whose first attempt fails. -/
theorem replies_agree_retry :
    let actions : List Action := [.call (.enqueue seen (clock 0)),
      .call (.claim "a" (clock 0) (.ofSeconds 60)),
      .call (.record 1 "a" (.retry "refused") (some (clock 30)) (clock 1)), .get 1, .list none 10]
    (∀ a ∈ actions, a.IsPlain) ∧
      (empty .embedded).replies actions = (empty .server).replies actions := by
  intro actions
  have hplain : ∀ a ∈ actions, a.IsPlain := by decide
  have hclaims : ∀ id,
      (empty .embedded).takings id (actions.filterMap Action.call?) < claimLimit := fun id =>
    Nat.lt_of_le_of_lt (takings_le_length id _ _) (by decide)
  exact ⟨hplain, replies_agree hplain hclaims (by decide)⟩

/-! ### Where the media differ -/

section

variable {m : Medium}

/-- The last change of an item that a claim was handed. -/
def lastChange? : Reply → Option Instant
  | .claimed (.ok (some item)) => some item.updatedAt
  | _ => none

/-- When every number is given, an observation is refused. -/
theorem enqueue_of_full {s : Store m} (h : ¬ s.nextId ≤ maxSigned64) (o : Observation)
    (now : Instant) : (s.enqueue o now).1 = .error m.refusal := by
  unfold enqueue
  rcases perform_cases s _ with ⟨e, herror, hcase⟩ | ⟨result, hresult, -⟩
  · rw [hcase]
    simp only [bind_eq_error, Medium.requireText, Medium.requireTextOption,
      Medium.require_eq_error, Medium.stamp_eq_error] at herror
    rcases herror with ⟨-, rfl⟩ | ⟨_, -, ⟨-, rfl⟩ | ⟨_, -, ⟨-, rfl⟩ | ⟨_, -, ⟨-, rfl⟩ |
      ⟨_, -, ⟨-, rfl⟩ | ⟨_, -, ⟨-, rfl⟩ | ⟨_, -, ⟨-, rfl⟩ | ⟨_, -, herror⟩⟩⟩⟩⟩⟩⟩
    all_goals first
      | rfl
      | cases herror
  · simp only [bind_eq_ok, Medium.require_eq_ok, decide_eq_true_eq] at hresult
    obtain ⟨_, -, _, -, _, -, _, -, _, -, _, -, _, hnext, -⟩ := hresult
    exact absurd hnext h

/-- Observations that are kept use the numbers up. -/
theorem nextId_replicate {o : Observation} {now : Instant} {stamp : m.Stamp}
    (htexts : ∀ text ∈ o.texts, m.keepsText text = true) (hstamp : m.stamp? now = some stamp)
    (n : Nat) {s : Store m} (hroom : s.nextId + n ≤ maxSigned64 + 1) :
    (s.afterAll (List.replicate n (.enqueue o now))).nextId = s.nextId + n := by
  induction n generalizing s with
  | zero => rfl
  | succ n ih =>
    have hcase := enqueue_of_kept htexts hstamp (s := s) (by omega)
    have hnext : (s.after (.enqueue o now)).nextId = s.nextId + 1 := by
      show (s.enqueue o now).2.nextId = s.nextId + 1
      rw [hcase]
      exact s.nextId_append rfl
    rw [List.replicate_succ, afterAll_cons, ih (by omega), hnext]
    omega

/-- What is asked last is answered last. -/
theorem replies_concat (s : Store m) (calls : List Call) (a : Action) :
    s.replies (calls.map Action.call ++ [a]) =
      s.replies (calls.map Action.call) ++ [(s.afterAll calls).reply a] := by
  induction calls generalizing s with
  | nil => rfl
  | cons c calls ih =>
    show s.answer c :: (s.after c).replies (calls.map Action.call ++ [a]) = _
    rw [ih]
    rfl

/-- The last of more observations than there are numbers is refused. -/
theorem replies_of_full {o : Observation} {now : Instant} {stamp : m.Stamp}
    (htexts : ∀ text ∈ o.texts, m.keepsText text = true) (hstamp : m.stamp? now = some stamp) :
    ((empty m).replies (List.replicate (maxSigned64 + 1) (.call (.enqueue o now)))).getLast? =
      some (.item (.error m.refusal)) := by
  have hcalls : List.replicate (maxSigned64 + 1) (Action.call (.enqueue o now)) =
      (List.replicate maxSigned64 (Call.enqueue o now)).map Action.call ++
        [.call (.enqueue o now)] := by
    rw [List.map_replicate, ← List.replicate_succ']
  have hstart : (empty m).nextId = 1 := rfl
  have hnext := nextId_replicate htexts hstamp maxSigned64 (s := empty m) (by omega)
  have hfull := enqueue_of_full (s := (empty m).afterAll
    (List.replicate maxSigned64 (.enqueue o now))) (by omega) o now
  rw [hcalls, replies_concat, List.getLast?_concat]
  show some (Reply.item _) = _
  rw [hfull]

/-- Observations take nothing. -/
theorem takings_replicate_enqueue (id : Int) (s : Store m) (o : Observation) (now : Instant)
    (n : Nat) : s.takings id (List.replicate n (.enqueue o now)) = 0 := by
  induction n generalizing s with
  | zero => rfl
  | succ n ih =>
    rw [List.replicate_succ, takings, ih, Nat.add_zero]
    exact if_neg fun hnever => hnever

end

/-- Two ways out of `replies_agree` when its reservations are dropped.  In a leap second, a server
keeps the second after it and a file the leap second.  When all numbers are given, each refuses
an observation with a fault of its own. -/
theorem replies_agree_not_always :
    (∃ leap : Instant, leap.IsFourDigit ∧ Medium.serverEpoch ≤ leap.toNanos ∧
      (clock 0).IsPlain ∧ (∀ t ∈ leap.add? (.ofSeconds 60), t.IsPlain) ∧
        (empty .embedded).replies [.call (.enqueue seen (clock 0)),
            .call (.claim "a" leap (.ofSeconds 60))] ≠
          (empty .server).replies [.call (.enqueue seen (clock 0)),
            .call (.claim "a" leap (.ofSeconds 60))]) ∧
    ∃ actions : List Action, (∀ a ∈ actions, a.IsPlain) ∧
      (∀ id, (empty .embedded).takings id (actions.filterMap Action.call?) < claimLimit) ∧
        (empty .embedded).replies actions ≠ (empty .server).replies actions := by
  refine ⟨⟨⟨1483228799, 1500000000, by decide, by decide, by decide, by decide⟩, by decide,
    by decide, by decide, by decide, ?_⟩,
    List.replicate (maxSigned64 + 1) (.call (.enqueue seen (clock 0))), ?_, ?_, ?_⟩
  · intro hsame
    have hchanges := congrArg (List.map lastChange?) hsame
    exact absurd hchanges (by decide +kernel)
  · intro a ha
    rw [List.eq_of_mem_replicate ha]
    decide
  · intro id
    rw [List.filterMap_replicate_of_some (f := Action.call?) rfl, takings_replicate_enqueue]
    decide
  · intro hsame
    have htexts : ∀ m : Medium, m.IsBackend → ∀ text ∈ seen.texts, m.keepsText text = true := by
      rintro m (rfl | rfl) <;> decide
    have hlast := congrArg List.getLast? hsame
    rw [replies_of_full (htexts _ (.inl rfl)) rfl,
      replies_of_full (htexts _ (.inr rfl)) rfl] at hlast
    cases hlast

end Store

end Backlog

end ArtifactRelay
