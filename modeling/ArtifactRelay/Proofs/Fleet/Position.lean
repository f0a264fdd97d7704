import ArtifactRelay.Worker.Cycle

/-!
# ArtifactRelay.Proofs.Fleet.Position

Where a worker is in its work.  A cycle is a tree of questions; a `Position` names
the places of that tree at which a question is asked, with what the worker knows
there: the item it claimed, the hash it is about to register, the outcome it is about
to record.  `Position.program` is the rest of the cycle from there on.

`Moves` lists how an answer leads from one position to the next, and `exists_moves`
says that the list is complete: whatever the answer, the rest of the cycle is the
program of a position that the list names.
-/

namespace ArtifactRelay

open Time

/-- A failed attempt waits, or it was the last one. -/
theorem RetryPolicy.resolve_retry (p : RetryPolicy) (attempts : Nat) (reason : String) :
    (p.isExhausted attempts = false ∧ p.resolve attempts (.retry reason) = .retry reason) ∨
      ∃ last, p.resolve attempts (.retry reason) = .dead last none := by
  unfold resolve
  cases hlast : p.isExhausted attempts with
  | true => exact .inr ⟨_, rfl⟩
  | false => exact .inl ⟨rfl, rfl⟩

/-- An item that has not used up its attempts has been attempted less often than the limit. -/
theorem RetryPolicy.lt_of_isExhausted_eq_false {p : RetryPolicy} {limit attempts : Nat}
    (hlimit : p.maxAttempts = some limit) (h : p.isExhausted attempts = false) :
    attempts < limit := by
  simpa [isExhausted, hlimit] using h

/-- Without backoff, nothing is to be waited for. -/
theorem RetryPolicy.retryAfter_of_no_backoff {p : RetryPolicy} (h : p.backoff = .zero)
    (attempts : Nat) (now : Instant) : p.retryAfter attempts now = .ok none :=
  if_pos h

namespace Worker

open Program (request)

/-- What a program asks first. -/
def Program.request? {α : Type} : Program α → Option Request
  | .done _ => none
  | .ask r _ => some r

variable (w : Worker)

/-! ## The rest of a cycle -/

/-- The rest of a cycle after an item is done with. -/
def afterItem (left ended : Nat) : Except Error Outcome → Program (Except Error Nat)
  | .error e => .done (.error e)
  | .ok outcome =>
    if outcome.target.isTerminal then w.cycleFrom left (ended + 1) else .done (.ok ended)

/-- What the answer to a record means for the item. -/
def ofRecord : Except Error (Outcome × WorkItem) → Except Error Outcome
  | .ok (recorded, _) => .ok recorded
  | .error (.leaseLost ..) | .error (.invalidTransition ..) => .ok (.retry "lease lost")
  | .error e => .error e

/-- The rest of a cycle after the outcome of an item was decided. -/
def afterOutcome (left ended : Nat) (item : WorkItem) (outcome : Outcome) :
    Program (Except Error Nat) :=
  recordOutcome w.settings.retry w.name item outcome >>= fun answer =>
    w.afterItem left ended (ofRecord answer)

/-- The rest of a cycle after an outcome was recorded. -/
def afterRecord (left ended : Nat) (outcome : Outcome) (answer : Except Error WorkItem) :
    Program (Except Error Nat) :=
  w.afterItem left ended (ofRecord (answer.map fun updated => (outcome, updated)))

/-- The reason for which a duplicate is retired. -/
def duplicateReason (hash : String) : String :=
  "duplicate content " ++ hash ++ " within " ++ w.settings.dedupWindow.text

/-- The rest of a cycle after the dedup verdict on an item. -/
def afterVerdict (left ended : Nat) (item : WorkItem) (name : Artifact.Name)
    (content : Artifact.Content) : Dedup.Verdict → Program (Except Error Nat)
  | .duplicate hash =>
    w.afterOutcome left ended item (.dead (w.duplicateReason hash) (some hash))
  | _ =>
    .ask (.submit (Artifact.pathIn w.dir name) item.displayName) fun answer =>
      w.afterOutcome left ended item (outcomeOf content answer)

/-- The rest of a cycle after an item was claimed. -/
theorem handle_bind (left ended : Nat) (item : WorkItem) :
    w.handle item >>= w.afterItem left ended =
      .ask (.folder w.dir) fun folder =>
        match locate w.settings.scanRecent folder item with
        | none =>
          w.afterOutcome left ended item (.dead ("artifact not found in " ++ w.dir) none)
        | some (name, content) =>
          checkContent w.settings.dedupWindow item.id content >>=
            w.afterVerdict left ended item name content := by
  have hafter : ∀ outcome,
      (recordOutcome w.settings.retry w.name item outcome >>= fun answer =>
        (match answer with
        | .ok (recorded, _) => (return .ok recorded : Program (Except Error Outcome))
        | .error (.leaseLost ..) | .error (.invalidTransition ..) =>
          return .ok (.retry "lease lost")
        | .error e => return .error e) >>= w.afterItem left ended) =
      w.afterOutcome left ended item outcome := by
    intro outcome
    unfold afterOutcome
    congr 1
    funext answer
    unfold ofRecord
    split <;> rfl
  unfold handle process
  simp only [Program.request_bind, Program.ask_bind]
  congr 1
  funext folder
  cases hlocate : locate w.settings.scanRecent folder item with
  | none =>
    simp only [Program.bind_assoc]
    exact hafter _
  | some found =>
    obtain ⟨name, content⟩ := found
    simp only [Program.bind_assoc]
    congr 1
    funext verdict
    cases verdict with
    | duplicate hash => exact hafter _
    | unique => exact congrArg (Program.ask _) (funext fun _ => hafter _)
    | unchecked => exact congrArg (Program.ask _) (funext fun _ => hafter _)

theorem afterOutcome_retry (left ended : Nat) (item : WorkItem) {outcome : Outcome}
    {reason : String}
    (h : w.settings.retry.resolve item.attempts outcome = .retry reason) :
    w.afterOutcome left ended item outcome =
      .ask .now fun now =>
        match w.settings.retry.retryAfter item.attempts now with
        | .error e => w.afterItem left ended (ofRecord (.error e))
        | .ok retryAfter =>
          .ask (.record item.id w.name (.retry reason) retryAfter)
            (w.afterRecord left ended (.retry reason)) := by
  unfold afterOutcome recordOutcome
  rw [h]
  simp only [Program.request_bind, Program.ask_bind, Program.pure_eq, Program.done_bind]
  congr 1
  funext now
  cases w.settings.retry.retryAfter item.attempts now <;> rfl

theorem afterOutcome_final (left ended : Nat) (item : WorkItem) {outcome recorded : Outcome}
    (h : w.settings.retry.resolve item.attempts outcome = recorded)
    (hfinal : ∀ reason, recorded ≠ .retry reason) :
    w.afterOutcome left ended item outcome =
      .ask (.record item.id w.name recorded none) (w.afterRecord left ended recorded) := by
  unfold afterOutcome recordOutcome
  rw [h]
  cases recorded with
  | retry reason => exact absurd rfl (hfinal reason)
  | forwarded taskRef response hash => rfl
  | dead reason duplicateOf => rfl

/-- The rest of a cycle after the answer to a claim. -/
def afterClaim (left ended : Nat) :
    Except Error (Option WorkItem) → Program (Except Error Nat)
  | .error e => .done (.error e)
  | .ok none => .done (.ok ended)
  | .ok (some item) => w.handle item >>= w.afterItem left ended

theorem cycleFrom_succ (left ended : Nat) :
    w.cycleFrom (left + 1) ended =
      .ask .isStopping fun (isStopping : Bool) =>
        if isStopping then .done (.ok ended)
        else .ask .now fun now =>
          .ask (.claim w.name now w.settings.lease) (w.afterClaim left ended) := by
  refine congrArg (Program.ask .isStopping) (funext fun (isStopping : Bool) => ?_)
  cases isStopping with
  | true => rfl
  | false =>
    refine congrArg (Program.ask _) (funext fun now => ?_)
    refine congrArg (Program.ask _) (funext fun answer => ?_)
    cases answer with
    | error e => rfl
    | ok claimed =>
      cases claimed with
      | none => rfl
      | some item =>
        refine congrArg (w.handle item >>= ·) (funext fun result => ?_)
        cases result <;> rfl

/-! ## Positions -/

/-- Where a worker is in its cycle; with how many items more it may claim, and how many have
ended. -/
inductive Position
  /-- The cycle is over. -/
  | finished (result : Except Error Nat)
  | starting (left ended : Nat)
  /-- About to read the clock for a claim. -/
  | dating (left ended : Nat)
  | claiming (left ended : Nat) (now : Instant)
  /-- About to look for the artifact of the item. -/
  | looking (left ended : Nat) (item : WorkItem)
  /-- About to read the clock for a registration. -/
  | checking (left ended : Nat) (item : WorkItem) (name : Artifact.Name)
      (content : Artifact.Content) (hash : String)
  | registering (left ended : Nat) (item : WorkItem) (name : Artifact.Name)
      (content : Artifact.Content) (hash : String) (now : Instant)
  | submitting (left ended : Nat) (item : WorkItem) (name : Artifact.Name)
      (content : Artifact.Content)
  /-- About to read the clock for a backoff. -/
  | deferring (left ended : Nat) (item : WorkItem) (reason : String)
  | recording (left ended : Nat) (item : WorkItem) (outcome : Outcome)
      (retryAfter : Option Instant)

namespace Position

/-- The item that the worker is at work on. -/
def item? : Position → Option WorkItem
  | finished _ | starting .. | dating .. | claiming .. => none
  | looking _ _ item | checking _ _ item .. | registering _ _ item .. | submitting _ _ item ..
  | deferring _ _ item _ | recording _ _ item .. => some item

/-- The instant that the worker read for what it asks next. -/
def instant? : Position → Option Instant
  | claiming _ _ now | registering _ _ _ _ _ _ now => some now
  | _ => none

/-- The item that the worker is about to put back. -/
def retried? : Position → Option WorkItem
  | deferring _ _ item _ | recording _ _ item (.retry _) _ => some item
  | _ => none

/-- The rest of the cycle. -/
def program : Position → Program (Except Error Nat)
  | finished result => .done result
  | starting left ended => w.cycleFrom (left + 1) ended
  | dating left ended =>
    .ask .now fun now => .ask (.claim w.name now w.settings.lease) (w.afterClaim left ended)
  | claiming left ended now => .ask (.claim w.name now w.settings.lease) (w.afterClaim left ended)
  | looking left ended item => w.handle item >>= w.afterItem left ended
  | checking left ended item name content hash =>
    .ask .now fun now =>
      .ask (.registerHash item.id hash now (w.settings.dedupWindow.since now)) fun answer =>
        w.afterVerdict left ended item name content (.ofAnswer hash answer)
  | registering left ended item name content hash now =>
    .ask (.registerHash item.id hash now (w.settings.dedupWindow.since now)) fun answer =>
      w.afterVerdict left ended item name content (.ofAnswer hash answer)
  | submitting left ended item name content =>
    .ask (.submit (Artifact.pathIn w.dir name) item.displayName) fun answer =>
      w.afterOutcome left ended item (outcomeOf content answer)
  | deferring left ended item reason =>
    .ask .now fun now =>
      match w.settings.retry.retryAfter item.attempts now with
      | .error e => w.afterItem left ended (ofRecord (.error e))
      | .ok retryAfter =>
        .ask (.record item.id w.name (.retry reason) retryAfter)
          (w.afterRecord left ended (.retry reason))
  | recording left ended item outcome retryAfter =>
    .ask (.record item.id w.name outcome retryAfter) (w.afterRecord left ended outcome)

/-- What the worker asks next. -/
def request? : Position → Option Request
  | finished _ => none
  | starting .. => some .isStopping
  | dating .. | checking .. | deferring .. => some .now
  | claiming _ _ now => some (.claim w.name now w.settings.lease)
  | looking .. => some (.folder w.dir)
  | registering _ _ item _ _ hash now =>
    some (.registerHash item.id hash now (w.settings.dedupWindow.since now))
  | submitting _ _ item name _ => some (.submit (Artifact.pathIn w.dir name) item.displayName)
  | recording _ _ item outcome retryAfter =>
    some (.record item.id w.name outcome retryAfter)

/-- The position at which so many items more may be claimed. -/
def start : (left ended : Nat) → Position
  | 0, ended => finished (.ok ended)
  | left + 1, ended => starting left ended

theorem program_start (left ended : Nat) :
    (start left ended).program w = w.cycleFrom left ended := by
  cases left <;> rfl

theorem start_cases (left ended : Nat) :
    start left ended = finished (.ok ended) ∨ ∃ less, start left ended = starting less ended := by
  cases left with
  | zero => exact .inl rfl
  | succ less => exact .inr ⟨less, rfl⟩

@[simp] theorem item?_start (left ended : Nat) : (start left ended).item? = none := by
  rcases start_cases left ended with h | ⟨_, h⟩ <;> rw [h] <;> rfl

/-- The position after an item is done with. -/
def afterItem (left ended : Nat) : Except Error Outcome → Position
  | .error e => finished (.error e)
  | .ok outcome =>
    if outcome.target.isTerminal then start left (ended + 1) else finished (.ok ended)

theorem program_afterItem (left ended : Nat) (result : Except Error Outcome) :
    (afterItem left ended result).program w = w.afterItem left ended result := by
  unfold afterItem Worker.afterItem
  cases result with
  | error e => rfl
  | ok outcome =>
    dsimp only
    split
    · exact program_start w left (ended + 1)
    · rfl

/-- A worker that is done with an item has ended its cycle or starts on the next item. -/
theorem afterItem_cases (left ended : Nat) (result : Except Error Outcome) :
    (∃ r, afterItem left ended result = finished r) ∨
      ∃ less more, afterItem left ended result = starting less more := by
  unfold afterItem
  cases result with
  | error e => exact .inl ⟨_, rfl⟩
  | ok outcome =>
    dsimp only
    split
    · exact (start_cases left (ended + 1)).imp (fun h => ⟨_, h⟩) fun ⟨less, h⟩ => ⟨less, _, h⟩
    · exact .inl ⟨_, rfl⟩

@[simp] theorem item?_afterItem (left ended : Nat) (result : Except Error Outcome) :
    (afterItem left ended result).item? = none := by
  rcases afterItem_cases left ended result with ⟨_, h⟩ | ⟨_, _, h⟩ <;> rw [h] <;> rfl

theorem request?_program (p : Position) : (p.program w).request? = p.request? w := by
  cases p with
  | starting left ended =>
    show (w.cycleFrom (left + 1) ended).request? = _
    rw [w.cycleFrom_succ]
    rfl
  | looking left ended item =>
    show (w.handle item >>= w.afterItem left ended).request? = _
    rw [w.handle_bind]
    rfl
  | _ => rfl

theorem eq_claiming {p : Position} {name : String} {now : Instant} {lease : Span}
    (h : p.request? w = some (.claim name now lease)) :
    ∃ left ended, p = claiming left ended now := by
  cases p with
  | claiming left ended t =>
    cases h
    exact ⟨left, ended, rfl⟩
  | _ => cases h

theorem eq_registering {p : Position} {id : Int} {hash : String} {now : Instant}
    {since : Option Instant} (h : p.request? w = some (.registerHash id hash now since)) :
    ∃ left ended item name content, p = registering left ended item name content hash now ∧
      item.id = id ∧ w.settings.dedupWindow.since now = since := by
  cases p with
  | registering left ended item name content hash now =>
    cases h
    exact ⟨left, ended, item, name, content, rfl, rfl, rfl⟩
  | _ => cases h

theorem eq_submitting {p : Position} {path : Artifact.Name} {display : String}
    (h : p.request? w = some (.submit path display)) :
    ∃ left ended item name content, p = submitting left ended item name content := by
  cases p with
  | submitting left ended item name content => exact ⟨left, ended, item, name, content, rfl⟩
  | _ => cases h

theorem eq_recording {p : Position} {id : Int} {name : String} {o : Outcome}
    {retryAfter : Option Instant} (h : p.request? w = some (.record id name o retryAfter)) :
    ∃ left ended item, p = recording left ended item o retryAfter ∧ item.id = id := by
  cases p with
  | recording left ended item outcome later =>
    cases h
    exact ⟨left, ended, item, rfl, rfl⟩
  | _ => cases h

@[simp] theorem instant?_start (left ended : Nat) : (start left ended).instant? = none := by
  rcases start_cases left ended with h | ⟨_, h⟩ <;> rw [h] <;> rfl

@[simp] theorem instant?_afterItem (left ended : Nat) (result : Except Error Outcome) :
    (afterItem left ended result).instant? = none := by
  rcases afterItem_cases left ended result with ⟨_, h⟩ | ⟨_, _, h⟩ <;> rw [h] <;> rfl

@[simp] theorem retried?_start (left ended : Nat) : (start left ended).retried? = none := by
  rcases start_cases left ended with h | ⟨_, h⟩ <;> rw [h] <;> rfl

@[simp] theorem retried?_afterItem (left ended : Nat) (result : Except Error Outcome) :
    (afterItem left ended result).retried? = none := by
  rcases afterItem_cases left ended result with ⟨_, h⟩ | ⟨_, _, h⟩ <;> rw [h] <;> rfl

theorem start_ne_recording (left ended : Nat) {l e : Nat} {item : WorkItem} {o : Outcome}
    {retryAfter : Option Instant} : start left ended ≠ recording l e item o retryAfter := by
  rcases start_cases left ended with h | ⟨_, h⟩ <;> rw [h] <;> exact nofun

theorem afterItem_ne_recording (left ended : Nat) (result : Except Error Outcome) {l e : Nat}
    {item : WorkItem} {o : Outcome} {retryAfter : Option Instant} :
    afterItem left ended result ≠ recording l e item o retryAfter := by
  rcases afterItem_cases left ended result with ⟨_, h⟩ | ⟨_, _, h⟩ <;> rw [h] <;> exact nofun

end Position

/-! ## Moves -/

open Position in
/-- How an answer leads a worker from one position to the next. -/
inductive Moves : Position → (r : Request) → r.Answer → Position → Prop
  | stop {left ended : Nat} :
    Moves (starting left ended) .isStopping true (finished (.ok ended))
  | go {left ended : Nat} : Moves (starting left ended) .isStopping false (dating left ended)
  | date {left ended : Nat} {now : Instant} :
    Moves (dating left ended) .now now (claiming left ended now)
  | claimNothing {left ended : Nat} {now : Instant} {answer : Except Error (Option WorkItem)}
      {result : Except Error Nat} (hanswer : ∀ item, answer ≠ .ok (some item))
      (hresult : result = answer.map fun _ => ended) :
    Moves (claiming left ended now) (.claim w.name now w.settings.lease) answer (finished result)
  | claim {left ended : Nat} {now : Instant} {item : WorkItem} :
    Moves (claiming left ended now) (.claim w.name now w.settings.lease) (.ok (some item))
      (looking left ended item)
  | lose {left ended : Nat} {item : WorkItem} {folder : Option Artifact.Folder} {reason : String} :
    Moves (looking left ended item) (.folder w.dir) folder
      (recording left ended item (.dead reason none) none)
  | find {left ended : Nat} {item : WorkItem} {folder : Option Artifact.Folder}
      {name : Artifact.Name} {content : Artifact.Content} {hash : String}
      (hhash : content.hash? = some hash) :
    Moves (looking left ended item) (.folder w.dir) folder
      (checking left ended item name content hash)
  | findUnknown {left ended : Nat} {item : WorkItem} {folder : Option Artifact.Folder}
      {name : Artifact.Name} {content : Artifact.Content} (hhash : content.hash? = none) :
    Moves (looking left ended item) (.folder w.dir) folder
      (submitting left ended item name content)
  | check {left ended : Nat} {item : WorkItem} {name : Artifact.Name} {content : Artifact.Content}
      {hash : String} {now : Instant} :
    Moves (checking left ended item name content hash) .now now
      (registering left ended item name content hash now)
  | duplicate {left ended : Nat} {item : WorkItem} {name : Artifact.Name}
      {content : Artifact.Content} {hash : String} {now : Instant} :
    Moves (registering left ended item name content hash now)
      (.registerHash item.id hash now (w.settings.dedupWindow.since now)) (.ok true)
      (recording left ended item (.dead (w.duplicateReason hash) (some hash)) none)
  | unique {left ended : Nat} {item : WorkItem} {name : Artifact.Name}
      {content : Artifact.Content} {hash : String} {now : Instant} {answer : Except Error Bool}
      (hanswer : answer ≠ .ok true) :
    Moves (registering left ended item name content hash now)
      (.registerHash item.id hash now (w.settings.dedupWindow.since now)) answer
      (submitting left ended item name content)
  | accept {left ended : Nat} {item : WorkItem} {name : Artifact.Name}
      {content : Artifact.Content} {ack : Engine.Acknowledgment} :
    Moves (submitting left ended item name content)
      (.submit (Artifact.pathIn w.dir name) item.displayName) (.ok ack)
      (recording left ended item (.forwarded ack.taskRef ack.raw content.hash?) none)
  | refuse {left ended : Nat} {item : WorkItem} {name : Artifact.Name}
      {content : Artifact.Content} {fault : Engine.Fault} {reason : String}
      (hleft : w.settings.retry.isExhausted item.attempts = false) :
    Moves (submitting left ended item name content)
      (.submit (Artifact.pathIn w.dir name) item.displayName) (.error fault)
      (deferring left ended item reason)
  | giveUp {left ended : Nat} {item : WorkItem} {name : Artifact.Name}
      {content : Artifact.Content} {fault : Engine.Fault} {reason : String} :
    Moves (submitting left ended item name content)
      (.submit (Artifact.pathIn w.dir name) item.displayName) (.error fault)
      (recording left ended item (.dead reason none) none)
  | defer {left ended : Nat} {item : WorkItem} {reason : String} {now : Instant}
      {retryAfter : Option Instant}
      (hbackoff : w.settings.retry.retryAfter item.attempts now = .ok retryAfter) :
    Moves (deferring left ended item reason) .now now
      (recording left ended item (.retry reason) retryAfter)
  | fail {left ended : Nat} {item : WorkItem} {reason : String} {now : Instant}
      {e : Error} (hbackoff : w.settings.retry.retryAfter item.attempts now = .error e) :
    Moves (deferring left ended item reason) .now now
      (Position.afterItem left ended (ofRecord (.error e)))
  | record {left ended : Nat} {item : WorkItem} {outcome : Outcome}
      {retryAfter : Option Instant} {answer : Except Error WorkItem} :
    Moves (recording left ended item outcome retryAfter)
      (.record item.id w.name outcome retryAfter) answer
      (Position.afterItem left ended
        (ofRecord (answer.map fun updated => (outcome, updated))))

theorem Moves.request? {p q : Position} {r : Request} {answer : r.Answer}
    (h : w.Moves p r answer q) : p.request? w = some r := by
  cases h <;> rfl

/-- Only a claim brings a worker to an item. -/
theorem Moves.item?_eq {p q : Position} {r : Request} {answer : r.Answer}
    (h : w.Moves p r answer q) (hp : ∀ left ended now, p ≠ .claiming left ended now)
    {item : WorkItem} (hq : q.item? = some item) : p.item? = some item := by
  cases h with
  | stop | go | date | claimNothing => cases hq
  | claim => exact absurd rfl (hp _ _ _)
  | fail | record =>
    rw [Position.item?_afterItem] at hq
    cases hq
  | _ => exact hq

/-- A worker comes to put an item back only if the item has attempts left. -/
theorem Moves.retried? {p q : Position} {r : Request} {answer : r.Answer}
    (h : w.Moves p r answer q) {item : WorkItem} (hq : q.retried? = some item) :
    p.retried? = some item ∨ w.settings.retry.isExhausted item.attempts = false := by
  cases h with
  | refuse hleft =>
    cases hq
    exact .inr hleft
  | defer => exact .inl hq
  | fail | record =>
    rw [Position.retried?_afterItem] at hq
    cases hq
  | _ => cases hq

/-- Whatever is answered, a cycle goes on from a position that `Moves` names. -/
theorem exists_moves (p : Position) :
    (∃ result, p = .finished result) ∨
    ∃ r next, p.program w = .ask r next ∧
      ∀ answer, ∃ q, next answer = q.program w ∧ w.Moves p r answer q := by
  cases p with
  | finished result => exact .inl ⟨result, rfl⟩
  | starting left ended =>
    refine .inr ⟨_, _, w.cycleFrom_succ left ended, fun (isStopping : Bool) => ?_⟩
    cases isStopping with
    | true => exact ⟨.finished (.ok ended), rfl, .stop⟩
    | false => exact ⟨.dating left ended, rfl, .go⟩
  | dating left ended =>
    exact .inr ⟨_, _, rfl, fun now => ⟨.claiming left ended now, rfl, .date⟩⟩
  | claiming left ended now =>
    refine .inr ⟨_, _, rfl, fun (answer : Except Error (Option WorkItem)) => ?_⟩
    cases answer with
    | error e => exact ⟨.finished (.error e), rfl, .claimNothing (fun _ h => by cases h) rfl⟩
    | ok claimed =>
      cases claimed with
      | none => exact ⟨.finished (.ok ended), rfl, .claimNothing (fun _ h => by cases h) rfl⟩
      | some item => exact ⟨.looking left ended item, rfl, .claim⟩
  | looking left ended item =>
    refine .inr ⟨_, _, w.handle_bind left ended item, fun folder => ?_⟩
    split
    · exact ⟨.recording left ended item (.dead _ none) none,
        w.afterOutcome_final left ended item rfl nofun, .lose⟩
    · rename_i name content hlocate
      cases hhash : content.hash? with
      | none =>
        refine ⟨.submitting left ended item name content, ?_, .findUnknown hhash⟩
        rw [checkContent, hhash]
        rfl
      | some hash =>
        refine ⟨.checking left ended item name content hash, ?_, .find hhash⟩
        rw [checkContent, hhash]
        rfl
  | checking left ended item name content hash =>
    exact .inr ⟨_, _, rfl, fun now =>
      ⟨.registering left ended item name content hash now, rfl, .check⟩⟩
  | registering left ended item name content hash now =>
    refine .inr ⟨_, _, rfl, fun (answer : Except Error Bool) => ?_⟩
    cases answer with
    | error e => exact ⟨.submitting left ended item name content, rfl, .unique nofun⟩
    | ok isDuplicate =>
      cases isDuplicate with
      | false => exact ⟨.submitting left ended item name content, rfl, .unique nofun⟩
      | true =>
        exact ⟨.recording left ended item (.dead (w.duplicateReason hash) (some hash)) none,
          w.afterOutcome_final left ended item rfl nofun, .duplicate⟩
  | submitting left ended item name content =>
    refine .inr ⟨_, _, rfl,
      fun (answer : Except Engine.Fault Engine.Acknowledgment) => ?_⟩
    cases answer with
    | ok ack =>
      exact ⟨.recording left ended item (.forwarded ack.taskRef ack.raw content.hash?) none,
        w.afterOutcome_final left ended item rfl nofun, .accept⟩
    | error fault =>
      rcases w.settings.retry.resolve_retry item.attempts fault.message with
        ⟨hleft, h⟩ | ⟨reason, h⟩
      · exact ⟨.deferring left ended item fault.message,
          w.afterOutcome_retry left ended item h, .refuse hleft⟩
      · exact ⟨.recording left ended item (.dead reason none) none,
          w.afterOutcome_final left ended item h nofun, .giveUp⟩
  | deferring left ended item reason =>
    refine .inr ⟨_, _, rfl, fun now => ?_⟩
    split
    · rename_i e hbackoff
      exact ⟨_, (Position.program_afterItem ..).symm, .fail hbackoff⟩
    · rename_i retryAfter hbackoff
      exact ⟨.recording left ended item (.retry reason) retryAfter, rfl, .defer hbackoff⟩
  | recording left ended item outcome retryAfter =>
    exact .inr ⟨_, _, rfl, fun answer => ⟨_, (Position.program_afterItem ..).symm, .record⟩⟩

/-- What every move of a worker keeps holds at the end of its cycle. -/
theorem run_of_moves {σ : Type} {answer : (r : Request) → σ → r.Answer × σ}
    {P : Position → σ → Prop}
    (step : ∀ p t r q, P p t → w.Moves p r (answer r t).1 q → P q (answer r t).2)
    {p : Position} {t : σ} (h : P p t) :
    P (.finished ((p.program w).run answer t).1) ((p.program w).run answer t).2 := by
  generalize hprogram : p.program w = program
  induction program generalizing p t with
  | done result =>
    rcases w.exists_moves p with ⟨other, rfl⟩ | ⟨r, next, hask, -⟩
    · cases hprogram
      exact h
    · rw [hask] at hprogram
      cases hprogram
  | ask r next ih =>
    rcases w.exists_moves p with ⟨result, rfl⟩ | ⟨r', next', hask, hnext⟩
    · cases hprogram
    · rw [hask] at hprogram
      cases hprogram
      obtain ⟨q, hq, hmoves⟩ := hnext (answer r t).1
      exact ih (answer r t).1 (step p t r q h hmoves) hq.symm

end Worker

end ArtifactRelay
