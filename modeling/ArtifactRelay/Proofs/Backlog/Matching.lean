import ArtifactRelay.Proofs.Backlog.Exclusivity
import Mathlib.Data.List.Forall2

/-!
# ArtifactRelay.Proofs.Backlog.Matching

One backlog on both media.  A file keeps instants as texts and a server as numbers, so
their stores are never equal, but they match: every stamp of the one belongs to the
same instant as the stamp of the other (`Medium.Matches`), and all other fields are
the same (`Row.Matches`, `Store.Matches`).  What a row decides and what it reads back
as is the same for matching rows, so an operation answers matching stores alike and
leaves matching stores, one lemma for each.

The stamps of an instant match if no medium changes it more than the other
(`Instant.IsPlain`): it lies outside leap seconds, which a server counts on, and from
2000 on or in whole microseconds, since a server cuts towards that year.
-/

namespace ArtifactRelay

open Text Time

/-! ## Plain instants -/

/-- An instant that both media keep alike: of the years 0 to 9999, outside leap seconds, and from
2000 on or in whole microseconds. -/
def Time.Instant.IsPlain (t : Instant) : Prop :=
  t.IsFourDigit ∧ t.nanos < 1000000000 ∧
    (Backlog.Medium.serverEpoch ≤ t.toNanos ∨ t.nanos % 1000 = 0)

instance (t : Instant) : Decidable t.IsPlain := inferInstanceAs (Decidable (_ ∧ _))

namespace Backlog

namespace Medium

/-- The stamp of a plain instant is the microsecond in which it lies. -/
theorem serverMicros_of_isPlain {t : Instant} (ht : t.IsPlain) :
    serverMicros t = t.seconds * 1000000 + (t.nanos / 1000 : Nat) - 946684800000000 := by
  obtain ⟨-, -, hplace⟩ := ht
  unfold serverMicros Instant.toNanos serverEpoch at *
  rw [tdiv_thousand]
  split <;> omega

/-- The two stamps of one plain instant. -/
def Matches (x : embedded.Stamp) (n : server.Stamp) : Prop :=
  ∃ t : Instant, t.IsPlain ∧ x = t.toMicros ∧ n = serverMicros t

/-- A plain instant is kept by both media. -/
theorem exists_matches {t : Instant} (ht : t.IsPlain) :
    ∃ x n, embedded.stamp? t = some x ∧ server.stamp? t = some n ∧ Matches x n :=
  ⟨_, _, rfl, if_pos (serverStart_le_serverMicros ht.1), t, ht, rfl, rfl⟩

/-- A plain instant that may be missing is kept by both media. -/
theorem exists_matches_option {t : Option Instant} (ht : ∀ u ∈ t, u.IsPlain) :
    ∃ x n, embedded.stampOption t = .ok x ∧ server.stampOption t = .ok n ∧
      Option.Rel Matches x n := by
  cases t with
  | none => exact ⟨none, none, rfl, rfl, .none⟩
  | some u =>
    obtain ⟨x, n, hx, hn, hmatch⟩ := exists_matches (ht u rfl)
    refine ⟨some x, some n, ?_, ?_, .some hmatch⟩
    · simp [stampOption, stamp_eq_ok.mpr hx, Except.map]
    · simp [stampOption, stamp_eq_ok.mpr hn, Except.map]

section

variable {x y : embedded.Stamp} {n k : server.Stamp}

theorem Matches.below (hx : Matches x n) (hy : Matches y k) :
    embedded.below x y = server.below n k := by
  obtain ⟨t, ht, rfl, rfl⟩ := hx
  obtain ⟨u, hu, rfl, rfl⟩ := hy
  have hnanos : t.nanos < 1000000000 ∧ u.nanos < 1000000000 := ⟨ht.2.1, hu.2.1⟩
  rw [below_embedded, Bool.eq_iff_iff, Instant.precedes_toMicros_iff ht.1 hu.1, below_server,
    serverMicros_of_isPlain ht, serverMicros_of_isPlain hu, Instant.lt_def]
  simp only [Instant.seconds_cut, Instant.nanos_cut]
  omega

theorem Matches.atMost (hx : Matches x n) (hy : Matches y k) :
    embedded.atMost x y = server.atMost n k := by
  rw [atMost_eq_not_below (.inl rfl), atMost_eq_not_below (.inr rfl), hy.below hx]

/-- Both stamps of an instant read back as the instant cut to microseconds. -/
theorem Matches.exists_instant (hx : Matches x n) :
    ∃ t, embedded.instant x = .ok t ∧ server.instant n = .ok t := by
  obtain ⟨t, ht, rfl, rfl⟩ := hx
  have hnanos := ht.2.1
  have hserver : Instant.ofNanos? (serverEpoch + serverMicros t * 1000) = some t.cut := by
    unfold Instant.ofNanos?
    rw [serverMicros_of_isPlain ht, Instant.ofParts?_eq_some_iff, Instant.seconds_cut,
      Instant.nanos_cut]
    unfold serverEpoch
    omega
  exact ⟨t.cut, by simp [instant, Instant.ofText?_toMicros], by simp [instant, hserver]⟩

variable {x y : Option embedded.Stamp} {n k : Option server.Stamp}

theorem exists_instantOption (h : Option.Rel Matches x n) :
    ∃ t, embedded.instantOption x = .ok t ∧ server.instantOption n = .ok t := by
  cases h with
  | none => exact ⟨none, rfl, rfl⟩
  | some h =>
    obtain ⟨t, hx, hn⟩ := h.exists_instant
    exact ⟨some t, by simp [instantOption, hx, Except.map], by simp [instantOption, hn, Except.map]⟩

end

end Medium

/-- What is asked of every stamp that is there has one answer for matching ones. -/
theorem all_eq_of_rel {α β : Type} {R : α → β → Prop} {x : Option α} {y : Option β}
    (h : Option.Rel R x y) {p : α → Bool} {q : β → Bool} (hp : ∀ a b, R a b → p a = q b) :
    x.all p = y.all q := by
  cases h with
  | none => rfl
  | some hab => exact hp _ _ hab

theorem any_eq_of_rel {α β : Type} {R : α → β → Prop} {x : Option α} {y : Option β}
    (h : Option.Rel R x y) {p : α → Bool} {q : β → Bool} (hp : ∀ a b, R a b → p a = q b) :
    x.any p = y.any q := by
  cases h with
  | none => rfl
  | some hab => exact hp _ _ hab

/-! ## Matching rows -/

open Medium (Matches)

/-- The claims that an item may have had, on both media. -/
def claimLimit : Nat := 2147483647

namespace Row

/-- The same row on both media. -/
structure Matches (r : Row Medium.embedded.Stamp) (q : Row Medium.server.Stamp) : Prop where
  id : r.id = q.id
  eventType : r.eventType = q.eventType
  sourceIp : r.sourceIp = q.sourceIp
  filenameHint : r.filenameHint = q.filenameHint
  storedNameHint : r.storedNameHint = q.storedNameHint
  loggedHash : r.loggedHash = q.loggedHash
  status : ∃ s : Status, r.status = s.name ∧ q.status = s.name
  leaseUntil : Option.Rel Medium.Matches r.leaseUntil q.leaseUntil
  claimedBy : r.claimedBy = q.claimedBy
  attempts : ∃ n : Nat, n < claimLimit ∧ r.attempts = .counted n ∧ q.attempts = .counted n
  retryAfter : Option.Rel Medium.Matches r.retryAfter q.retryAfter
  contentHash : r.contentHash = q.contentHash
  taskRef : ∃ n : Option Int, r.taskRef = n.elim .null .whole ∧ q.taskRef = n.elim .null .whole
  engineResponse : r.engineResponse = q.engineResponse
  duplicateOf : r.duplicateOf = q.duplicateOf
  lastError : r.lastError = q.lastError
  createdAt : Medium.Matches r.createdAt q.createdAt
  updatedAt : Medium.Matches r.updatedAt q.updatedAt

variable {r : Row Medium.embedded.Stamp} {q : Row Medium.server.Stamp}
  {x y : Medium.embedded.Stamp} {n k : Medium.server.Stamp}

/-! ### What a row decides -/

theorem Matches.isIn (h : r.Matches q) (s : Status) : r.isIn s = q.isIn s := by
  obtain ⟨_, hr, hq⟩ := h.status
  simp [Row.isIn, hr, hq]

theorem Matches.isHeldBy (h : r.Matches q) (worker : String) :
    r.isHeldBy worker = q.isHeldBy worker := by
  simp [Row.isHeldBy, h.isIn, h.claimedBy]

theorem Matches.isClaimable (h : r.Matches q) (hx : Medium.Matches x n) :
    r.isClaimable .embedded x = q.isClaimable .server n := by
  have hretry := all_eq_of_rel h.retryAfter (p := (Medium.embedded.atMost · x))
    (q := (Medium.server.atMost · n)) fun _ _ hab => hab.atMost hx
  have hlease := any_eq_of_rel h.leaseUntil (p := (Medium.embedded.below · x))
    (q := (Medium.server.below · n)) fun _ _ hab => hab.below hx
  simp only [Row.isClaimable, h.eventType, h.isIn, hretry, hlease]

theorem Matches.isActive (h : r.Matches q) (hx : Medium.Matches x n) :
    r.isActive .embedded x = q.isActive .server n := by
  have hlease := any_eq_of_rel h.leaseUntil (p := (Medium.embedded.atMost x ·))
    (q := (Medium.server.atMost n ·)) fun _ _ hab => hx.atMost hab
  simp only [Row.isActive, h.isIn, hlease]

theorem Matches.duplicates (h : r.Matches q) (id : Int) (hash : String) (hx : Medium.Matches x n)
    {since : Option Medium.embedded.Stamp} {sinceServer : Option Medium.server.Stamp}
    (hsince : Option.Rel Medium.Matches since sinceServer) :
    r.duplicates .embedded id hash x since = q.duplicates .server id hash n sinceServer := by
  have hfirst := all_eq_of_rel hsince (p := (Medium.embedded.atMost · r.updatedAt))
    (q := (Medium.server.atMost · q.updatedAt)) fun _ _ hab => hab.atMost h.updatedAt
  simp only [Row.duplicates, h.contentHash, h.id, h.isActive hx, hfirst]

/-- Matching rows read back, and as the same item. -/
theorem Matches.exists_read (h : r.Matches q) :
    ∃ item, r.read .embedded = .ok item ∧ q.read .server = .ok item := by
  obtain ⟨s, hstatus, hstatus'⟩ := h.status
  obtain ⟨count, hlt, hcount, hcount'⟩ := h.attempts
  obtain ⟨task, htask, htask'⟩ := h.taskRef
  obtain ⟨lease, hlease, hlease'⟩ := Medium.exists_instantOption h.leaseUntil
  obtain ⟨retry, hretry, hretry'⟩ := Medium.exists_instantOption h.retryAfter
  obtain ⟨created, hcreated, hcreated'⟩ := h.createdAt.exists_instant
  obtain ⟨updated, hupdated, hupdated'⟩ := h.updatedAt.exists_instant
  rw [Cell.counted_of_le (Nat.le_trans (Nat.le_of_lt hlt) (by decide))] at hcount hcount'
  have hrange : (0 : Int) ≤ count ∧ (count : Int) ≤ 4294967295 := by
    unfold claimLimit at hlt
    omega
  have hnumber : ∀ m : Medium, m.number (task.elim .null .whole) = .ok task := by
    intro m
    cases task <;> rfl
  unfold read
  simp only [hstatus, hstatus', Status.ofName?_name, hcount, hcount', Cell.whole?_whole,
    Option.bind_some, if_pos hrange, hlease, hlease', hretry, hretry', hcreated, hcreated',
    hupdated, hupdated', htask, htask', hnumber, h.id, h.eventType, h.sourceIp, h.filenameHint,
    h.storedNameHint, h.loggedHash, h.claimedBy, h.contentHash, h.engineResponse, h.duplicateOf,
    h.lastError]
  exact ⟨_, rfl, rfl⟩

theorem Matches.read (h : r.Matches q) : r.read .embedded = q.read .server := by
  obtain ⟨item, hr, hq⟩ := h.exists_read
  rw [hr, hq]

/-! ### What a row becomes -/

theorem matches_ofObservation (id : Int) (o : Observation) (hx : Medium.Matches x n) :
    (ofObservation id x o).Matches (ofObservation id n o) := by
  constructor
  case status => exact ⟨.pending, rfl, rfl⟩
  case attempts => exact ⟨0, by decide, rfl, rfl⟩
  case taskRef => exact ⟨none, rfl, rfl⟩
  case leaseUntil => exact .none
  case retryAfter => exact .none
  case createdAt => exact hx
  case updatedAt => exact hx
  all_goals rfl

theorem Matches.claim (h : r.Matches q) (worker : String) (hx : Medium.Matches x n)
    (hy : Medium.Matches y k) (hcount : ∀ n : Nat, r.attempts = .counted n → n + 1 < claimLimit) :
    (r.claim worker x y).Matches (q.claim worker n k) :=
  { h with
    status := ⟨.claimed, rfl, rfl⟩
    leaseUntil := .some hx
    claimedBy := rfl
    attempts := by
      obtain ⟨count, -, hr, hq⟩ := h.attempts
      exact ⟨count + 1, hcount count hr, by rw [attempts_claim, hr, Cell.next_counted],
        by rw [attempts_claim, hq, Cell.next_counted]⟩
    retryAfter := .none
    updatedAt := hy }

theorem Matches.register (h : r.Matches q) (hash : String) (hx : Medium.Matches x n) :
    (r.register hash x).Matches (q.register hash n) :=
  { h with
    contentHash := by simp [h.contentHash]
    updatedAt := hx }

theorem Matches.conclude (h : r.Matches q) (o : Outcome) (hx : Medium.Matches x n)
    {retry : Option Medium.embedded.Stamp} {retryServer : Option Medium.server.Stamp}
    (hretry : Option.Rel Medium.Matches retry retryServer) :
    (r.conclude o retry x).Matches (q.conclude o retryServer n) := by
  cases o with
  | forwarded taskRef response hash =>
    exact { h with
      status := ⟨.forwarded, rfl, rfl⟩
      leaseUntil := .none
      claimedBy := rfl
      retryAfter := .none
      contentHash := by simp [Row.conclude, h.contentHash]
      taskRef := ⟨taskRef, rfl, rfl⟩
      engineResponse := rfl
      lastError := rfl
      updatedAt := hx }
  | dead reason duplicateOf =>
    exact { h with
      status := ⟨.dead, rfl, rfl⟩
      leaseUntil := .none
      claimedBy := rfl
      retryAfter := .none
      duplicateOf := rfl
      lastError := rfl
      updatedAt := hx }
  | retry reason =>
    exact { h with
      status := ⟨.pending, rfl, rfl⟩
      leaseUntil := .none
      claimedBy := rfl
      retryAfter := hretry
      lastError := rfl
      updatedAt := hx }

end Row

/-- The same analysis record on both media. -/
structure Report.Matches (a : Report Medium.embedded.Stamp) (b : Report Medium.server.Stamp) :
    Prop where
  contentHash : a.contentHash = b.contentHash
  taskRef : a.taskRef = b.taskRef
  reportedAt : Medium.Matches a.reportedAt b.reportedAt

theorem Report.Matches.duplicates {a : Report Medium.embedded.Stamp}
    {b : Report Medium.server.Stamp} (h : a.Matches b) (hash : String)
    {since : Option Medium.embedded.Stamp} {sinceServer : Option Medium.server.Stamp}
    (hsince : Option.Rel Medium.Matches since sinceServer) :
    a.duplicates .embedded hash since = b.duplicates .server hash sinceServer := by
  have hfirst := all_eq_of_rel hsince (p := (Medium.embedded.atMost · a.reportedAt))
    (q := (Medium.server.atMost · b.reportedAt)) fun _ _ hab => hab.atMost h.reportedAt
  simp only [Report.duplicates, h.contentHash, hfirst]

/-! ## Lists of matching elements -/

section

variable {α β : Type} {R : α → β → Prop} {xs : List α} {ys : List β}

theorem find?_rel (h : List.Forall₂ R xs ys) {p : α → Bool} {q : β → Bool}
    (hp : ∀ a b, R a b → p a = q b) : Option.Rel R (xs.find? p) (ys.find? q) := by
  induction h with
  | nil => exact .none
  | @cons a b xs ys hab _ ih =>
    rw [List.find?_cons, List.find?_cons, hp a b hab]
    cases q b with
    | true => exact .some hab
    | false => exact ih

theorem any_eq_of_forall₂ (h : List.Forall₂ R xs ys) {p : α → Bool} {q : β → Bool}
    (hp : ∀ a b, R a b → p a = q b) : xs.any p = ys.any q := by
  induction h with
  | nil => rfl
  | cons hab _ ih => rw [List.any_cons, List.any_cons, hp _ _ hab, ih]

theorem map_forall₂ {γ δ : Type} {T : γ → δ → Prop} (h : List.Forall₂ R xs ys) {f : α → γ}
    {g : β → δ} (hf : ∀ a ∈ xs, ∀ b, R a b → T (f a) (g b)) :
    List.Forall₂ T (xs.map f) (ys.map g) := by
  induction h with
  | nil => exact .nil
  | cons hab _ ih =>
    have hrest := ih fun a ha => hf a (List.mem_cons_of_mem _ ha)
    exact .cons (hf _ List.mem_cons_self _ hab) hrest

theorem mapM_eq_of_forall₂ {ε γ : Type} (h : List.Forall₂ R xs ys) {f : α → Except ε γ}
    {g : β → Except ε γ} (hf : ∀ a b, R a b → f a = g b) : xs.mapM f = ys.mapM g := by
  induction h with
  | nil => rfl
  | cons hab _ ih => rw [List.mapM_cons, List.mapM_cons, hf _ _ hab, ih]

end

/-! ## Matching stores -/

namespace Store

/-- The same store on both media. -/
structure Matches (s : Store .embedded) (u : Store .server) : Prop where
  rows : List.Forall₂ Row.Matches s.rows u.rows
  lastId : s.lastId = u.lastId
  reports : ∃ as bs, s.reports = some as ∧ u.reports = some bs ∧
    List.Forall₂ Report.Matches as bs

theorem matches_empty : (empty .embedded).Matches (empty .server) :=
  ⟨.nil, rfl, [], [], rfl, rfl, .nil⟩

variable {s : Store .embedded} {u : Store .server}

theorem Matches.find? (h : s.Matches u) (id : Int) :
    Option.Rel Row.Matches (s.find? id) (u.find? id) :=
  find?_rel h.rows fun _ _ hrow => by rw [hrow.id]

theorem Matches.nextId (h : s.Matches u) : s.nextId = u.nextId := by
  have hlargest : s.rows.foldl (fun n r => max n r.id.toNat) s.lastId =
      u.rows.foldl (fun n r => max n r.id.toNat) u.lastId := by
    refine List.rel_foldl (P := Eq) (R := Row.Matches) ?_ h.lastId h.rows
    rintro n _ rfl r q hrow
    exact congrArg (fun id : Int => max n id.toNat) hrow.id
  exact congrArg (· + 1) hlargest

theorem Matches.modify (h : s.Matches u) (id : Int)
    {f : Row Medium.embedded.Stamp → Row Medium.embedded.Stamp}
    {g : Row Medium.server.Stamp → Row Medium.server.Stamp}
    (hf : ∀ r ∈ s.rows, r.id = id → ∀ q, r.Matches q → (f r).Matches (g q)) :
    (s.modify id f).Matches (u.modify id g) := by
  refine ⟨map_forall₂ h.rows fun r hr q hrow => ?_, h.lastId, h.reports⟩
  by_cases hid : r.id = id
  · rw [if_pos hid, if_pos (hrow.id.symm.trans hid)]
    exact hf r hr hid q hrow
  · rw [if_neg hid, if_neg fun hq => hid (hrow.id.trans hq)]
    exact hrow

theorem Matches.hasDuplicate (h : s.Matches u) (id : Int) (hash : String)
    {x : Medium.embedded.Stamp} {n : Medium.server.Stamp} (hx : Medium.Matches x n)
    {since : Option Medium.embedded.Stamp} {sinceServer : Option Medium.server.Stamp}
    (hsince : Option.Rel Medium.Matches since sinceServer) :
    s.hasDuplicate id hash x since = u.hasDuplicate id hash n sinceServer := by
  obtain ⟨as, bs, has, hbs, hreports⟩ := h.reports
  have hrows := any_eq_of_forall₂ h.rows (p := (·.duplicates .embedded id hash x since))
    (q := (·.duplicates .server id hash n sinceServer))
    fun _ _ hrow => hrow.duplicates id hash hx hsince
  have hresults := any_eq_of_forall₂ hreports (p := (·.duplicates .embedded hash since))
    (q := (·.duplicates .server hash sinceServer)) fun _ _ hreport => hreport.duplicates hash hsince
  simp only [Store.hasDuplicate, has, hbs, Option.getD_some, hrows, hresults]

/-! ### Operations on matching stores -/

/-- Both answer the same, and matching stores are left. -/
def Alike {α : Type} (x : Except Error α × Store .embedded) (y : Except Error α × Store .server) :
    Prop :=
  x.1 = y.1 ∧ x.2.Matches y.2

theorem Matches.enqueue (h : s.Matches u) {o : Observation} {now : Instant} (hnow : now.IsPlain)
    (htexts : ∀ text ∈ o.texts, Medium.server.keepsText text = true)
    (hnext : s.nextId ≤ maxSigned64) : Alike (s.enqueue o now) (u.enqueue o now) := by
  obtain ⟨x, n, hx, hn, hstamp⟩ := Medium.exists_matches hnow
  have hrow := Row.matches_ofObservation s.nextId o hstamp
  have hnext' : u.nextId ≤ maxSigned64 := h.nextId ▸ hnext
  rw [enqueue_of_kept (fun _ _ => rfl) hx hnext, enqueue_of_kept htexts hn hnext', ← h.nextId]
  exact ⟨hrow.read, List.rel_append h.rows (.cons hrow .nil), rfl, h.reports⟩

theorem Matches.claimNext (h : s.Matches u) (hs : s.IsNumbered) {worker : String} {now : Instant}
    {lease : Span} (hnow : now.IsPlain) (hexpiry : ∀ t ∈ now.add? lease, t.IsPlain)
    (hworker : Medium.server.keepsText worker = true)
    (hcount : ∀ id r, s.find? id = some r → s.Takes id worker now lease →
      ∀ n : Nat, r.attempts = .counted n → n + 1 < claimLimit) :
    Alike (s.claimNext worker now lease) (u.claimNext worker now lease) := by
  cases hadd : now.add? lease with
  | none =>
    rw [claimNext_of_out_of_range hadd, claimNext_of_out_of_range hadd]
    exact ⟨rfl, h⟩
  | some expiry =>
    obtain ⟨x, n, hx, hn, hstamp⟩ := Medium.exists_matches hnow
    obtain ⟨y, k, hy, hk, hend⟩ := Medium.exists_matches (hexpiry expiry hadd)
    have hfound := find?_rel h.rows (p := (·.isClaimable .embedded x))
      (q := (·.isClaimable .server n)) fun _ _ hrow => hrow.isClaimable hstamp
    generalize hr : s.rows.find? (·.isClaimable .embedded x) = row,
      hq : u.rows.find? (·.isClaimable .server n) = row' at hfound
    cases hfound with
    | none =>
      rw [claimNext_of_idle hadd hy hx rfl hr, claimNext_of_idle hadd hk hn hworker hq]
      exact ⟨rfl, h⟩
    | @some r q hrow =>
      obtain ⟨count, hlt, hattempts, hattempts'⟩ := hrow.attempts
      have hfits : count ≤ maxSigned64 := Nat.le_trans (Nat.le_of_lt hlt) (by decide)
      have hmem := List.mem_of_find?_eq_some hr
      have hfind := find?_of_mem hs hmem
      have hcase : s.claimNext worker now lease = _ := claimNext_of_claimable hadd hy hx rfl hr rfl
      have htakes : s.Takes r.id worker now lease := by
        unfold Takes
        rw [hcase, find?_modify_self (fun _ => Row.id_claim ..) hfind, hfind]
        exact fun hsame => Row.claim_ne _ _ _ _ hattempts hfits (Option.some.inj hsame)
      have hroom := hcount r.id r hfind htakes
      have hkept : Medium.server.keepsCount q.attempts.next = true := by
        rw [hattempts', Cell.next_counted]
        exact Medium.keepsCount_of_le (.inr rfl) fun _ => Nat.le_of_lt (hroom count hattempts)
      rw [hcase, claimNext_of_claimable hadd hk hn hworker hq hkept, ← hrow.id]
      have hclaimed := hrow.claim worker hend hstamp hroom
      refine ⟨by rw [hclaimed.read], h.modify r.id fun a ha hid b hab => ?_⟩
      have hsame : some r = some a := by rw [← hfind, ← hid, find?_of_mem hs ha]
      cases hsame
      exact hab.claim worker hend hstamp hroom

theorem Matches.registerHash (h : s.Matches u) (id : Int) {hash : String} {now : Instant}
    {since : Option Instant} (hnow : now.IsPlain) (hsince : ∀ t ∈ since, t.IsPlain)
    (hhash : Medium.server.keepsText hash = true) :
    Alike (s.registerHash id hash now since) (u.registerHash id hash now since) := by
  obtain ⟨x, n, hx, hn, hstamp⟩ := Medium.exists_matches hnow
  obtain ⟨y, k, hy, hk, hfirst⟩ := Medium.exists_matches_option hsince
  obtain ⟨as, bs, has, hbs, -⟩ := h.reports
  have hchanged := h.modify id fun _ _ _ _ hrow => hrow.register hash hstamp
  rw [registerHash_of_kept rfl hx hy (by rw [has]; rfl),
    registerHash_of_kept hhash hn hk (by rw [hbs]; rfl)]
  exact ⟨by rw [hchanged.hasDuplicate id hash hstamp hfirst], hchanged⟩

theorem Matches.record (h : s.Matches u) (id : Int) {worker : String} {o : Outcome}
    {retryAfter : Option Instant} {now : Instant} (hnow : now.IsPlain)
    (hretry : ∀ t ∈ retryAfter, t.IsPlain) (hworker : Medium.server.keepsText worker = true)
    (htexts : ∀ text ∈ o.texts, Medium.server.keepsText text = true) :
    Alike (s.record id worker o retryAfter now) (u.record id worker o retryAfter now) := by
  have hretry' : ∀ t ∈ (if o.target = .pending then retryAfter else none), t.IsPlain := by
    intro t ht
    split at ht
    · exact hretry t ht
    · cases ht
  obtain ⟨x, n, hx, hn, hstamp⟩ := Medium.exists_matches hnow
  obtain ⟨y, k, hy, hk, hbackoff⟩ := Medium.exists_matches_option hretry'
  have hfound := h.find? id
  rw [record_of_kept rfl (fun _ _ => rfl) hx hy, record_of_kept hworker htexts hn hk]
  generalize s.find? id = row, u.find? id = row' at hfound
  cases hfound with
  | none => exact ⟨rfl, h⟩
  | @some r q hrow =>
    dsimp only
    rw [hrow.isHeldBy worker]
    by_cases hheld : q.isHeldBy worker = true
    · rw [if_pos hheld, if_pos hheld]
      exact ⟨(hrow.conclude o hstamp hbackoff).read,
        h.modify id fun _ _ _ _ hrow => hrow.conclude o hstamp hbackoff⟩
    · obtain ⟨item, hr, hq⟩ := hrow.exists_read
      rw [if_neg hheld, if_neg hheld, hr, hq]
      exact ⟨rfl, h⟩

theorem Matches.report (h : s.Matches u) {a : AnalysisRecord} (hnow : a.reportedAt.IsPlain)
    (hhash : Medium.server.keepsText a.contentHash = true) : Alike (s.report a) (u.report a) := by
  obtain ⟨x, n, hx, hn, hstamp⟩ := Medium.exists_matches hnow
  obtain ⟨as, bs, has, hbs, hreports⟩ := h.reports
  rw [report_of_kept rfl hx has, report_of_kept hhash hn hbs]
  exact ⟨rfl, h.rows, h.lastId, _, _, rfl, rfl,
    List.rel_append hreports (.cons ⟨rfl, rfl, hstamp⟩ .nil)⟩

theorem Matches.get (h : s.Matches u) (id : Int) : s.get id = u.get id := by
  have hfound := h.find? id
  unfold Store.get
  generalize s.find? id = row, u.find? id = row' at hfound
  cases hfound with
  | none => rfl
  | some hrow => exact hrow.read

theorem Matches.list (h : s.Matches u) (status : Option Status) {limit : Int}
    (hlimit : 0 ≤ limit) : s.list status limit = u.list status limit := by
  have hfilter : ∀ r q, Row.Matches r q →
      (status.all r.isIn = true ↔ status.all q.isIn = true) := by
    intro r q hrow
    cases status with
    | none => exact Iff.rfl
    | some wanted => exact Bool.eq_iff_iff.mp (hrow.isIn wanted)
  have hchosen := List.rel_filter (R := Row.Matches) hfilter h.rows
  have htaken := List.forall₂_take limit.toNat (List.forall₂_reverse_iff.mpr hchosen)
  unfold Store.list
  rw [Medium.require_of_kept (by simp [hlimit]), Medium.require_of_kept (by simp [hlimit])]
  simp only [if_pos hlimit]
  exact mapM_eq_of_forall₂ htaken fun _ _ hrow => hrow.read

end Store

end Backlog

end ArtifactRelay
