import ArtifactRelay.Proofs.Backlog.Exclusivity

/-!
# ArtifactRelay.Proofs.Backlog.Finality

What still happens to an item that was forwarded or is dead.  No worker is handed it,
and no outcome is recorded for it, since both look at the state of its row.  A
registration does not: it writes its instant into the row of the item that it names,
and its hash where there is none, whoever asks and whatever became of the item.

So the row of a finished item is fixed but for these two fields, and it is rewritten
by exactly the registrations of it that are accepted and bring something new
(`find?_after_of_final`).
-/

namespace ArtifactRelay.Backlog

open Text Time

namespace Row

section

variable {σ : Type} {r r' : Row σ}

/-- The item was forwarded, or is dead. -/
def IsFinal (r : Row σ) : Prop := r.isIn .forwarded = true ∨ r.isIn .dead = true

/-- A finished row neither waits nor is claimed. -/
theorem IsFinal.not_isIn (h : r.IsFinal) {s : Status} (hs : s = .pending ∨ s = .claimed) :
    ¬ r.isIn s = true := by
  intro hin
  rcases h with h | h <;> cases eq_of_isIn hin h <;> rcases hs with hs | hs <;> cases hs

/-- What registrations make of a row: no more than a hash where there was none, and another
instant of the last change. -/
structure IsRegisteredFrom (r' r : Row σ) : Prop where
  rest : r' = { r with contentHash := r'.contentHash, updatedAt := r'.updatedAt }
  contentHash : ∀ hash, r.contentHash = some hash → r'.contentHash = some hash

theorem isRegisteredFrom_refl (r : Row σ) : r.IsRegisteredFrom r := ⟨rfl, fun _ h => h⟩

theorem IsRegisteredFrom.register (h : r'.IsRegisteredFrom r) (hash : String) (now : σ) :
    (r'.register hash now).IsRegisteredFrom r where
  rest := by
    have hrest := h.rest
    unfold Row.register
    rw [hrest]
  contentHash known hknown := by rw [contentHash_register, h.contentHash known hknown]; rfl

theorem IsFinal.of_isRegisteredFrom (hr : r.IsFinal) (h : r'.IsRegisteredFrom r) :
    r'.IsFinal := by
  rw [h.rest]
  exact hr

/-- A registration brings nothing new if a hash is there and the instant is that of the last
change. -/
theorem register_eq_self {hash : String} {now : σ} :
    r.register hash now = r ↔ r.contentHash.isSome = true ∧ now = r.updatedAt := by
  constructor
  · intro h
    have hhash := congrArg Row.contentHash h
    have hnow := congrArg Row.updatedAt h
    exact ⟨by rw [← hhash]; rfl, hnow⟩
  · rintro ⟨hsome, rfl⟩
    obtain ⟨known, hknown⟩ := Option.isSome_iff_exists.mp hsome
    cases r
    cases hknown
    rfl

end

/-- Nothing but a registration changes a finished row. -/
theorem IsFinal.of_changes {m : Medium} {c : Call} {r r' : Row m.Stamp} (hr : r.IsFinal)
    (h : Changes m c r r') :
    r' = r ∨ ∃ hash now since stamp, c = .registerHash r.id hash now since ∧
      m.stamp? now = some stamp ∧ r' = r.register hash stamp := by
  cases h with
  | same => exact .inl rfl
  | claim _ _ _ _ hclaimable =>
    rcases isClaimable_cases hclaimable with hpending | ⟨hclaimed, -⟩
    · exact absurd hpending (hr.not_isIn (.inl rfl))
    · exact absurd hclaimed (hr.not_isIn (.inr rfl))
  | register hstamp => exact .inr ⟨_, _, _, _, rfl, hstamp, rfl⟩
  | conclude _ _ hheld => exact absurd (isIn_of_isHeldBy hheld) (hr.not_isIn (.inr rfl))

end Row

namespace Store

variable {m : Medium}

/-- A registration of the item that is accepted and brings something new: a hash where the row
has none, or another instant than that of its last change. -/
def Rewrites (s : Store m) (id : Int) (r : Row m.Stamp) : Call → Prop
  | .registerHash key hash now since =>
    key = id ∧ (∃ duplicate, (s.registerHash key hash now since).1 = .ok duplicate) ∧
      (r.contentHash = none ∨ m.stamp? now ≠ some r.updatedAt)
  | _ => False

/-- A call changes the row of a finished item if and only if it is such a registration. -/
theorem find?_after_of_final {s : Store m} (hs : s.IsNumbered) {id : Int} {r : Row m.Stamp}
    (hr : s.find? id = some r) (hfinal : r.IsFinal) (c : Call) :
    (s.after c).find? id = some r ↔ ¬ s.Rewrites id r c := by
  obtain rfl := id_of_find? hr
  constructor
  · intro hkept hrewrites
    cases c with
    | registerHash key hash now since =>
      obtain ⟨rfl, ⟨duplicate, hanswer⟩, hnew⟩ := hrewrites
      rcases s.registerHash_cases r.id hash now since with ⟨e, h⟩ | ⟨stamp, _, -, hstamp, -, -, h⟩
      · rw [h] at hanswer
        cases hanswer
      · change (s.registerHash r.id hash now since).2.find? r.id = some r at hkept
        rw [h, find?_modify_self (fun _ => Row.id_register ..) hr, Option.some.injEq,
          Row.register_eq_self] at hkept
        obtain ⟨hsome, rfl⟩ := hkept
        rcases hnew with hnone | hne
        · rw [hnone] at hsome
          cases hsome
        · exact hne hstamp
    | _ => exact hrewrites
  · intro hnot
    obtain ⟨r', hr', hchange⟩ := find?_after hs c hr
    rcases hfinal.of_changes hchange with rfl | ⟨hash, now, since, stamp, rfl, hstamp, rfl⟩
    · exact hr'
    · rcases s.registerHash_cases r.id hash now since with ⟨e, h⟩ | ⟨_, _, -, -, -, -, h⟩
      · show (s.registerHash r.id hash now since).2.find? r.id = some r
        rw [h]
        exact hr
      · -- the registration is accepted, so it brings nothing new
        have haccepted : ∃ duplicate, (s.registerHash r.id hash now since).1 = .ok duplicate :=
          ⟨_, by rw [h]⟩
        have hsame : r.contentHash.isSome = true ∧ stamp = r.updatedAt := by
          constructor
          · refine Option.isSome_iff_ne_none.mpr fun hnone => ?_
            exact hnot ⟨rfl, haccepted, .inl hnone⟩
          · refine Classical.not_not.mp fun hne => ?_
            refine hnot ⟨rfl, haccepted, .inr fun hlast => hne ?_⟩
            exact Option.some.inj (hstamp.symm.trans hlast)
        rw [hr', Row.register_eq_self.mpr hsame]

/-- A call leaves the row of a finished item as it is, but for what a registration writes. -/
theorem isRegisteredFrom_after {s : Store m} (hs : s.IsNumbered) {id : Int} {r q : Row m.Stamp}
    (hfinal : r.IsFinal) (hq : s.find? id = some q) (h : q.IsRegisteredFrom r) (c : Call) :
    ∃ q', (s.after c).find? id = some q' ∧ q'.IsRegisteredFrom r := by
  obtain ⟨q', hq', hchange⟩ := find?_after hs c hq
  refine ⟨q', hq', ?_⟩
  rcases (hfinal.of_isRegisteredFrom h).of_changes hchange with rfl | ⟨_, _, _, _, -, -, rfl⟩
  · exact h
  · exact h.register _ _

/-- Calls leave the row of a finished item as it is, but for what registrations write. -/
theorem isRegisteredFrom_afterAll {s : Store m} (hs : s.IsNumbered) {id : Int} {r q : Row m.Stamp}
    (hfinal : r.IsFinal) (hq : s.find? id = some q) (h : q.IsRegisteredFrom r)
    (calls : List Call) :
    ∃ q', (s.afterAll calls).find? id = some q' ∧ q'.IsRegisteredFrom r := by
  induction calls generalizing s q with
  | nil => exact ⟨q, hq, h⟩
  | cons c calls ih =>
    obtain ⟨q', hq', h'⟩ := isRegisteredFrom_after hs hfinal hq h c
    exact ih (isNumbered_after hs c) hq' h'

/-- Once an item was forwarded or is dead, nothing of its row changes ever again but a missing
hash and the instant of the last change.  Nothing changes at all until a registration of the
item is accepted that brings something new; and whenever one is, the row changes. -/
theorem final_unless_registered {s : Store m} (hs : s.IsReachable) {id : Int} {r : Row m.Stamp}
    (hr : s.find? id = some r) (hfinal : r.IsFinal) (calls : List Call) :
    ∃ r₁, (s.afterAll calls).find? id = some r₁ ∧ r₁.IsRegisteredFrom r ∧
      (s.Along (fun s c => ¬ s.Rewrites id r c) calls → r₁ = r) ∧
      ∀ c, ((s.afterAll calls).after c).find? id = some r₁ ↔
        ¬ (s.afterAll calls).Rewrites id r₁ c := by
  have hnumbered := isNumbered_of_isReachable hs
  obtain ⟨r₁, hr₁, hregistered⟩ :=
    isRegisteredFrom_afterAll hnumbered hfinal hr (Row.isRegisteredFrom_refl r) calls
  refine ⟨r₁, hr₁, hregistered, fun halong => ?_, fun c => ?_⟩
  · have hkept : (s.afterAll calls).IsNumbered ∧ (s.afterAll calls).find? id = some r := by
      refine along_induction (I := fun s => s.IsNumbered ∧ s.find? id = some r) ?_ halong
        ⟨hnumbered, hr⟩
      rintro s c hnot ⟨hs, hr⟩
      exact ⟨isNumbered_after hs c, (find?_after_of_final hs hr hfinal c).mpr hnot⟩
    exact Option.some.inj (hr₁.symm.trans hkept.2)
  · have hs₁ : (s.afterAll calls).IsNumbered := by
      obtain ⟨before, rfl⟩ := hs
      exact isNumbered_of_isReachable ⟨before ++ calls, (List.foldl_append ..).symm⟩
    exact find?_after_of_final hs₁ hr₁ (hfinal.of_isRegisteredFrom hregistered) c

/-- A file that nobody found is dead.  The worker that held it before registers its hash, and
the row gets the hash and another instant. -/
theorem final_unless_registered_late :
    let s := (empty .embedded).afterAll [.enqueue seen (clock 0),
      .claim "a" (clock 0) (.ofSeconds 60), .claim "b" (clock 61) (.ofSeconds 60),
      .record 1 "b" (.dead "artifact not found in nowhere" none) none (clock 61)]
    ∃ r, s.find? 1 = some r ∧ r.isIn .dead = true ∧ r.contentHash = none ∧
      ¬ (s.after (.registerHash 1 "h" (clock 62) none)).find? 1 = some r := by
  intro s
  have hrow : ∃ r ∈ s.find? 1, r.isIn .dead = true ∧ r.contentHash = none := by decide +kernel
  obtain ⟨r, hr, hdead, hhash⟩ := hrow
  have hreachable : s.IsReachable := ⟨_, rfl⟩
  have haccepted : ∃ duplicate, (s.registerHash 1 "h" (clock 62) none).1 = .ok duplicate :=
    ⟨false, by rfl⟩
  clear_value s
  obtain ⟨r₁, -, -, hsame, hnext⟩ := final_unless_registered hreachable hr (.inr hdead) []
  obtain rfl := hsame trivial
  have hrewrites : s.Rewrites 1 r₁ (.registerHash 1 "h" (clock 62) none) :=
    ⟨rfl, haccepted, .inl hhash⟩
  exact ⟨r₁, hr, hdead, hhash, fun hkept => (hnext _).mp hkept hrewrites⟩

end Store

end ArtifactRelay.Backlog
