import ArtifactRelay.Backlog.Database
import ArtifactRelay.Proofs.Backlog.Exclusivity

/-!
# ArtifactRelay.Proofs.Backlog.Naming

What two names mean in a database in a file.  Names that pass `Tables.check` differ as texts, but
the database does not look at the case of their letters, and what exists already is taken as it is.
So two names of one spelling are opened without a complaint, and mean one table
(`openTables_of_coinciding`).

Opening makes what is missing and leaves what is there (`Keeps`), so afterwards the backlog stands
under its name and the results under theirs, unless the two are one (`isOpen_of_openTables`).  Calls
work on the store of the two tables and on nothing else (`store_afterCalls`).  From then on every
registration is answered if the names differ also in lower case.  If they do not, it fails unless
the backlog itself has a duplicate (`registerHash_of_openTables`).
-/

namespace ArtifactRelay.Backlog

open Text Time

namespace Database

variable {d after : Database} {name : String}

/-! ## What stands under a name -/

@[simp] theorem find?_insert_self (d : Database) (name : String) (r : Relation) :
    (d.insert name r).find? name = some r := by
  simp [insert, find?]

theorem find?_insert_ne (d : Database) {key : String} (r : Relation) (h : name ≠ key) :
    (d.insert key r).find? name = d.find? name := by
  unfold insert find?
  rw [List.find?_cons_of_neg (by simpa using Ne.symm h), List.find?_filter]
  congr 2
  funext entry
  by_cases hname : entry.1 = name <;> simp [hname, h]

/-- A step leaves what stands under a name, or puts something under a name where nothing stood. -/
def Keeps (d after : Database) : Prop :=
  ∀ name, after.find? name = d.find? name ∨ d.find? name = none

theorem Keeps.refl (d : Database) : d.Keeps d := fun _ => .inl rfl

theorem Keeps.trans {later : Database} (h : d.Keeps after) (h' : after.Keeps later) :
    d.Keeps later := by
  intro name
  rcases h name with hsame | hnone
  · rw [← hsame]
    exact h' name
  · exact .inr hnone

/-- What was there is still there. -/
theorem Keeps.find? (h : d.Keeps after) {r : Relation} (hr : d.find? name = some r) :
    after.find? name = some r := by
  rcases h name with hsame | hnone
  · rw [hsame, hr]
  · rw [hnone] at hr
    cases hr

theorem keeps_insert (h : d.find? name = none) (r : Relation) : d.Keeps (d.insert name r) := by
  intro other
  by_cases hother : other = name
  · exact .inr (hother ▸ h)
  · exact .inl (find?_insert_ne d r hother)

/-- A table is made where nothing stood, or was there. -/
theorem ensureTable_cases {fresh : Relation} (h : d.ensureTable name fresh = some after) :
    (d.find? name = none ∧ after = d.insert name fresh) ∨
      (∃ r, d.find? name = some r ∧ hasHashes r = true) ∧ after = d := by
  unfold ensureTable at h
  split at h
  · cases h
  · split at h
    · rename_i hnone
      cases h
      exact .inl ⟨hnone, rfl⟩
    · cases h
    · rename_i r hindex hr
      cases h
      refine .inr ⟨⟨r, hr, ?_⟩, rfl⟩
      cases r with
      | index => exact absurd rfl hindex
      | _ => rfl

/-- An index is made where nothing stood, or was there. -/
theorem ensureIndex_cases {table : String} {suits : Relation → Bool}
    (h : d.ensureIndex name table suits = some after) :
    (d.find? name = none ∧ after = d.insert name .index) ∨ after = d := by
  unfold ensureIndex at h
  split at h
  · cases h
    exact .inr rfl
  · cases h
  · rename_i hnone
    split at h
    · cases h
      exact .inl ⟨hnone, rfl⟩
    · cases h

/-- After an index was asked for there is one of that name. -/
theorem find?_ensureIndex_self {table : String} {suits : Relation → Bool}
    (h : d.ensureIndex name table suits = some after) : after.find? name = some .index := by
  unfold ensureIndex at h
  split at h
  · rename_i hindex
    cases h
    exact hindex
  · cases h
  · split at h
    · cases h
      exact find?_insert_self ..
    · cases h

theorem keeps_of_ensureTable {fresh : Relation} (h : d.ensureTable name fresh = some after) :
    d.Keeps after := by
  rcases ensureTable_cases h with ⟨hnone, rfl⟩ | ⟨-, rfl⟩
  · exact keeps_insert hnone fresh
  · exact Keeps.refl _

theorem keeps_of_ensureIndex {table : String} {suits : Relation → Bool}
    (h : d.ensureIndex name table suits = some after) : d.Keeps after := by
  rcases ensureIndex_cases h with ⟨hnone, rfl⟩ | rfl
  · exact keeps_insert hnone .index
  · exact Keeps.refl _

/-- No table stands where nothing stood before an index was made. -/
theorem find?_of_ensureIndex {table : String} {suits : Relation → Bool} {key : String}
    (h : d.ensureIndex key table suits = some after) {r : Relation}
    (hr : after.find? name = some r) (hashes : hasHashes r = true) : d.find? name = some r := by
  rcases ensureIndex_cases h with ⟨-, rfl⟩ | rfl
  · by_cases hname : name = key
    · rw [hname, find?_insert_self] at hr
      cases hr
      cases hashes
    · rwa [find?_insert_ne d _ hname] at hr
  · exact hr

/-! ## Opening -/

/-- What stands under the names already are the tables that they are names of. -/
structure Fits (d : Database) (t : Tables) : Prop where
  backlog : ∀ r ∈ d.find? (asciiLower t.backlog), hasItems r = true
  results : asciiLower t.backlog ≠ asciiLower t.results →
    ∀ r ∈ d.find? (asciiLower t.results), hasReports r = true

/-- The backlog stands under its name, and the results under theirs if it is another one. -/
structure IsOpen (d : Database) (t : Tables) : Prop where
  backlog : ∃ rows lastId, d.find? (asciiLower t.backlog) = some (.backlog rows lastId)
  results : asciiLower t.backlog ≠ asciiLower t.results →
    ∃ reports, d.find? (asciiLower t.results) = some (.results reports)

theorem fits_empty (t : Tables) : empty.Fits t where
  backlog _ hr := nomatch hr
  results _ _ hr := nomatch hr

theorem exists_backlog {r : Relation} (h : hasItems r = true) :
    ∃ rows lastId, r = .backlog rows lastId := by
  cases r with
  | backlog rows lastId => exact ⟨rows, lastId, rfl⟩
  | _ => cases h

theorem exists_results {r : Relation} (h : hasReports r = true) :
    ∃ reports, r = .results reports := by
  cases r with
  | results reports => exact ⟨reports, rfl⟩
  | _ => cases h

theorem advance_cons {step : Database → Option (Database)}
    {steps : List (Database → Option (Database))}
    (h : d.advance (step :: steps) = (true, after)) :
    ∃ next, step d = some next ∧ next.advance steps = (true, after) := by
  unfold advance at h
  split at h
  · rename_i next hnext
    exact ⟨next, hnext, h⟩
  · cases h

theorem advance_nil (h : d.advance [] = (true, after)) : after = d :=
  (congrArg Prod.snd h).symm

variable {t : Tables}

theorem openTables_eq_ok (h : (d.openTables t).1 = .ok ()) :
    d.advance (openingSteps t) = (true, (d.openTables t).2) := by
  unfold openTables at h ⊢
  split at h
  · cases h
  · generalize d.advance (openingSteps t) = result at h ⊢
    obtain ⟨done, after⟩ := result
    cases done with
    | true => rfl
    | false => cases h

/-- After a successful opening each table stands under its name. -/
theorem isOpen_of_openTables (hd : d.Fits t) (h : (d.openTables t).1 = .ok ()) :
    (d.openTables t).2.IsOpen t := by
  have hsteps := openTables_eq_ok h
  generalize (d.openTables t).2 = after at hsteps
  unfold openingSteps at hsteps
  obtain ⟨d₁, h₁, hsteps⟩ := advance_cons hsteps
  obtain ⟨d₂, h₂, hsteps⟩ := advance_cons hsteps
  obtain ⟨d₃, h₃, hsteps⟩ := advance_cons hsteps
  obtain ⟨d₄, h₄, hsteps⟩ := advance_cons hsteps
  obtain ⟨d₅, h₅, hsteps⟩ := advance_cons hsteps
  obtain rfl := advance_nil hsteps
  have hlast := keeps_of_ensureIndex h₅
  have hrest := (keeps_of_ensureIndex h₂).trans ((keeps_of_ensureIndex h₃).trans
    ((keeps_of_ensureTable h₄).trans hlast))
  constructor
  · rcases ensureTable_cases h₁ with ⟨-, rfl⟩ | ⟨⟨r, hr, -⟩, rfl⟩
    · exact ⟨[], 0, hrest.find? (find?_insert_self ..)⟩
    · obtain ⟨rows, lastId, rfl⟩ := exists_backlog (hd.backlog r hr)
      exact ⟨rows, lastId, hrest.find? hr⟩
  · intro hne
    rcases ensureTable_cases h₄ with ⟨-, rfl⟩ | ⟨⟨r, hr, hhashes⟩, rfl⟩
    · exact ⟨[], hlast.find? (find?_insert_self ..)⟩
    · -- what was taken for the results is no index, and not the backlog, so it stood there before
      have hfirst := find?_of_ensureIndex h₂ (find?_of_ensureIndex h₃ hr hhashes) hhashes
      have hbefore : d.find? (asciiLower t.results) = some r := by
        rcases ensureTable_cases h₁ with ⟨-, rfl⟩ | ⟨-, rfl⟩
        · rwa [find?_insert_ne d _ hne.symm] at hfirst
        · exact hfirst
      obtain ⟨reports, rfl⟩ := exists_results (hd.results hne r hbefore)
      exact ⟨reports, hlast.find? hr⟩

/-- Names of one spelling are opened wherever the backlog's own table and indexes can be made, and
nothing is made beside them. -/
theorem openTables_of_coinciding (hcheck : t.check = .ok ())
    (hsame : asciiLower t.backlog = asciiLower t.results) (hd : d.Fits t)
    (h : d.advance ((openingSteps t).take 3) = (true, after)) :
    d.openTables t = (.ok (), after) := by
  obtain ⟨d₁, h₁, hsteps⟩ := advance_cons h
  obtain ⟨d₂, h₂, hsteps⟩ := advance_cons hsteps
  obtain ⟨d₃, h₃, hsteps⟩ := advance_cons hsteps
  obtain rfl := advance_nil hsteps
  have hfree : isReserved (asciiLower t.backlog) = false := by
    refine Bool.eq_false_iff.mpr fun hreserved => ?_
    rw [ensureTable, if_pos hreserved] at h₁
    cases h₁
  have hmade : ∃ r, d₁.find? (asciiLower t.backlog) = some r ∧ hasHashes r = true := by
    rcases ensureTable_cases h₁ with ⟨-, rfl⟩ | ⟨hstands, rfl⟩
    · exact ⟨_, find?_insert_self .., rfl⟩
    · exact hstands
  obtain ⟨r, hr, hhashes⟩ := hmade
  have hstill := ((keeps_of_ensureIndex h₂).trans (keeps_of_ensureIndex h₃)).find? hr
  -- the table of the results and its index are there already: they are the backlog's
  have h₄ : after.ensureTable (asciiLower t.results) (.results []) = some after := by
    rw [← hsame, ensureTable, hfree, hstill]
    cases r with
    | index => cases hhashes
    | _ => rfl
  have h₅ : after.ensureIndex (hashIndex (asciiLower t.results)) (asciiLower t.results) hasReports =
      some after := by
    rw [← hsame, ensureIndex, find?_ensureIndex_self h₃]
  have hall : d.advance (openingSteps t) = (true, after) := by
    simp only [openingSteps, advance, h₁, h₂, h₃, h₄, h₅]
  rw [openTables, hcheck]
  simp only [hall]
  rfl

theorem length_claimIndex (table : String) : (claimIndex table).length = table.length + 14 := by
  simp only [claimIndex, String.length_append, show "idx_".length = 4 from rfl,
    show "_claimable".length = 10 from rfl]
  omega

theorem length_hashIndex (table : String) : (hashIndex table).length = table.length + 9 := by
  simp only [hashIndex, String.length_append, show "idx_".length = 4 from rfl,
    show "_hash".length = 5 from rfl]
  omega

/-- Where nothing stands yet, a backlog is made under every name that is not reserved. -/
theorem exists_advance_empty (hfree : isReserved (asciiLower t.backlog) = false) :
    ∃ after, empty.advance ((openingSteps t).take 3) = (true, after) := by
  have hne {a b : String} (h : a.length ≠ b.length) : a ≠ b := fun heq => h (congrArg _ heq)
  have hclaim : claimIndex (asciiLower t.backlog) ≠ asciiLower t.backlog :=
    hne (by rw [length_claimIndex]; omega)
  have hhash : hashIndex (asciiLower t.backlog) ≠ asciiLower t.backlog :=
    hne (by rw [length_hashIndex]; omega)
  have hother : hashIndex (asciiLower t.backlog) ≠ claimIndex (asciiLower t.backlog) :=
    hne (by rw [length_hashIndex, length_claimIndex]; omega)
  have hnothing : ∀ name, empty.find? name = none := fun _ => rfl
  simp [openingSteps, advance, ensureTable, ensureIndex, hfree, hnothing, find?_insert_ne, hclaim,
    hhash, hother, hclaim.symm, hasItems, hasHashes]

/-! ## Calls -/

/-- The store of two open tables has results unless the tables are one. -/
theorem IsOpen.isSome_reports_iff (h : d.IsOpen t) :
    (d.store t).reports.isSome = true ↔ asciiLower t.backlog ≠ asciiLower t.results := by
  obtain ⟨rows, lastId, hbacklog⟩ := h.backlog
  unfold store
  rw [hbacklog]
  constructor
  · intro hsome heq
    rw [← heq, hbacklog] at hsome
    cases hsome
  · intro hne
    obtain ⟨reports, hreports⟩ := h.results hne
    rw [hreports]
    rfl

/-- What is written to two open tables is read from them, if it has results as they have. -/
theorem IsOpen.store_putStore (h : d.IsOpen t) {s : Store .embedded}
    (hs : s.reports.isSome = (d.store t).reports.isSome) :
    (d.putStore t s).store t = s ∧ (d.putStore t s).IsOpen t := by
  have hiff := h.isSome_reports_iff
  rw [← hs] at hiff
  obtain ⟨rows, lastId, reports⟩ := s
  by_cases hne : asciiLower t.backlog = asciiLower t.results
  · have hnone : reports = none :=
      Option.not_isSome_iff_eq_none.mp fun hsome => hiff.mp hsome hne
    subst hnone
    refine ⟨?_, ⟨rows, lastId, find?_insert_self ..⟩, fun h => absurd hne h⟩
    simp [store, putStore, ← hne]
  · obtain ⟨reports, rfl⟩ := Option.isSome_iff_exists.mp (hiff.mpr hne)
    have hbacklog : (putStore d t ⟨rows, lastId, some reports⟩).find? (asciiLower t.backlog) =
        some (.backlog rows lastId) := by
      simp [putStore, find?_insert_ne _ _ hne]
    have hresults : (putStore d t ⟨rows, lastId, some reports⟩).find? (asciiLower t.results) =
        some (.results reports) := by
      simp [putStore]
    refine ⟨?_, ⟨rows, lastId, hbacklog⟩, fun _ => ⟨reports, hresults⟩⟩
    unfold store
    rw [hbacklog, hresults]

/-- The database after calls on the store of two tables. -/
def afterCalls (d : Database) (t : Tables) (calls : List Call) : Database :=
  calls.foldl (fun d c => (d.withStore t fun s => ((), s.after c)).2) d

/-- Calls on the store of two open tables lead where they lead on the store itself. -/
theorem IsOpen.store_afterCalls (h : d.IsOpen t) (calls : List Call) :
    (d.afterCalls t calls).store t = (d.store t).afterAll calls ∧
      (d.afterCalls t calls).IsOpen t := by
  induction calls generalizing d with
  | nil => exact ⟨rfl, h⟩
  | cons c calls ih =>
    obtain ⟨hstore, hopen⟩ := h.store_putStore (Store.isSome_reports_after (d.store t) c)
    obtain ⟨hcalls, hstill⟩ := ih hopen
    rw [hstore] at hcalls
    exact ⟨hcalls, hstill⟩

end Database

namespace Store

variable {s : Store .embedded} {id : Int} {hash : String} {now : Instant} {since : Option Instant}

/-- In a file the results are asked for last, so without them a registration is answered only where
the backlog has a duplicate. -/
theorem registerHash_of_no_reports (hreports : s.reports = none) :
    s.registerHash id hash now since =
      if s.rows.any (·.duplicates .embedded id hash now.toMicros (since.map (·.toMicros))) then
        (.ok true, s.modify id (·.register hash now.toMicros))
      else (.error .storage, s) := by
  have hstamp : Medium.embedded.stamp now = .ok now.toMicros := rfl
  have hhash : Medium.embedded.requireText hash = .ok () := rfl
  unfold registerHash
  simp only [bind, Except.bind, hhash, hstamp, Medium.stampOption_embedded, reports_modify, hreports,
    s.any_duplicates_modify id (fun r => Row.id_register r hash now.toMicros)]
  cases hknown : s.rows.any
    (·.duplicates .embedded id hash now.toMicros (since.map (·.toMicros))) <;> rfl

end Store

namespace Database

variable {t : Tables}

/-- Accepted names are two tables if they differ in lower case, too.  Then, on a database whose
tables are what the names say, every registration is answered, whatever was called before.  If they
do not differ, a new file takes them without a complaint all the same, unless they are reserved.
Then a registration is answered only where the backlog itself has a duplicate; everywhere else it
fails without a trace. -/
theorem registerHash_of_openTables (ht : t.check = .ok ()) :
    (asciiLower t.backlog = asciiLower t.results → isReserved (asciiLower t.backlog) = false →
      (empty.openTables t).1 = .ok ()) ∧
    ∀ d : Database, d.Fits t → (d.openTables t).1 = .ok () → ∀ calls id hash now since,
      let s := ((d.openTables t).2.afterCalls t calls).store t
      (asciiLower t.backlog ≠ asciiLower t.results →
        ∃ found, (s.registerHash id hash now since).1 = .ok found) ∧
      (asciiLower t.backlog = asciiLower t.results →
        s.registerHash id hash now since =
          if s.rows.any (·.duplicates .embedded id hash now.toMicros (since.map (·.toMicros))) then
            (.ok true, s.modify id (·.register hash now.toMicros))
          else (.error .storage, s)) := by
  refine ⟨fun hsame hfree => ?_, fun d hd hopen calls id hash now since => ?_⟩
  · obtain ⟨after, hafter⟩ := exists_advance_empty hfree
    rw [openTables_of_coinciding ht hsame (fits_empty t) hafter]
  · intro s
    have hiff := ((isOpen_of_openTables hd hopen).store_afterCalls calls).2.isSome_reports_iff
    refine ⟨fun hne => ?_, fun hsame => ?_⟩
    · exact ⟨_, congrArg Prod.fst (Store.registerHash_of_kept rfl rfl
        (Medium.stampOption_embedded since) (hiff.mpr hne))⟩
    · exact Store.registerHash_of_no_reports
        (Option.not_isSome_iff_eq_none.mp fun hsome => hiff.mp hsome hsame)

/-- Two spellings of one name: they pass, they are opened, and the first registration fails. -/
theorem registerHash_of_openTables_recased :
    let t : Tables := ⟨"jobs", "JOBS"⟩
    let s := ((empty.openTables t).2.afterCalls t
      [.enqueue Store.seen (Store.clock 0)]).store t
    t.check = .ok () ∧ (empty.openTables t).1 = .ok () ∧
      s.registerHash 1 "h" (Store.clock 0) none = (.error .storage, s) := by
  intro t s
  have hcheck : t.check = .ok () := Tables.check_eq_ok_iff.mpr (by decide)
  obtain ⟨hopens, hregister⟩ := registerHash_of_openTables hcheck
  have hopen := hopens (by decide) (by decide)
  refine ⟨hcheck, hopen, ?_⟩
  have hanswer := (hregister _ (fits_empty t) hopen [.enqueue Store.seen (Store.clock 0)] 1 "h"
    (Store.clock 0) none).2 (by decide)
  have hunique : s.rows.any (·.duplicates .embedded 1 "h" (Store.clock 0).toMicros none) = false :=
    by decide +kernel
  exact hanswer.trans (if_neg (Bool.eq_false_iff.mp hunique))

end Database

end ArtifactRelay.Backlog
