import ArtifactRelay.Proofs.Artifact.Choice
import ArtifactRelay.Worker.Cycle

/-!
# ArtifactRelay.Proofs.Artifact.Identity

Two places read the logged hash of an item.  The search of the directory trims it, and the identity
of an artifact that cannot be read takes it as it stands.  So the hash that is searched for is the
trimmed one of the identity (`searchHash_eq_bind`), and the two agree on the items whose logged hash
has nothing to trim (`standIn_eq_searchHash_iff`), such as every hash that a sensor's own record
brings (`trim_of_ofSensor`).

A file that is found by its content is read to be found, so its identity is the hash that was
searched for (`locate_of_hashScan`).
-/

namespace ArtifactRelay

open Text

namespace Artifact

variable {item : WorkItem}

/-! ## Texts with nothing to trim -/

/-- Lowering letters does not hide that a text was trimmed: the trimmed one is shorter. -/
theorem asciiLower_trim_eq_iff {s : String} :
    asciiLower (trim s) = asciiLower s ↔ trim s = s := by
  constructor
  · intro h
    have hlength : (trimList s.toList).length = s.toList.length := by
      simpa using congrArg (·.toList.length) h
    have hlist : trimList s.toList = s.toList := (isInfix_trimList _).sublist.eq_of_length hlength
    rw [trim, hlist, String.ofList_toList]
  · intro h
    rw [h]

theorem asciiLower_eq_empty_iff {s : String} : asciiLower s = "" ↔ s = "" := by
  rw [← String.toList_eq_nil_iff, toList_asciiLower, List.map_eq_nil_iff, String.toList_eq_nil_iff]

/-! ## The two readings of the logged hash -/

/-- The hash that stands in for what cannot be read. -/
def standIn (item : WorkItem) : Option String :=
  (item.loggedHash.filter (!·.isEmpty)).map asciiLower

theorem identify_none (item : WorkItem) :
    identify none item = (standIn item).elim .unknown .logged := by
  unfold identify standIn
  cases item.loggedHash with
  | none => rfl
  | some logged => by_cases h : logged = "" <;> simp [h, Option.filter]

theorem identify_none_hash? (item : WorkItem) : (identify none item).hash? = standIn item := by
  rw [identify_none]
  cases standIn item <;> rfl

theorem identify_none_eq_logged_iff {hash : String} :
    identify none item = .logged hash ↔ standIn item = some hash := by
  rw [identify_none]
  cases standIn item <;> simp

theorem identify_none_eq_unknown_iff : identify none item = .unknown ↔ standIn item = none := by
  rw [identify_none]
  cases standIn item <;> simp

/-- The search trims the hash by which an artifact that cannot be read is identified. -/
theorem searchHash_eq_bind (item : WorkItem) :
    searchHash item = (standIn item).bind nonBlank := by
  ext hash
  simp only [searchHash_eq_some_iff, IsSearchedBy, standIn, Option.bind_eq_some_iff,
    Option.map_eq_some_iff, Option.filter_eq_some_iff, nonBlank_eq_some_iff]
  constructor
  · rintro ⟨logged, hlogged, hleft, rfl⟩
    have hne : logged ≠ "" := by
      rintro rfl
      exact hleft rfl
    refine ⟨asciiLower logged, ⟨logged, ⟨hlogged, by simp [hne]⟩, rfl⟩, ?_, trim_asciiLower logged⟩
    rwa [trim_asciiLower, ne_eq, asciiLower_eq_empty_iff]
  · rintro ⟨_, ⟨logged, ⟨hlogged, -⟩, rfl⟩, hleft, rfl⟩
    rw [trim_asciiLower, ne_eq, asciiLower_eq_empty_iff] at hleft
    exact ⟨logged, hlogged, hleft, (trim_asciiLower logged).symm⟩

/-- The two readings give one hash if the logged one has nothing to trim. -/
theorem standIn_eq_searchHash_iff :
    standIn item = searchHash item ↔
      ∀ logged, item.loggedHash = some logged → trim logged = logged := by
  rw [searchHash_eq_bind, standIn]
  cases item.loggedHash with
  | none => simp
  | some logged =>
    by_cases hempty : logged = ""
    · subst hempty
      simp [Option.filter, show trim "" = "" by decide]
    · simp only [Option.some.injEq, forall_eq']
      rw [Option.filter_some_pos (by simp [hempty]), Option.map_some, Option.bind_some, eq_comm,
        nonBlank_eq_some_iff, trim_asciiLower, asciiLower_trim_eq_iff, ne_eq,
        asciiLower_eq_empty_iff]
      refine and_iff_right_of_imp fun htrim => ?_
      rwa [htrim]

/-- A sensor's own record brings no hash that has anything to trim. -/
theorem trim_of_ofSensor {address logged : String} {filename storedName loggedHash : Option String}
    (h : (Observation.ofSensor address filename storedName loggedHash).loggedHash = some logged) :
    trim logged = logged := by
  obtain ⟨text, -, rfl⟩ := Option.map_eq_some_iff.mp h
  rw [trim_asciiLower, trim_trim]

/-! ## Files that are found by their content -/

/-- What is found by its content has the hash that was searched for. -/
theorem locate_of_hashScan {folder : Folder} {limit : Nat} {name : Name}
    (hnames : folder.HasDistinctNames)
    (h : folder.resolve limit item = some ⟨name, .hashScan⟩) :
    ∃ hash, searchHash item = some hash ∧
      Worker.locate limit (some folder) item = some (name, .computed hash) := by
  have hfound : folder.byContent limit item = some name := (Folder.resolve_eq_some_iff.mp h).1
  obtain ⟨hash, hsearch, hscan⟩ := Option.bind_eq_some_iff.mp hfound
  obtain ⟨e, he, rfl⟩ := Option.map_eq_some_iff.mp hscan
  have hmem : e ∈ folder :=
    (Folder.mem_files_iff.mp (List.mem_of_mem_take (List.mem_of_find?_eq_some he))).1
  have hcontent := List.find?_some he
  simp only [Option.any_eq_true, beq_iff_eq] at hcontent
  obtain ⟨bytes, hbytes, hhash⟩ := hcontent
  have hentry : folder.find? e.name = some e := (Folder.find?_eq_some_iff hnames).mpr ⟨hmem, rfl⟩
  refine ⟨hash, hsearch, ?_⟩
  simp [Worker.locate, h, hentry, hbytes, identify, hhash]

/-- The search and the identity of what cannot be read agree on an item's logged hash if and only if
it has nothing to trim; in every other case the search has the trimmed hash of the identity, and
none if that is blank.  What is found by its content is identified by the hash that was searched
for. -/
theorem identify_agrees_iff (item : WorkItem) :
    (((∀ hash, identify none item = .logged hash ↔ searchHash item = some hash) ∧
        (identify none item = .unknown ↔ searchHash item = none)) ↔
      ∀ logged, item.loggedHash = some logged → trim logged = logged) ∧
    searchHash item = (identify none item).hash?.bind nonBlank ∧
    ∀ (folder : Folder) (limit : Nat) (name : Name), folder.HasDistinctNames →
      folder.resolve limit item = some ⟨name, .hashScan⟩ →
      ∃ hash, searchHash item = some hash ∧
        Worker.locate limit (some folder) item = some (name, .computed hash) := by
  rw [identify_none_hash?, ← standIn_eq_searchHash_iff, identify_none_eq_unknown_iff]
  refine ⟨?_, searchHash_eq_bind item, fun folder limit name => locate_of_hashScan⟩
  simp only [identify_none_eq_logged_iff]
  constructor
  · rintro ⟨hsome, -⟩
    exact Option.ext hsome
  · intro heq
    simp [heq]

namespace Folder

/-- An item of which only a hash was logged, and a blank before it. -/
def blankLogged : WorkItem :=
  { sought (some loggedEmptyHash) with filenameHint := none, storedNameHint := none }

/-- The file is found by the trimmed hash and has it, but unread it would have another. -/
theorem identify_agrees_iff_blank :
    (∃ name hash, pair.resolve 1 blankLogged = some ⟨name, .hashScan⟩ ∧
      searchHash blankLogged = some hash ∧
      Worker.locate 1 (some pair) blankLogged = some (name, .computed hash)) ∧
    identify none blankLogged = .logged (" " ++ emptyHash) ∧
    ¬ ∀ hash, identify none blankLogged = .logged hash ↔ searchHash blankLogged = some hash := by
  have hhash : searchHash blankLogged = some emptyHash := by decide +kernel
  have hname : pair.byHashName blankLogged = none := by
    unfold byHashName
    rw [hhash, Option.bind_some, direct_pair.1, direct_pair.2]
    rfl
  have hcontent : pair.byContent 1 blankLogged = some (utf8 "b") := by
    unfold byContent
    rw [hhash, recent_pair.1]
    simp [pair, Entry.content?, hex_empty]
  have hstored : pair.byStoredName blankLogged = none := rfl
  have hstub : pair.byFilename 1 blankLogged = none := rfl
  have hfound : pair.resolve 1 blankLogged = some ⟨utf8 "b", .hashScan⟩ := by
    simp [resolve, hstored, hname, hstub, hcontent]
  obtain ⟨hagree, -, hlocate⟩ := identify_agrees_iff blankLogged
  obtain ⟨hash, hsearch, hidentity⟩ := hlocate pair 1 _ distinctNames_pair hfound
  have hlogged : identify none blankLogged = .logged (" " ++ emptyHash) := by decide +kernel
  refine ⟨⟨_, hash, hfound, hsearch, hidentity⟩, hlogged, fun hsame => ?_⟩
  have htrim := hagree.mp ⟨hsame, by rw [hlogged, hhash]; simp⟩ loggedEmptyHash rfl
  exact absurd htrim (by decide +kernel)

end Folder

end Artifact

end ArtifactRelay
