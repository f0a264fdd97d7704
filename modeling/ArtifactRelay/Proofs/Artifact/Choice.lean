import ArtifactRelay.Proofs.Artifact.Hints
import ArtifactRelay.Proofs.Artifact.Recent

/-!
# ArtifactRelay.Proofs.Artifact.Choice

Which file of a directory is taken for an item.  What each strategy offers is said here of the directory
as a set of entries (`Offers`), and the file that is found is what the first strategy that offers
anything offers (`resolve_exact`).  So the order in which the directory is listed does not matter,
as long as no two files were changed at one time.

The two strategies that go by a name do not scan.  A scan of more files goes on where the scan of
fewer ended, so with a larger limit each strategy still offers what it offered, and only one that
offered nothing may come in before (`resolve_of_le`).
-/

namespace ArtifactRelay.Artifact

open Text

/-- The place of a strategy in the order in which they are tried. -/
def Strategy.rank : Strategy → Nat
  | storedName => 0
  | hashName => 1
  | filenameScan => 2
  | hashScan => 3

theorem Strategy.forall_iff {p : Strategy → Prop} :
    (∀ s, p s) ↔ p .storedName ∧ p .hashName ∧ p .filenameScan ∧ p .hashScan := by
  constructor
  · intro h
    exact ⟨h _, h _, h _, h _⟩
  · rintro ⟨hstored, hhash, hfilename, hcontent⟩ s
    cases s <;> assumption

theorem Strategy.rank_injective {s t : Strategy} (h : s.rank = t.rank) : s = t := by
  cases s <;> cases t <;> simp [rank] at h ⊢

/-- Only one strategy comes after one that scans. -/
theorem Strategy.scans_of_rank_lt {s t : Strategy} (hs : 2 ≤ s.rank) (h : s.rank < t.rank) :
    t = .hashScan ∧ s = .filenameScan := by
  cases s <;> cases t <;> simp [rank] at hs h ⊢

namespace Folder

/-! ## What the strategies offer -/

/-- Something is found under the last component of a path. -/
def LeadsTo (folder : Folder) (path : String) (name : Name) : Prop :=
  finalComponent? (utf8 path) = some name ∧
    ∃ e ∈ folder, e.name = name ∧ e.leadsSomewhere = true

/-- What each strategy offers for an item. -/
def Offers (folder : Folder) (limit : Nat) (item : WorkItem) : Strategy → Name → Prop
  | .storedName, name =>
    ∃ hint, item.storedNameHint = some hint ∧ folder.LeadsTo (trim hint) name
  | .hashName, name =>
    ∃ hash, IsSearchedBy item hash ∧
      (folder.LeadsTo hash name ∨
        (∀ other, ¬ folder.LeadsTo hash other) ∧ folder.LeadsTo (hash ++ ".bin") name)
  | .filenameScan, name =>
    ∃ hint stub, item.filenameHint = some hint ∧ trim hint ≠ "" ∧ IsStub (trim hint) stub ∧
      ∃ e, folder.IsLatest limit
        (fun e => ∃ s, utf8 s = e.name ∧ stub.toList <:+: s.toList) e ∧ e.name = name
  | .hashScan, name =>
    ∃ hash, IsSearchedBy item hash ∧
      ∃ e, folder.IsLatest limit
        (fun e => ∃ bytes, e.content? = some bytes ∧ Sha256.hex bytes = hash) e ∧ e.name = name

/-- What the first strategy that offers anything offers. -/
def IsChoice (folder : Folder) (limit : Nat) (item : WorkItem) (located : Located) : Prop :=
  folder.Offers limit item located.strategy located.name ∧
    ∀ s, s.rank < located.strategy.rank → ∀ name, ¬ folder.Offers limit item s name

/-- The entry that a strategy finds. -/
def chosen (folder : Folder) (limit : Nat) (item : WorkItem) : Strategy → Option Name
  | .storedName => folder.byStoredName item
  | .hashName => folder.byHashName item
  | .filenameScan => folder.byFilename limit item
  | .hashScan => folder.byContent limit item

variable {folder listed : Folder} {limit : Nat} {item : WorkItem} {name : Name}

theorem direct_eq_some_iff (h : folder.HasDistinctNames) {hint : String} :
    folder.direct hint = some name ↔ folder.LeadsTo (trim hint) name := by
  unfold direct LeadsTo
  constructor
  · intro hdirect
    obtain ⟨final, hfinal, hdirect⟩ := Option.bind_eq_some_iff.mp hdirect
    obtain ⟨e, he, hdirect⟩ := Option.bind_eq_some_iff.mp hdirect
    split at hdirect
    · rename_i hleads
      cases hdirect
      obtain ⟨hmem, hname⟩ := (find?_eq_some_iff h).mp he
      exact ⟨hfinal, e, hmem, hname, hleads⟩
    · cases hdirect
  · rintro ⟨hfinal, e, hmem, hname, hleads⟩
    have he := (find?_eq_some_iff h).mpr ⟨hmem, hname⟩
    simp [hfinal, he, hleads]

theorem byStoredName_eq_some_iff (h : folder.HasDistinctNames) :
    folder.byStoredName item = some name ↔ folder.Offers limit item .storedName name := by
  simp only [byStoredName, Option.bind_eq_some_iff, direct_eq_some_iff h, Offers]

theorem byHashName_eq_some_iff (h : folder.HasDistinctNames) :
    folder.byHashName item = some name ↔ folder.Offers limit item .hashName name := by
  simp only [byHashName, Option.bind_eq_some_iff, searchHash_eq_some_iff, Offers]
  refine exists_congr fun hash => and_congr_right fun hsearched => ?_
  have hfirst : ∀ other, folder.direct hash = some other ↔ folder.LeadsTo hash other := by
    intro other
    rw [direct_eq_some_iff h, hsearched.trim_eq]
  have hsecond : folder.direct (hash ++ ".bin") = some name ↔
      folder.LeadsTo (hash ++ ".bin") name := by
    rw [direct_eq_some_iff h, hsearched.trim_append]
  rw [← hfirst name, ← hsecond]
  simp only [← hfirst]
  cases folder.direct hash <;> simp

theorem byFilename_eq_some_iff (h : folder.HasDistinctTimes) :
    folder.byFilename limit item = some name ↔ folder.Offers limit item .filenameScan name := by
  simp only [byFilename, Option.bind_eq_some_iff, Option.map_eq_some_iff, searchStub_eq_some_iff,
    find?_recent_eq_some_iff h, nameHolds_iff, Offers]
  constructor
  · rintro ⟨stub, ⟨hint, hhint, hblank, hstub⟩, he⟩
    exact ⟨hint, stub, hhint, hblank, hstub, he⟩
  · rintro ⟨hint, stub, hhint, hblank, hstub, he⟩
    exact ⟨stub, ⟨hint, hhint, hblank, hstub⟩, he⟩

theorem byContent_eq_some_iff (h : folder.HasDistinctTimes) :
    folder.byContent limit item = some name ↔ folder.Offers limit item .hashScan name := by
  simp only [byContent, Option.bind_eq_some_iff, Option.map_eq_some_iff, searchHash_eq_some_iff,
    find?_recent_eq_some_iff h, Option.any_eq_true, beq_iff_eq, Offers]

theorem chosen_eq_some_iff (hnames : folder.HasDistinctNames) (htimes : folder.HasDistinctTimes)
    {s : Strategy} :
    folder.chosen limit item s = some name ↔ folder.Offers limit item s name := by
  cases s with
  | storedName => exact byStoredName_eq_some_iff hnames
  | hashName => exact byHashName_eq_some_iff hnames
  | filenameScan => exact byFilename_eq_some_iff htimes
  | hashScan => exact byContent_eq_some_iff htimes

theorem chosen_eq_none_iff (hnames : folder.HasDistinctNames) (htimes : folder.HasDistinctTimes)
    {s : Strategy} :
    folder.chosen limit item s = none ↔ ∀ name, ¬ folder.Offers limit item s name := by
  simp only [← chosen_eq_some_iff hnames htimes, Option.eq_none_iff_forall_ne_some, ne_eq]

/-! ## The first offer -/

theorem resolve_eq_some_iff {located : Located} :
    folder.resolve limit item = some located ↔
      folder.chosen limit item located.strategy = some located.name ∧
        ∀ s, s.rank < located.strategy.rank → folder.chosen limit item s = none := by
  obtain ⟨name, s⟩ := located
  rw [Strategy.forall_iff]
  unfold resolve
  split
  · cases s <;> simp [chosen, Strategy.rank, *]
  · split
    · cases s <;> simp [chosen, Strategy.rank, *]
    · split <;> cases s <;> simp [chosen, Strategy.rank, *]

theorem resolve_eq_none_iff :
    folder.resolve limit item = none ↔ ∀ s, folder.chosen limit item s = none := by
  rw [Strategy.forall_iff]
  unfold resolve chosen
  split
  · simp [*]
  · split
    · simp [*]
    · split <;> simp [*]

/-- The order of the listing does not matter for what a strategy finds. -/
theorem chosen_perm (hnames : folder.HasDistinctNames) (htimes : folder.HasDistinctTimes)
    (hperm : listed.Perm folder) (s : Strategy) :
    listed.chosen limit item s = folder.chosen limit item s := by
  have hdirect : ∀ hint, listed.direct hint = folder.direct hint := by
    intro hint
    simp only [direct, find?_perm hnames hperm]
  cases s with
  | storedName => simp only [chosen, byStoredName, funext hdirect]
  | hashName => simp only [chosen, byHashName, hdirect]
  | filenameScan => simp only [chosen, byFilename, recent_perm htimes hperm]
  | hashScan => simp only [chosen, byContent, recent_perm htimes hperm]

/-- The order of the listing does not matter for what is found. -/
theorem resolve_perm (hnames : folder.HasDistinctNames) (htimes : folder.HasDistinctTimes)
    (hperm : listed.Perm folder) : listed.resolve limit item = folder.resolve limit item := by
  ext located
  simp only [resolve_eq_some_iff, chosen_perm hnames htimes hperm]

/-- In a directory whose regular files were changed at times that differ, the file that is found for an
item is what the first strategy that offers anything offers, in whatever order the directory is
listed.  Nothing is found if no strategy offers anything, or if the directory is missing. -/
theorem resolve_exact {found : Option Folder}
    (hnames : ∀ folder, found = some folder → folder.HasDistinctNames)
    (htimes : ∀ folder, found = some folder → folder.HasDistinctTimes) (limit : Nat)
    (item : WorkItem) :
    (∀ located, (found.bind fun folder => folder.resolve limit item) = some located ↔
      ∃ folder, found = some folder ∧ folder.IsChoice limit item located) ∧
    ((found.bind fun folder => folder.resolve limit item) = none ↔
      found = none ∨
        ∃ folder, found = some folder ∧ ∀ s name, ¬ folder.Offers limit item s name) ∧
    ∀ folder, found = some folder → ∀ listed : Folder, listed.Perm folder →
      listed.resolve limit item = folder.resolve limit item := by
  cases found with
  | none => simp
  | some folder =>
    have hn := hnames folder rfl
    have ht := htimes folder rfl
    refine ⟨fun located => ?_, ?_, fun other hother listed hperm => ?_⟩
    · simp only [Option.bind_some, Option.some.injEq, exists_eq_left', resolve_eq_some_iff, IsChoice,
        chosen_eq_some_iff hn ht, chosen_eq_none_iff hn ht]
    · simp only [Option.bind_some, Option.some.injEq, exists_eq_left', resolve_eq_none_iff,
        chosen_eq_none_iff hn ht, reduceCtorEq, false_or]
    · cases hother
      exact resolve_perm hn ht hperm

/-- A directory of two files: the empty `b`, changed last, and `a_b`, which cannot be read. -/
def pair : Folder := [⟨utf8 "b", .file (some ByteArray.empty) 2⟩, ⟨utf8 "a_b", .file none 1⟩]

theorem recent_pair : pair.recent 1 = pair.take 1 ∧ pair.recent 2 = pair := by
  have hfiles : pair.files = pair := List.mergeSort_of_pairwise (by decide)
  exact ⟨by rw [recent_eq, hfiles], by rw [recent_eq, hfiles]; rfl⟩

theorem distinctNames_pair : pair.HasDistinctNames := by
  unfold HasDistinctNames
  decide

theorem distinctTimes_pair : pair.HasDistinctTimes := by
  unfold HasDistinctTimes
  decide

/-- An item that was stored elsewhere, was named `a b`, and may have a logged hash. -/
def sought (loggedHash : Option String) : WorkItem where
  id := 1
  eventType := artifactObserved
  sourceIp := "10.0.0.1"
  filenameHint := some "a b"
  storedNameHint := some "../stored/"
  loggedHash := loggedHash
  status := .claimed
  leaseUntil := none
  claimedBy := some "a"
  attempts := 1
  retryAfter := none
  contentHash := none
  taskRef := none
  engineResponse := none
  duplicateOf := none
  lastError := none
  createdAt := Time.Instant.epoch
  updatedAt := Time.Instant.epoch

/-- The hash of the empty content. -/
def emptyHash : String := "e3b0c44298fc1c149afbf4c8996fb92427ae41e4649b934ca495991b7852b855"

/-- The same, as a sensor may log it. -/
def loggedEmptyHash : String :=
  " E3B0C44298FC1C149AFBF4C8996FB92427AE41E4649B934CA495991B7852B855"

theorem hex_empty : Sha256.hex ByteArray.empty = emptyHash := by decide +kernel

theorem searchHash_sought : searchHash (sought (some loggedEmptyHash)) = some emptyHash := by
  decide +kernel

theorem direct_pair : pair.direct emptyHash = none ∧ pair.direct (emptyHash ++ ".bin") = none := by
  decide +kernel

/-- Of the last changed file alone only the content says anything. -/
theorem chosen_one_pair (s : Strategy) :
    pair.chosen 1 (sought (some loggedEmptyHash)) s =
      if s = .hashScan then some (utf8 "b") else none := by
  cases s with
  | storedName => decide
  | hashName =>
    show pair.byHashName (sought (some loggedEmptyHash)) = none
    unfold byHashName
    rw [searchHash_sought, Option.bind_some, direct_pair.1, direct_pair.2]
    rfl
  | filenameScan =>
    show pair.byFilename 1 (sought (some loggedEmptyHash)) = none
    unfold byFilename
    rw [recent_pair.1]
    decide
  | hashScan =>
    show pair.byContent 1 (sought (some loggedEmptyHash)) = some (utf8 "b")
    unfold byContent
    rw [searchHash_sought, recent_pair.1]
    simp [pair, Entry.content?, hex_empty]

/-- The reported name decides where it is seen, and the content where only the last changed file is,
both in either order of the listing. -/
theorem resolve_exact_either_order :
    pair.HasDistinctNames ∧ pair.HasDistinctTimes ∧
      pair.resolve 2 (sought none) = some ⟨utf8 "a_b", .filenameScan⟩ ∧
      resolve pair.reverse 2 (sought none) = some ⟨utf8 "a_b", .filenameScan⟩ ∧
      Sha256.hex ByteArray.empty = emptyHash ∧
      pair.resolve 1 (sought (some loggedEmptyHash)) = some ⟨utf8 "b", .hashScan⟩ ∧
      resolve pair.reverse 1 (sought (some loggedEmptyHash)) = some ⟨utf8 "b", .hashScan⟩ := by
  have hscan : pair.chosen 2 (sought none) .filenameScan = some (utf8 "a_b") := by
    unfold chosen byFilename
    rw [recent_pair.2]
    decide
  have hnamed : pair.IsChoice 2 (sought none) ⟨utf8 "a_b", .filenameScan⟩ := by
    refine ⟨(chosen_eq_some_iff distinctNames_pair distinctTimes_pair).mp hscan, fun s hs => ?_⟩
    refine (chosen_eq_none_iff distinctNames_pair distinctTimes_pair).mp ?_
    cases s with
    | storedName => decide
    | hashName => rfl
    | filenameScan => exact absurd hs (by decide)
    | hashScan => exact absurd hs (by decide)
  have hhashed : pair.IsChoice 1 (sought (some loggedEmptyHash)) ⟨utf8 "b", .hashScan⟩ := by
    refine ⟨(chosen_eq_some_iff distinctNames_pair distinctTimes_pair).mp (chosen_one_pair _),
      fun s hs => ?_⟩
    refine (chosen_eq_none_iff distinctNames_pair distinctTimes_pair).mp ?_
    rw [chosen_one_pair, if_neg]
    rintro rfl
    exact absurd hs (by decide)
  have hexact := @resolve_exact (some pair)
    (fun _ h => Option.some.inj h ▸ distinctNames_pair)
    (fun _ h => Option.some.inj h ▸ distinctTimes_pair)
  obtain ⟨hfound, -, horder⟩ := hexact 2 (sought none)
  have hname := (hfound ⟨utf8 "a_b", .filenameScan⟩).mpr ⟨pair, rfl, hnamed⟩
  obtain ⟨hfound', -, horder'⟩ := hexact 1 (sought (some loggedEmptyHash))
  have hhash := (hfound' ⟨utf8 "b", .hashScan⟩).mpr ⟨pair, rfl, hhashed⟩
  have hturned := List.reverse_perm pair
  exact ⟨distinctNames_pair, distinctTimes_pair, hname, (horder pair rfl _ hturned).trans hname,
    hex_empty, hhash, (horder' pair rfl _ hturned).trans hhash⟩

/-! ## Scans of more files -/

/-- With a larger limit a strategy still finds what it found. -/
theorem chosen_of_le {n m : Nat} (hle : n ≤ m) {s : Strategy}
    (h : folder.chosen n item s = some name) : folder.chosen m item s = some name := by
  have hscan : ∀ {p : Entry → Bool} {e : Entry},
      (folder.recent n).find? p = some e → (folder.recent m).find? p = some e :=
    fun hfind => (folder.recent_prefix hle).find?_eq_some hfind
  cases s with
  | storedName => exact h
  | hashName => exact h
  | filenameScan =>
    obtain ⟨stub, hstub, h⟩ := Option.bind_eq_some_iff.mp h
    obtain ⟨e, he, rfl⟩ := Option.map_eq_some_iff.mp h
    simp [chosen, byFilename, hstub, hscan he]
  | hashScan =>
    obtain ⟨hash, hhash, h⟩ := Option.bind_eq_some_iff.mp h
    obtain ⟨e, he, rfl⟩ := Option.map_eq_some_iff.mp h
    simp [chosen, byContent, hhash, hscan he]

/-- What a strategy finds that does not scan does not depend on the limit. -/
theorem chosen_eq_of_rank_lt {s : Strategy} (h : s.rank < 2) (n m : Nat) :
    folder.chosen n item s = folder.chosen m item s := by
  cases s with
  | storedName => rfl
  | hashName => rfl
  | filenameScan => exact absurd h (by decide)
  | hashScan => exact absurd h (by decide)

/-- With a larger limit, and in whatever order the directory is listed then, an item that was found is
still found: by the same strategy, and then it is the same file, or by an earlier one.  Only a file
that was found by its content gives way, and only to one that is found by its reported name. -/
theorem resolve_of_le {n m : Nat} (hnames : folder.HasDistinctNames)
    (htimes : folder.HasDistinctTimes) (hperm : listed.Perm folder) (hle : n ≤ m) {a : Located}
    (h : folder.resolve n item = some a) :
    ∃ b, listed.resolve m item = some b ∧ b.strategy.rank ≤ a.strategy.rank ∧
      (b.strategy = a.strategy → b = a) ∧
      (b ≠ a → a.strategy = .hashScan ∧ b.strategy = .filenameScan) := by
  obtain ⟨ha, hearlier⟩ := resolve_eq_some_iff.mp h
  have hstill := chosen_of_le hle ha
  rw [resolve_perm hnames htimes hperm]
  cases hb : folder.resolve m item with
  | none =>
    rw [resolve_eq_none_iff.mp hb a.strategy] at hstill
    cases hstill
  | some b =>
    obtain ⟨hchosen, hfirst⟩ := resolve_eq_some_iff.mp hb
    have hrank : b.strategy.rank ≤ a.strategy.rank := by
      refine Nat.not_lt.mp fun hlt => ?_
      rw [hfirst a.strategy hlt] at hstill
      cases hstill
    have hsame : b.strategy = a.strategy → b = a := by
      intro heq
      rw [heq, hstill] at hchosen
      cases a
      cases b
      cases heq
      cases hchosen
      rfl
    refine ⟨b, rfl, hrank, hsame, fun hne => ?_⟩
    have hlt : b.strategy.rank < a.strategy.rank :=
      Nat.lt_of_le_of_ne hrank fun heq => hne (hsame (Strategy.rank_injective heq))
    have hscans : 2 ≤ b.strategy.rank := by
      refine Nat.not_lt.mp fun hfew => ?_
      rw [chosen_eq_of_rank_lt hfew m n, hearlier _ hlt] at hchosen
      cases hchosen
    exact Strategy.scans_of_rank_lt hscans hlt

/-- A scan of one file finds the content, a scan of two the reported name. -/
theorem resolve_of_le_renamed :
    pair.resolve 1 (sought (some loggedEmptyHash)) = some ⟨utf8 "b", .hashScan⟩ ∧
      ∃ b, resolve pair.reverse 2 (sought (some loggedEmptyHash)) = some b ∧
        b.name = utf8 "a_b" ∧ b.strategy = .filenameScan := by
  have hfew : pair.resolve 1 (sought (some loggedEmptyHash)) = some ⟨utf8 "b", .hashScan⟩ := by
    refine resolve_eq_some_iff.mpr ⟨chosen_one_pair _, fun s hs => ?_⟩
    rw [chosen_one_pair, if_neg]
    rintro rfl
    exact absurd hs (by decide)
  have hstored : pair.byStoredName (sought (some loggedEmptyHash)) = none := by decide
  have hname : pair.byHashName (sought (some loggedEmptyHash)) = none := chosen_one_pair .hashName
  have hafter : pair.byFilename 2 (sought (some loggedEmptyHash)) = some (utf8 "a_b") := by
    unfold byFilename
    rw [recent_pair.2]
    decide
  have hmany : pair.resolve 2 (sought (some loggedEmptyHash)) =
      some ⟨utf8 "a_b", .filenameScan⟩ := by
    simp [resolve, hstored, hname, hafter]
  have hturned := List.reverse_perm pair
  obtain ⟨b, hb, -, -, honly⟩ :=
    resolve_of_le distinctNames_pair distinctTimes_pair hturned (show 1 ≤ 2 by decide) hfew
  rw [← resolve_perm distinctNames_pair distinctTimes_pair hturned] at hmany
  obtain rfl := Option.some.inj (hb.symm.trans hmany)
  exact ⟨hfew, _, hb, rfl, (honly (by decide)).2⟩

end Folder

end ArtifactRelay.Artifact
