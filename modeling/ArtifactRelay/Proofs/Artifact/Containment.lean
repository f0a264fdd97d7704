import ArtifactRelay.Artifact.FileTree
import ArtifactRelay.Proofs.Artifact.Choice

/-!
# ArtifactRelay.Proofs.Artifact.Containment

A hint does not lead out of the artifact directory.  Whatever texts an item brings, what is found for
it is one entry of the directory: a hint is reduced to its last component before anything is looked
up, and a scan looks at nothing but entries (`exists_of_resolve`).

The path of the entry is the directory joined with that one name (`isJoined_pathIn`).  So it leads to
the entry itself, from any working directory around which the directory stands as it was listed
(`entryPlace?_pathIn`).
-/

namespace ArtifactRelay.Artifact

variable {dir : String} {name path : Name}

theorem isEntryName_iff :
    isEntryName name = true ↔ name ≠ [] ∧ slash ∉ name ∧ name ≠ here ∧ name ≠ parent := by
  simp [isEntryName, and_assoc]

theorem head?_ne_slash_of_isEntryName (h : isEntryName name = true) : name.head? ≠ some slash :=
  fun hhead => (isEntryName_iff.mp h).2.1 (List.mem_of_mem_head? hhead)

theorem isVoid_of_isEntryName (h : isEntryName name = true) : isVoid name = false := by
  obtain ⟨hempty, -, hhere, -⟩ := isEntryName_iff.mp h
  simp [isVoid, hempty, hhere]

/-! ## Components of a joined path -/

theorem components_ne_nil (path : Name) : components path ≠ [] := by
  cases path with
  | nil => simp [components]
  | cons b bs =>
    unfold components
    split
    · simp
    · split <;> simp

/-- A slash ends the components before it. -/
theorem components_append (a b : Name) :
    components (a ++ slash :: b) = components a ++ components b := by
  induction a with
  | nil => simp [components]
  | cons x a ih =>
    rw [List.cons_append, components, components, ih]
    split
    · rfl
    · cases ha : components a with
      | nil => exact absurd ha (components_ne_nil a)
      | cons c cs => rfl

theorem components_of_slash_not_mem (h : slash ∉ name) : components name = [name] := by
  induction name with
  | nil => rfl
  | cons b bs ih =>
    simp only [List.mem_cons, not_or] at h
    rw [components, if_neg (Ne.symm h.1), ih h.2]

/-- A path is a directory joined with one name.  Both start at the root or neither does, and of what
stands between the slashes of the path, `.` and nothing left out, the name is the last and the
rest is the directory. -/
def IsJoined (path dir name : Name) : Prop :=
  (path.head? = some slash ↔ dir.head? = some slash) ∧
    (components path).filter (!isVoid ·) = (components dir).filter (!isVoid ·) ++ [name]

/-- A slash is put between a directory and a name unless one is there. -/
theorem pathIn_cases (dir : String) (h : isEntryName name = true) :
    (utf8 dir = [] ∧ pathIn dir name = name) ∨
    (∃ d, utf8 dir = d ++ [slash] ∧ pathIn dir name = d ++ slash :: name) ∨
    (utf8 dir ≠ [] ∧ pathIn dir name = utf8 dir ++ slash :: name) := by
  unfold pathIn
  rw [if_neg (head?_ne_slash_of_isEntryName h)]
  by_cases hempty : utf8 dir = []
  · exact .inl ⟨hempty, by simp [hempty]⟩
  · by_cases hlast : (utf8 dir).getLast? = some slash
    · obtain ⟨d, hd⟩ := List.getLast?_eq_some_iff.mp hlast
      exact .inr (.inl ⟨d, hd, by simp [hd]⟩)
    · exact .inr (.inr ⟨hempty, by simp [hempty, hlast]⟩)

/-- The path of an entry is the directory joined with its name. -/
theorem isJoined_pathIn (dir : String) (h : isEntryName name = true) :
    IsJoined (pathIn dir name) (utf8 dir) name := by
  obtain ⟨-, hslash, -⟩ := isEntryName_iff.mp h
  have hname : (components name).filter (!isVoid ·) = [name] := by
    simp [components_of_slash_not_mem hslash, isVoid_of_isEntryName h]
  unfold IsJoined
  obtain ⟨hdir, hpath⟩ | ⟨d, hdir, hpath⟩ | ⟨hdir, hpath⟩ := pathIn_cases dir h
  · rw [hpath, hdir, hname]
    exact ⟨by simp [head?_ne_slash_of_isEntryName h], rfl⟩
  · rw [hpath, hdir, components_append, components_append, List.filter_append, List.filter_append,
      hname]
    refine ⟨?_, by simp [components, isVoid]⟩
    cases d <;> simp
  · rw [hpath, components_append, List.filter_append, hname]
    obtain ⟨b, bs, hd⟩ := List.exists_cons_of_ne_nil hdir
    rw [hd]
    exact ⟨.rfl, rfl⟩

/-! ## Where the path leads -/

namespace FileTree

variable {tree : FileTree} {links : Nat} {start place : List Name} {folder : Folder}

/-- A slash at the end of a path to a directory may be left out. -/
theorem follow_of_follow_append {path : List Name}
    (h : tree.follow links start (path ++ [[]]) = some place) :
    tree.follow links start path = some place := by
  have hvoid : isVoid [] = true := rfl
  induction links, start, path using follow.induct tree with
  | case1 links start => simpa only [List.nil_append, follow, hvoid, if_true] using h
  | case2 links start c rest hc ih =>
    simp only [List.cons_append, follow, hc, if_true] at h ⊢
    exact ih h
  | case3 links start rest hc ih =>
    simp only [List.cons_append, follow, hc, if_true] at h ⊢
    exact ih h
  | case8 links start c rest hc hup hat ih =>
    simp only [List.cons_append, follow, hc, hup, hat] at h ⊢
    exact ih h
  | case10 start c rest hc hup target hat links hpath ih =>
    simp only [List.cons_append, follow, hc, hup, hat, hpath, if_true] at h ⊢
    exact ih (by rwa [List.append_assoc])
  -- Elsewhere the path with the slash leads nowhere.
  | _ => simp_all [follow]

/-- The directory that a path leads to. -/
theorem folder?_eq_some_iff :
    tree.folder? dir = some folder ↔
      ∃ place, tree.place? (utf8 dir) = some place ∧ tree.hasFolderAt place = true ∧
        tree.nodes.filterMap (tree.entryIn place) = folder := by
  simp [folder?, Option.bind_eq_some_iff]

theorem entryIn_eq_some_iff {names : List Name} {node : Node} {e : Entry} :
    tree.entryIn place (names, node) = some e ↔
      names = place ++ [e.name] ∧ tree.kindOf place node = e.kind := by
  obtain ⟨name, kind⟩ := e
  cases hnames : names.reverse with
  | nil => simp [entryIn, List.reverse_eq_nil_iff.mp hnames]
  | cons last above =>
    obtain rfl := List.reverse_eq_cons_iff.mp hnames
    simp [entryIn, and_assoc]

/-- What a directory lists stands in it. -/
theorem isSome_at?_of_mem {e : Entry} (h : e ∈ tree.nodes.filterMap (tree.entryIn place)) :
    (tree.at? (place ++ [e.name])).isSome = true := by
  obtain ⟨⟨names, node⟩, hmem, he⟩ := List.mem_filterMap.mp h
  obtain ⟨rfl, -⟩ := entryIn_eq_some_iff.mp he
  unfold at?
  split
  · rfl
  · rw [Option.isSome_map, List.find?_isSome]
    exact ⟨_, hmem, by simp⟩

/-- The path of an entry leads to the entry, directly in the place of the directory. -/
theorem entryPlace?_pathIn (hname : isEntryName name = true)
    (hplace : tree.place? (utf8 dir) = some place) (hfolder : tree.hasFolderAt place = true)
    (hpath : isPath (pathIn dir name) = true) :
    tree.entryPlace? (pathIn dir name) = some (place ++ [name]) := by
  obtain ⟨-, hslash, -⟩ := isEntryName_iff.mp hname
  unfold place? at hplace
  split at hplace
  · rename_i hdir
    have hcomponents : ∃ above, components (pathIn dir name) = above ++ [name] ∧
        tree.follow maxLinks [] above = some place := by
      obtain ⟨hempty, -⟩ | ⟨d, hd, hjoined⟩ | ⟨-, hjoined⟩ := pathIn_cases dir hname
      · rw [hempty] at hdir
        cases hdir
      · rw [hd, components_append] at hplace
        rw [hjoined, components_append, components_of_slash_not_mem hslash]
        exact ⟨_, rfl, follow_of_follow_append hplace⟩
      · rw [hjoined, components_append, components_of_slash_not_mem hslash]
        exact ⟨_, rfl, hplace⟩
    obtain ⟨above, hcomponents, hfollow⟩ := hcomponents
    simp [entryPlace?, hcomponents, hpath, hname, hfollow, hfolder]
  · cases hplace

end FileTree

/-! ## What is found -/

theorem Entry.leadsSomewhere_of_isSome_modified? {e : Entry} (h : e.modified?.isSome = true) :
    e.leadsSomewhere = true := by
  obtain ⟨name, kind⟩ := e
  cases kind with
  | file => rfl
  | _ => cases h

namespace Folder

variable {folder : Folder} {found : Option Folder} {limit : Nat} {item : WorkItem} {located : Located}

theorem exists_of_direct {hint : String} (h : folder.direct hint = some name) :
    isEntryName name = true ∧ ∃ e ∈ folder, e.name = name ∧ e.leadsSomewhere = true := by
  unfold direct at h
  obtain ⟨final, hfinal, h⟩ := Option.bind_eq_some_iff.mp h
  obtain ⟨e, he, h⟩ := Option.bind_eq_some_iff.mp h
  split at h
  · rename_i hleads
    cases h
    unfold Folder.find? at he
    exact ⟨isEntryName_of_finalComponent? hfinal, e, List.mem_of_find?_eq_some he,
      by simpa using List.find?_some he, hleads⟩
  · cases h

theorem exists_of_scan {p : Entry → Bool}
    (h : ((folder.recent limit).find? p).map (·.name) = some name) :
    ∃ e ∈ folder, e.name = name ∧ e.modified?.isSome = true := by
  obtain ⟨e, he, hname⟩ := Option.map_eq_some_iff.mp h
  have hmem : e ∈ folder.files := List.mem_of_mem_take (List.mem_of_find?_eq_some he)
  obtain ⟨hmem, hfile⟩ := mem_files_iff.mp hmem
  exact ⟨e, hmem, hname, hfile⟩

/-- What is found for an item has the name of an entry, and such an entry is there. -/
theorem exists_of_resolve
    (hlisted : ∀ e ∈ folder, e.modified?.isSome = true → isEntryName e.name = true)
    (h : folder.resolve limit item = some located) :
    isEntryName located.name = true ∧
      ∃ e ∈ folder, e.name = located.name ∧ e.leadsSomewhere = true := by
  have hscan : (∃ e ∈ folder, e.name = located.name ∧ e.modified?.isSome = true) →
      isEntryName located.name = true ∧
        ∃ e ∈ folder, e.name = located.name ∧ e.leadsSomewhere = true := by
    rintro ⟨e, hmem, hname, hfile⟩
    exact ⟨hname ▸ hlisted e hmem hfile, e, hmem, hname,
      Entry.leadsSomewhere_of_isSome_modified? hfile⟩
  obtain ⟨name, strategy⟩ := located
  have hchosen := (resolve_eq_some_iff.mp h).1
  cases strategy with
  | storedName =>
    obtain ⟨hint, -, hdirect⟩ := Option.bind_eq_some_iff.mp hchosen
    exact exists_of_direct hdirect
  | hashName =>
    obtain ⟨hash, -, hdirect⟩ := Option.bind_eq_some_iff.mp hchosen
    rw [Option.orElse_eq_orElse, Option.orElse_eq_or] at hdirect
    rcases Option.or_eq_some_iff.mp hdirect with hdirect | ⟨-, hdirect⟩
    · exact exists_of_direct hdirect
    · exact exists_of_direct hdirect
  | filenameScan =>
    obtain ⟨stub, -, hfind⟩ := Option.bind_eq_some_iff.mp hchosen
    exact hscan (exists_of_scan hfind)
  | hashScan =>
    obtain ⟨hash, -, hfind⟩ := Option.bind_eq_some_iff.mp hchosen
    exact hscan (exists_of_scan hfind)

/-- Whatever the texts of an item are, what is found for it is one entry of the directory: a name
without a slash, neither empty nor `.` nor `..`, that is there and leads somewhere.  Its path is
the directory joined with that name.  If the directory stands in a tree of files and the path is
one that can lead anywhere, it leads to a place directly in that of the directory, where
something stands.

The system lists regular files by names of entries; nothing is assumed of what else is listed. -/
theorem resolve_contained
    (hlisted : ∀ folder, found = some folder →
      ∀ e ∈ folder, e.modified?.isSome = true → isEntryName e.name = true)
    (h : (found.bind fun folder => folder.resolve limit item) = some located) (dir : String) :
    (located.name ≠ [] ∧ slash ∉ located.name ∧ located.name ≠ here ∧ located.name ≠ parent) ∧
    IsJoined (pathIn dir located.name) (utf8 dir) located.name ∧
    (∃ folder, found = some folder ∧
      ∃ e ∈ folder, e.name = located.name ∧ e.leadsSomewhere = true) ∧
    ∀ tree : FileTree, tree.folder? dir = found →
      FileTree.isPath (pathIn dir located.name) = true →
        ∃ place, tree.place? (utf8 dir) = some place ∧
          tree.entryPlace? (pathIn dir located.name) = some (place ++ [located.name]) ∧
          (tree.at? (place ++ [located.name])).isSome = true := by
  obtain ⟨folder, rfl, h⟩ := Option.bind_eq_some_iff.mp h
  obtain ⟨hname, e, hmem, he, hleads⟩ := exists_of_resolve (hlisted folder rfl) h
  refine ⟨isEntryName_iff.mp hname, isJoined_pathIn dir hname, ⟨folder, rfl, e, hmem, he, hleads⟩,
    fun tree hfolder hpath => ?_⟩
  obtain ⟨place, hplace, hthere, rfl⟩ := FileTree.folder?_eq_some_iff.mp hfolder
  exact ⟨place, hplace, FileTree.entryPlace?_pathIn hname hplace hthere hpath,
    he ▸ FileTree.isSome_at?_of_mem hmem⟩

/-- A secret beside the artifact directory, and an artifact of the same name in it. -/
def besideUploads : FileTree where
  nodes := [
    ([utf8 "secret"], .file (utf8 "s").toByteArray 1),
    ([utf8 "uploads"], .folder),
    ([utf8 "uploads", utf8 "secret"], .file ByteArray.empty 2)]

/-- An item that asks for what is beside the directory. -/
def hostile : WorkItem := { sought none with storedNameHint := some " ../secret/. " }

/-- The item gets the artifact, not the secret. -/
theorem resolve_contained_beside :
    ((besideUploads.folder? "uploads").bind fun folder => folder.resolve 1 hostile) =
        some ⟨utf8 "secret", .storedName⟩ ∧
      (∀ folder, besideUploads.folder? "uploads" = some folder →
        ∀ e ∈ folder, e.modified?.isSome = true → isEntryName e.name = true) ∧
      besideUploads.entryPlace? (pathIn "uploads" (utf8 "secret")) =
        some [utf8 "uploads", utf8 "secret"] := by
  have hplace : besideUploads.place? (utf8 "uploads") = some [utf8 "uploads"] := by
    have hat : besideUploads.at? [utf8 "uploads"] = some .folder := rfl
    have hpath : FileTree.isPath (utf8 "uploads") = true ∧
        components (utf8 "uploads") = [utf8 "uploads"] ∧
        isVoid (utf8 "uploads") = false ∧ utf8 "uploads" ≠ parent := by decide
    simp [FileTree.place?, FileTree.follow, hat, hpath]
  have hfolder : besideUploads.folder? "uploads" =
      some [⟨utf8 "secret", .file (some ByteArray.empty) 2⟩] :=
    FileTree.folder?_eq_some_iff.mpr ⟨_, hplace, rfl, rfl⟩
  have hfound : ((besideUploads.folder? "uploads").bind fun folder => folder.resolve 1 hostile) =
      some ⟨utf8 "secret", .storedName⟩ := by
    rw [hfolder]
    decide
  have hlisted : ∀ folder, besideUploads.folder? "uploads" = some folder →
      ∀ e ∈ folder, e.modified?.isSome = true → isEntryName e.name = true := by
    intro folder h e hmem _
    rw [hfolder] at h
    cases h
    obtain rfl := List.mem_singleton.mp hmem
    decide
  obtain ⟨-, -, -, htree⟩ := resolve_contained hlisted hfound "uploads"
  obtain ⟨place, hdir, hentry, -⟩ := htree besideUploads rfl (by decide)
  obtain rfl := Option.some.inj (hplace.symm.trans hdir)
  exact ⟨hfound, hlisted, hentry⟩

end Folder

end ArtifactRelay.Artifact
