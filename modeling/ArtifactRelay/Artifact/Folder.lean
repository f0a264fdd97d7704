/-!
# ArtifactRelay.Artifact.Folder

The artifact directory as a worker finds it: a list of named entries in whatever
order the system lists them.  Names are bytes; a hint that names an entry is
reduced to its last component first, so it never leads out of the directory
(`finalComponent?`, `isEntryName_of_finalComponent?`).
-/

namespace ArtifactRelay.Artifact

/-- The name of a directory entry, or a path, as bytes. -/
abbrev Name := List UInt8

/-- The bytes of a text. -/
def utf8 (s : String) : Name := s.toUTF8.data.toList

/-- The text that the bytes denote, if they are one. -/
def utf8? (name : Name) : Option String := String.fromUTF8? name.toByteArray

/-- The byte between the components of a path. -/
def slash : UInt8 := 47

/-- The name `.`. -/
def here : Name := [46]

/-- The name `..`. -/
def parent : Name := [46, 46]

/-! ## Components -/

/-- The components of a path, empty ones included: what stands between slashes. -/
def components : Name → List Name
  | [] => [[]]
  | b :: bs =>
    if b = slash then [] :: components bs
    else
      match components bs with
      | [] => [[b]]
      | c :: cs => (b :: c) :: cs

/-- A component that names the directory it stands in. -/
def isVoid (c : Name) : Bool := c.isEmpty || c == here

/-- The entry that a path names: its last component, if that names an entry. -/
def finalComponent? (path : Name) : Option Name :=
  match (components path).reverse.dropWhile isVoid with
  | [] => none
  | c :: _ => if c = parent then none else some c

/-- The name of a single entry: not empty, no slash, neither `.` nor `..`. -/
def isEntryName (c : Name) : Bool :=
  !c.isEmpty && !c.contains slash && c != here && c != parent

theorem slash_not_mem_of_mem_components {path c : Name} (h : c ∈ components path) :
    slash ∉ c := by
  induction path generalizing c with
  | nil =>
    simp only [components, List.mem_singleton] at h
    simp [h]
  | cons b bs ih =>
    unfold components at h
    split at h
    · rcases List.mem_cons.1 h with rfl | h
      · simp
      · exact ih h
    · next hb =>
      split at h
      · simp only [List.mem_singleton] at h
        subst h
        simpa using Ne.symm hb
      · next c' cs hc =>
        rcases List.mem_cons.1 h with rfl | h
        · have := ih (c := c') (by simp [hc])
          simp [this, Ne.symm hb]
        · exact ih (by simp [hc, h])

/-- What a hint is reduced to names a single entry. -/
theorem isEntryName_of_finalComponent? {path c : Name} (h : finalComponent? path = some c) :
    isEntryName c = true := by
  unfold finalComponent? at h
  split at h
  · cases h
  · next rest hd =>
    split at h
    · cases h
    · next hp =>
      cases h
      have hmem : c ∈ components path := by
        have : c ∈ (components path).reverse.dropWhile isVoid := by simp [hd]
        exact List.mem_reverse.1 ((List.dropWhile_sublist _).subset this)
      have hvoid : isVoid c = false := by
        have := List.head?_dropWhile_not isVoid (components path).reverse
        simpa [hd] using this
      have hs := slash_not_mem_of_mem_components hmem
      simp only [isVoid, Bool.or_eq_false_iff, beq_eq_false_iff_ne, ne_eq] at hvoid
      simp [isEntryName, hvoid, hp, hs]

/-! ## Entries -/

/-- What stands under a name. -/
inductive Kind
  /-- A regular file, with its content, unless that cannot be read, and the time of its last
  change. -/
  | file (content : Option ByteArray) (modified : Int)
  | folder
  /-- A link that leads to a file, with the file's content, unless that cannot be read. -/
  | linkToFile (content : Option ByteArray)
  /-- A link that leads to a directory. -/
  | linkToFolder
  /-- A link that leads nowhere. -/
  | brokenLink

/-- A named entry of a directory. -/
structure Entry where
  name : Name
  kind : Kind

namespace Entry

/-- Whether something is found under the name, links followed. -/
def leadsSomewhere (e : Entry) : Bool :=
  match e.kind with
  | .brokenLink => false
  | _ => true

/-- What reading the entry gives, links followed. -/
def content? (e : Entry) : Option ByteArray :=
  match e.kind with
  | .file content _ | .linkToFile content => content
  | _ => none

/-- The time of the last change of a regular file; links are none. -/
def modified? (e : Entry) : Option Int :=
  match e.kind with
  | .file _ modified => some modified
  | _ => none

end Entry

/-- A directory: its entries, in the order in which they are listed. -/
abbrev Folder := List Entry

/-- The entry of a name. -/
def Folder.find? (folder : Folder) (name : Name) : Option Entry :=
  List.find? (·.name == name) folder

/-- The path of an entry: the directory as it was given, one slash, and the name.  A path that
starts with a slash leads to the same place from every directory and stays as it is. -/
def pathIn (dir : String) (name : Name) : Name :=
  let d := utf8 dir
  if name.head? = some slash then name
  else if d.isEmpty || d.getLast? == some slash then d ++ name
  else d ++ slash :: name

end ArtifactRelay.Artifact
