import ArtifactRelay.Artifact.Resolution
import ArtifactRelay.Proofs.Text.Blank

/-!
# ArtifactRelay.Proofs.Artifact.Hints

What the texts that a sensor recorded ask for.  A blank text asks for nothing.  The logged hash is
trimmed and lowered (`IsSearchedBy`), and such a text, also with an extension after it, has nothing
left to trim.  The file name is trimmed and made a stub (`IsStub`), and a name that is a text holds
the stub if the stub's characters stand in it one after the other (`nameHolds_iff`).
-/

namespace ArtifactRelay.Artifact

open Text

/-! ## Blank texts -/

theorem nonBlank_eq_some_iff {s u : String} : nonBlank s = some u ↔ trim s ≠ "" ∧ trim s = u := by
  unfold nonBlank
  split
  · rename_i h
    simp [isBlankText_iff.mp h]
  · rename_i h
    have hleft : trim s ≠ "" := fun hempty => h (isBlankText_iff.mpr hempty)
    simp [hleft]

/-! ## The logged hash -/

/-- The directory is searched by a hash: the logged one, trimmed and in lower case, unless it is
blank. -/
def IsSearchedBy (item : WorkItem) (hash : String) : Prop :=
  ∃ logged, item.loggedHash = some logged ∧ trim logged ≠ "" ∧ asciiLower (trim logged) = hash

theorem searchHash_eq_some_iff {item : WorkItem} {hash : String} :
    searchHash item = some hash ↔ IsSearchedBy item hash := by
  simp only [searchHash, Option.map_eq_some_iff, Option.bind_eq_some_iff, nonBlank_eq_some_iff,
    IsSearchedBy]
  constructor
  · rintro ⟨u, ⟨logged, hlogged, hblank, rfl⟩, rfl⟩
    exact ⟨logged, hlogged, hblank, rfl⟩
  · rintro ⟨logged, hlogged, hblank, rfl⟩
    exact ⟨_, ⟨logged, hlogged, hblank, rfl⟩, rfl⟩

namespace IsSearchedBy

variable {item : WorkItem} {hash : String}

theorem trim_eq (h : IsSearchedBy item hash) : trim hash = hash := by
  obtain ⟨logged, -, -, rfl⟩ := h
  rw [trim_asciiLower, trim_trim]

/-- An extension does not leave blanks at the ends either. -/
theorem trim_append (h : IsSearchedBy item hash) : trim (hash ++ ".bin") = hash ++ ".bin" := by
  have htrim : trimList hash.toList = hash.toList := by rw [← toList_trim, h.trim_eq]
  have hlist : trimList (hash ++ ".bin").toList = (hash ++ ".bin").toList := by
    refine trimList_eq_self (fun c hc => ?_) (fun c hc => ?_)
    · rw [String.toList_append, List.head?_append] at hc
      cases hfirst : hash.toList.head? with
      | none =>
        rw [hfirst] at hc
        cases hc
        decide
      | some d =>
        rw [hfirst] at hc
        cases hc
        have hhead : (trimList hash.toList).head? = some c := by rw [htrim, hfirst]
        exact isBlank_of_head?_trimList hhead
    · rw [String.toList_append, List.getLast?_append] at hc
      cases hc
      decide
  rw [trim, hlist, String.ofList_toList]

end IsSearchedBy

/-! ## The reported file name -/

/-- The stub of a file name, character by character: it has the first 50 ones, and what is neither
alphanumeric nor one of `._-` is `_`. -/
def IsStub (name stub : String) : Prop :=
  ∀ i, stub.toList[i]? =
    if i < 50 then name.toList[i]?.map fun c =>
      if isAlphanumeric c = true ∨ c ∈ ['.', '_', '-'] then c else '_'
    else none

theorem isStub_iff {name stub : String} : IsStub name stub ↔ sanitizeStub name = stub := by
  have hkeeps : ∀ c : Char, (isStubChar c = true) = (isAlphanumeric c = true ∨ c ∈ ['.', '_', '-']) := by
    intro c
    simp [isStubChar, or_assoc]
  have hchar : ∀ i, (sanitizeStub name).toList[i]? =
      if i < 50 then name.toList[i]?.map fun c =>
        if isAlphanumeric c = true ∨ c ∈ ['.', '_', '-'] then c else '_'
      else none := by
    intro i
    simp only [sanitizeStub, String.toList_ofList, List.getElem?_take, List.getElem?_map, stubLength,
      hkeeps]
  constructor
  · intro h
    refine String.toList_inj.mp (List.ext_getElem? fun i => ?_)
    rw [hchar, h]
  · rintro rfl
    exact hchar

theorem searchStub_eq_some_iff {item : WorkItem} {stub : String} :
    searchStub item = some stub ↔
      ∃ hint, item.filenameHint = some hint ∧ trim hint ≠ "" ∧ IsStub (trim hint) stub := by
  simp only [searchStub, Option.map_eq_some_iff, Option.bind_eq_some_iff, nonBlank_eq_some_iff,
    isStub_iff]
  constructor
  · rintro ⟨u, ⟨hint, hhint, hblank, rfl⟩, hstub⟩
    exact ⟨hint, hhint, hblank, hstub⟩
  · rintro ⟨hint, hhint, hblank, hstub⟩
    exact ⟨_, ⟨hint, hhint, hblank, rfl⟩, hstub⟩

/-! ## Names as texts -/

theorem utf8?_eq_some_iff {name : Name} {s : String} : utf8? name = some s ↔ utf8 s = name := by
  unfold utf8? utf8 String.fromUTF8?
  constructor
  · intro h
    split at h
    · cases h
      exact List.toList_data_toByteArray
    · cases h
  · rintro rfl
    have hbytes : s.toUTF8.data.toList.toByteArray = s.toByteArray :=
      ByteArray.ext (by simp)
    rw [dif_pos (hbytes ▸ s.isValidUTF8)]
    exact congrArg some (String.toByteArray_inj.mp hbytes)

theorem holds_iff {part cs : List Char} : holds part cs = true ↔ part <:+: cs := by
  induction cs with
  | nil => simp [holds]
  | cons c cs ih => rw [holds, Bool.or_eq_true, ih, List.isPrefixOf_iff_prefix, List.infix_cons_iff]

theorem nameHolds_iff {stub : String} {name : Name} :
    nameHolds stub name = true ↔ ∃ s, utf8 s = name ∧ stub.toList <:+: s.toList := by
  simp only [nameHolds, Option.any_eq_true, utf8?_eq_some_iff, holds_iff]

end ArtifactRelay.Artifact
