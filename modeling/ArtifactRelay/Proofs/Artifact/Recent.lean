import ArtifactRelay.Artifact.Resolution

/-!
# ArtifactRelay.Proofs.Artifact.Recent

The regular files of a directory that were changed last.  Which they are does not depend on the order
in which the directory is listed, as long as no two files were changed at one time: a file is among
the `limit` last ones if fewer than `limit` files were changed after it (`IsRecent`), and a search
through them ends at the last changed one that has the property searched for (`IsLatest`).
-/

namespace ArtifactRelay.Artifact

/-! ## Lists in falling order -/

section Falling

variable {α : Type} {time : α → Int} {l : List α} {x : α}

/-- The first `n` elements are those that fewer than `n` elements stand above. -/
theorem mem_take_iff_of_falling (h : l.Pairwise fun a b => time b < time a) {n : Nat} :
    x ∈ l.take n ↔ x ∈ l ∧ l.countP (fun y => decide (time x < time y)) < n := by
  induction l generalizing n with
  | nil => simp
  | cons a l ih =>
    obtain ⟨hhead, htail⟩ := List.pairwise_cons.mp h
    cases n with
    | zero => simp
    | succ n =>
      rw [List.take_succ_cons, List.mem_cons, List.mem_cons, ih htail, List.countP_cons]
      by_cases hx : x = a
      · have hnone : l.countP (fun y => decide (time a < time y)) = 0 :=
          List.countP_eq_zero.mpr fun y hy => by simpa using Int.le_of_lt (hhead y hy)
        simp [hx, hnone]
      · have habove : x ∈ l → decide (time x < time a) = true := fun hmem => by
          simpa using hhead x hmem
        simp only [hx, false_or]
        refine and_congr_right fun hmem => ?_
        rw [habove hmem, if_pos rfl, Nat.add_lt_add_iff_right]

/-- The first element with a property is the largest one that has it. -/
theorem find?_eq_some_iff_of_falling (h : l.Pairwise fun a b => time b < time a) {p : α → Bool} :
    l.find? p = some x ↔ x ∈ l ∧ p x = true ∧ ∀ y ∈ l, p y = true → time y ≤ time x := by
  induction l with
  | nil => simp
  | cons a l ih =>
    obtain ⟨hhead, htail⟩ := List.pairwise_cons.mp h
    cases hp : p a with
    | true =>
      rw [List.find?_cons_of_pos hp, Option.some.injEq]
      constructor
      · rintro rfl
        refine ⟨List.mem_cons_self, hp, fun y hy _ => ?_⟩
        rcases List.mem_cons.mp hy with rfl | hy
        · exact Int.le_refl _
        · exact Int.le_of_lt (hhead y hy)
      · rintro ⟨hx, -, hlargest⟩
        rcases List.mem_cons.mp hx with rfl | hx
        · rfl
        · have hle := hlargest a List.mem_cons_self hp
          have hlt := hhead x hx
          omega
    | false =>
      rw [List.find?_cons_of_neg (by simp [hp]), ih htail]
      constructor
      · rintro ⟨hx, hpx, hlargest⟩
        refine ⟨List.mem_cons_of_mem _ hx, hpx, fun y hy hpy => ?_⟩
        rcases List.mem_cons.mp hy with rfl | hy
        · rw [hp] at hpy
          cases hpy
        · exact hlargest y hy hpy
      · rintro ⟨hx, hpx, hlargest⟩
        rcases List.mem_cons.mp hx with rfl | hx
        · rw [hp] at hpx
          cases hpx
        · exact ⟨hx, hpx, fun y hy => hlargest y (List.mem_cons_of_mem _ hy)⟩

end Falling

/-! ## Directories -/

/-- The time of the last change of a regular file. -/
def Entry.time (e : Entry) : Int := e.modified?.getD 0

namespace Folder

/-- No two entries have one name. -/
def HasDistinctNames (folder : Folder) : Prop := (folder.map (·.name)).Nodup

/-- No two regular files were changed at one time. -/
def HasDistinctTimes (folder : Folder) : Prop := (folder.filterMap Entry.modified?).Nodup

/-- The entry is one of the `limit` regular files that were changed last: fewer than `limit` of
them were changed after it. -/
def IsRecent (folder : Folder) (limit : Nat) (e : Entry) : Prop :=
  e ∈ folder ∧ ∃ t, e.modified? = some t ∧
    folder.countP (fun f => f.modified?.any fun u => decide (t < u)) < limit

/-- Of the `limit` regular files that were changed last, the entry is the last changed one that has a
property. -/
def IsLatest (folder : Folder) (limit : Nat) (p : Entry → Prop) (e : Entry) : Prop :=
  folder.IsRecent limit e ∧ p e ∧ ∀ f, folder.IsRecent limit f → p f → f.time ≤ e.time

variable {folder listed : Folder} {limit : Nat}

theorem HasDistinctNames.perm (h : folder.HasDistinctNames) (hperm : listed.Perm folder) :
    listed.HasDistinctNames :=
  (hperm.map _).nodup_iff.mpr h

theorem HasDistinctTimes.perm (h : folder.HasDistinctTimes) (hperm : listed.Perm folder) :
    listed.HasDistinctTimes :=
  (hperm.filterMap _).nodup_iff.mpr h

/-- An entry is found under its name. -/
theorem find?_eq_some_iff (h : folder.HasDistinctNames) {name : Name} {e : Entry} :
    folder.find? name = some e ↔ e ∈ folder ∧ e.name = name := by
  unfold HasDistinctNames at h
  unfold Folder.find?
  induction folder with
  | nil => simp
  | cons f folder ih =>
    rw [List.map_cons, List.nodup_cons] at h
    by_cases hf : f.name = name
    · rw [List.find?_cons_of_pos (by simp [hf]), Option.some.injEq, List.mem_cons]
      constructor
      · rintro rfl
        exact ⟨.inl rfl, hf⟩
      · rintro ⟨rfl | hmem, hname⟩
        · rfl
        · exact absurd (List.mem_map.mpr ⟨e, hmem, hname.trans hf.symm⟩) h.1
    · rw [List.find?_cons_of_neg (by simp [hf]), ih h.2, List.mem_cons]
      constructor
      · rintro ⟨hmem, hname⟩
        exact ⟨.inr hmem, hname⟩
      · rintro ⟨rfl | hmem, hname⟩
        · exact absurd hname hf
        · exact ⟨hmem, hname⟩

/-- The order of the listing does not matter for what is found under a name. -/
theorem find?_perm (h : folder.HasDistinctNames) (hperm : listed.Perm folder) (name : Name) :
    listed.find? name = folder.find? name := by
  ext e
  rw [find?_eq_some_iff h, find?_eq_some_iff (h.perm hperm), hperm.mem_iff]

/-! ## The files changed last -/

/-- All regular files, the last changed ones first. -/
def files (folder : Folder) : List Entry :=
  (folder.filter (·.modified?.isSome)).mergeSort fun a b => decide (b.time ≤ a.time)

theorem recent_eq (folder : Folder) (limit : Nat) : folder.recent limit = folder.files.take limit :=
  rfl

theorem files_perm (folder : Folder) :
    folder.files.Perm (folder.filter (·.modified?.isSome)) :=
  List.mergeSort_perm _ _

theorem mem_files_iff {e : Entry} : e ∈ folder.files ↔ e ∈ folder ∧ e.modified?.isSome = true := by
  rw [folder.files_perm.mem_iff, List.mem_filter]

/-- Times that differ put the files in falling order. -/
theorem pairwise_files (h : folder.HasDistinctTimes) :
    folder.files.Pairwise fun a b => b.time < a.time := by
  have hsorted : folder.files.Pairwise fun a b => b.time ≤ a.time := by
    refine (List.pairwise_mergeSort ?_ ?_ _).imp ?_
    · intro a b c hab hbc
      simp only [decide_eq_true_eq] at hab hbc ⊢
      omega
    · intro a b
      simp only [Bool.or_eq_true, decide_eq_true_eq]
      omega
    · intro a b hab
      simpa using hab
  have hdistinct : folder.files.Pairwise fun a b => a.time ≠ b.time := by
    have hfilter : (folder.filter (·.modified?.isSome)).Pairwise fun a b => a.time ≠ b.time := by
      refine List.pairwise_filter.mpr ((List.pairwise_filterMap.mp h).imp ?_)
      intro a b hab ha hb heq
      obtain ⟨t, ht⟩ := Option.isSome_iff_exists.mp ha
      obtain ⟨u, hu⟩ := Option.isSome_iff_exists.mp hb
      refine hab t ht u hu ?_
      simpa [Entry.time, ht, hu] using heq
    exact (folder.files_perm.symm.pairwise hfilter) fun hne heq => hne heq.symm
  refine (hsorted.and hdistinct).imp ?_
  rintro a b ⟨hle, hne⟩
  omega

/-- The order of the listing does not matter for the files changed last. -/
theorem recent_perm (h : folder.HasDistinctTimes) (hperm : listed.Perm folder) (limit : Nat) :
    listed.recent limit = folder.recent limit := by
  have hfiles : listed.files = folder.files := by
    refine List.Perm.eq_of_pairwise ?_
      (pairwise_files (h.perm hperm)) (pairwise_files h) ?_
    · intro a b _ _ hab hba
      omega
    · exact listed.files_perm.trans ((hperm.filter _).trans folder.files_perm.symm)
  rw [recent_eq, recent_eq, hfiles]

/-- A scan of fewer files looks at the first ones of a scan of more. -/
theorem recent_prefix (folder : Folder) {n m : Nat} (h : n ≤ m) :
    folder.recent n <+: folder.recent m :=
  List.take_prefix_take_left h

theorem mem_recent_iff (h : folder.HasDistinctTimes) {e : Entry} :
    e ∈ folder.recent limit ↔ folder.IsRecent limit e := by
  rw [recent_eq, mem_take_iff_of_falling (pairwise_files h), mem_files_iff,
    folder.files_perm.countP_eq, List.countP_filter]
  unfold IsRecent
  rw [and_assoc]
  refine and_congr_right fun _ => ?_
  cases ht : e.modified? with
  | none => simp
  | some t =>
    have hlater : ∀ f : Entry, (decide (e.time < f.time) && f.modified?.isSome) =
        f.modified?.any fun u => decide (t < u) := by
      intro f
      cases hu : f.modified? <;> simp [Entry.time, ht, hu]
    simp [hlater]

/-- A search among the files changed last ends at the last changed one that has the property. -/
theorem find?_recent_eq_some_iff (h : folder.HasDistinctTimes) {p : Entry → Bool} {e : Entry} :
    (folder.recent limit).find? p = some e ↔ folder.IsLatest limit (p · = true) e := by
  have hfalling : (folder.recent limit).Pairwise fun a b => b.time < a.time :=
    (pairwise_files h).sublist (List.take_sublist _ _)
  rw [find?_eq_some_iff_of_falling hfalling, mem_recent_iff h]
  unfold IsLatest
  simp only [mem_recent_iff h]

end Folder

end ArtifactRelay.Artifact
