import ArtifactRelay.Proofs.Text.Blank
import ArtifactRelay.WorkItem.Basic

/-!
# ArtifactRelay.Proofs.WorkItem.Address

What is recorded of an address.  `normalizeAddress` keeps what follows the last mapping prefix of
the trimmed text (`normalizeAddress_of_isMarked`), wherever the prefix stands and whatever follows
it.  So an address loses just the prefix that it starts with (`unmapped`) if no other one follows
and something else does.  What is recorded is empty if the prefix ends the text, and it is recorded
as something else the next time if it is empty or starts with a blank (`normalizeAddress_exact`).
-/

namespace ArtifactRelay

open Text

/-! ## The last place of a mark -/

/-- What stands before and after the last place of a mark in a text. -/
structure IsLast (mark cs before rest : List Char) : Prop where
  eq : cs = before ++ mark ++ rest
  last : ∀ before' rest', cs = before' ++ mark ++ rest' → before'.length ≤ before.length

variable {mark cs before rest : List Char}

theorem IsLast.isInfix (h : IsLast mark cs before rest) : mark <:+: cs :=
  ⟨before, rest, h.eq.symm⟩

/-- The mark does not come again. -/
theorem IsLast.not_isInfix (h : IsLast mark cs before rest) (hmark : mark ≠ []) :
    ¬ mark <:+: rest := by
  rintro ⟨s, t, hrest⟩
  have hlater := h.last (before ++ mark ++ s) t (by simp [h.eq, ← hrest])
  have hlength := List.length_pos_of_ne_nil hmark
  simp only [List.length_append] at hlater
  omega

/-- A place is the last one if the mark does not come again in what follows its first character. -/
theorem isLast_of_not_isInfix (heq : cs = before ++ mark ++ rest)
    (h : ¬ mark <:+: mark.tail ++ rest) : IsLast mark cs before rest := by
  refine ⟨heq, fun before' rest' heq' => Nat.not_lt.mp fun hlt => h ?_⟩
  rw [heq, List.append_assoc, List.append_assoc] at heq'
  obtain ⟨more, rfl, hrest⟩ | ⟨more, rfl, -⟩ := List.append_eq_append_iff.mp heq'
  · cases more with
    | nil => simp at hlt
    | cons b more =>
      cases mark with
      | nil => simp
      | cons a m =>
        have hagain : m ++ rest = more ++ (a :: m ++ rest') := (List.cons_eq_cons.mp hrest).2
        exact ⟨more, rest', by rw [List.append_assoc, ← hagain, List.tail_cons]⟩
  · rw [List.length_append] at hlt
    omega

theorem exists_isLast (hmark : mark ≠ []) (h : mark <:+: cs) :
    ∃ before rest, IsLast mark cs before rest := by
  induction cs with
  | nil => exact absurd (List.infix_nil.mp h) hmark
  | cons c cs ih =>
    by_cases hlater : mark <:+: cs
    · obtain ⟨before, rest, hlast⟩ := ih hlater
      refine ⟨c :: before, rest, by simp [hlast.eq], fun before' rest' heq => ?_⟩
      cases before' with
      | nil => simp
      | cons b before' =>
        obtain ⟨rfl, hcs⟩ := List.cons_eq_cons.mp heq
        simpa using hlast.last before' rest' hcs
    · obtain ⟨rest, hrest⟩ := (List.infix_cons_iff.mp h).resolve_right hlater
      refine ⟨[], rest, by simp [hrest], fun before' rest' heq => ?_⟩
      cases before' with
      | nil => simp
      | cons b before' =>
        obtain ⟨rfl, hcs⟩ := List.cons_eq_cons.mp heq
        exact absurd ⟨before', rest', hcs.symm⟩ hlater

theorem afterLast_of_not_isInfix (found : List Char) (h : ¬ mark <:+: cs) :
    afterLast mark found cs = found := by
  induction cs generalizing found with
  | nil => rfl
  | cons c cs ih =>
    rw [List.infix_cons_iff, not_or] at h
    rw [afterLast, if_neg (by rw [List.isPrefixOf_iff_prefix]; exact h.1), ih _ h.2]

theorem afterLast_of_isLast (hmark : mark ≠ []) (found : List Char)
    (h : IsLast mark cs before rest) : afterLast mark found cs = rest := by
  induction cs generalizing before found with
  | nil => exact absurd (List.infix_nil.mp h.isInfix) hmark
  | cons c cs ih =>
    cases before with
    | nil =>
      have hstarts : mark <+: c :: cs := ⟨rest, h.eq.symm⟩
      have hdrop : (c :: cs).drop mark.length = rest := by
        rw [h.eq]
        simp
      have hlater : ¬ mark <:+: cs := by
        rintro ⟨s, t, hcs⟩
        simpa using h.last (c :: s) t (by simp [← hcs])
      rw [afterLast, if_pos (List.isPrefixOf_iff_prefix.mpr hstarts), hdrop,
        afterLast_of_not_isInfix _ hlater]
    | cons b before =>
      obtain ⟨rfl, hcs⟩ := List.cons_eq_cons.mp h.eq
      rw [afterLast]
      refine ih _ ⟨hcs, fun before' rest' heq => ?_⟩
      simpa using h.last (c :: before') rest' (by simp [heq])

/-! ## Recorded addresses -/

/-- The last mapping prefix of the trimmed address stands between the two. -/
def IsMarked (address : String) (before rest : List Char) : Prop :=
  IsLast mappedPrefix.toList (trim address).toList before rest

theorem mappedPrefix_ne_nil : mappedPrefix.toList ≠ [] := by decide

variable {address : String}

theorem IsMarked.trim_ne_empty (h : IsMarked address before rest) : trim address ≠ "" := by
  intro hempty
  have hin := h.isInfix
  rw [hempty] at hin
  exact mappedPrefix_ne_nil (List.infix_nil.mp hin)

/-- What follows the prefix is shorter than the text. -/
theorem IsMarked.ofList_ne_trim (h : IsMarked address before rest) :
    String.ofList rest ≠ trim address := by
  intro hsame
  have hlengths := congrArg List.length h.eq
  have hmark := List.length_pos_of_ne_nil mappedPrefix_ne_nil
  rw [← hsame, String.toList_ofList] at hlengths
  simp only [List.length_append] at hlengths
  omega

theorem normalizeAddress_of_isMarked (h : IsMarked address before rest) :
    normalizeAddress address = String.ofList rest := by
  rw [normalizeAddress, if_neg (mt isBlankText_iff.mp h.trim_ne_empty)]
  dsimp only
  rw [← toList_trim, afterLast_of_isLast mappedPrefix_ne_nil _ h]

theorem normalizeAddress_of_not_isInfix (h : ¬ mappedPrefix.toList <:+: (trim address).toList) :
    normalizeAddress address = if trim address = "" then "unknown" else trim address := by
  by_cases hempty : trim address = ""
  · rw [normalizeAddress, if_pos (isBlankText_iff.mpr hempty), if_pos hempty]
  · rw [normalizeAddress, if_neg (mt isBlankText_iff.mp hempty), if_neg hempty]
    dsimp only
    rw [← toList_trim, afterLast_of_not_isInfix _ h, String.ofList_toList]

/-! ## Addresses without the prefix that they start with -/

/-- An address without blanks at its ends and without the mapping prefix that it starts with then;
`unknown` if nothing is left. -/
def unmapped (address : String) : String :=
  let cs := (trim address).toList
  let left := if mappedPrefix.toList.isPrefixOf cs then cs.drop mappedPrefix.length else cs
  if left.isEmpty then "unknown" else String.ofList left

theorem unmapped_of_eq_append (h : (trim address).toList = mappedPrefix.toList ++ rest) :
    unmapped address = if rest = [] then "unknown" else String.ofList rest := by
  have hstarts : mappedPrefix.toList.isPrefixOf (trim address).toList = true :=
    List.isPrefixOf_iff_prefix.mpr ⟨rest, h.symm⟩
  have hdrop : (trim address).toList.drop mappedPrefix.length = rest := by
    rw [h, ← String.length_toList, List.drop_left]
  simp only [unmapped, if_pos hstarts, hdrop, List.isEmpty_iff]

theorem unmapped_of_not_isPrefix (h : ¬ mappedPrefix.toList <+: (trim address).toList) :
    unmapped address = if trim address = "" then "unknown" else trim address := by
  have hstarts : ¬ mappedPrefix.toList.isPrefixOf (trim address).toList = true :=
    mt List.isPrefixOf_iff_prefix.mp h
  simp only [unmapped, if_neg hstarts, List.isEmpty_iff, String.toList_eq_nil_iff,
    String.ofList_toList]

/-- The recorded address is the one without the prefix that it starts with if the last prefix is
that one, and something follows it. -/
theorem IsMarked.normalizeAddress_eq_unmapped_iff (h : IsMarked address before rest) :
    normalizeAddress address = unmapped address ↔ before = [] ∧ rest ≠ [] := by
  rw [normalizeAddress_of_isMarked h]
  constructor
  · intro heq
    by_cases hstarts : mappedPrefix.toList <+: (trim address).toList
    · obtain ⟨left, hleft⟩ := hstarts
      have hlengths := congrArg List.length (hleft.trans h.eq)
      simp only [List.length_append] at hlengths
      rw [unmapped_of_eq_append hleft.symm] at heq
      split at heq
      · rename_i hnothing
        have hrest : rest = [] := List.eq_nil_of_length_eq_zero (by
          rw [hnothing, List.length_nil] at hlengths
          omega)
        rw [hrest] at heq
        exact absurd heq (by decide)
      · rename_i hsome
        obtain rfl : rest = left := String.ofList_injective heq
        exact ⟨List.eq_nil_of_length_eq_zero (by omega), hsome⟩
    · rw [unmapped_of_not_isPrefix hstarts, if_neg h.trim_ne_empty] at heq
      exact absurd heq h.ofList_ne_trim
  · rintro ⟨rfl, hrest⟩
    rw [unmapped_of_eq_append (by simpa using h.eq), if_neg hrest]

/-- What follows the prefix ends as the trimmed text does. -/
theorem IsMarked.isBlank_of_getLast? (h : IsMarked address before rest) {c : Char}
    (hc : rest.getLast? = some c) : isBlank c = false := by
  have hend : (trimList address.toList).getLast? = some c := by
    rw [← toList_trim, h.eq, List.getLast?_append, hc]
    rfl
  exact isBlank_of_getLast?_trimList hend

/-- What is recorded is recorded as it is the next time if it is not empty and starts with no
blank. -/
theorem IsMarked.normalizeAddress_normalizeAddress_iff (h : IsMarked address before rest) :
    normalizeAddress (normalizeAddress address) = normalizeAddress address ↔
      rest ≠ [] ∧ ∀ c, rest.head? = some c → isBlank c = false := by
  rw [normalizeAddress_of_isMarked h]
  by_cases hrest : rest = []
  · subst hrest
    exact iff_of_false (by decide) (by simp)
  -- No prefix stands in what follows the last one, so the next time it is trimmed.
  have hplain : ¬ mappedPrefix.toList <:+: (trim (String.ofList rest)).toList := by
    rw [toList_trim, String.toList_ofList]
    exact fun hin => h.not_isInfix mappedPrefix_ne_nil (hin.trans (isInfix_trimList rest))
  have hleft : trim (String.ofList rest) ≠ "" := by
    rw [ne_eq, ← String.toList_eq_nil_iff, toList_trim, String.toList_ofList]
    exact trimList_ne_nil hrest fun c => h.isBlank_of_getLast?
  rw [normalizeAddress_of_not_isInfix hplain, if_neg hleft, trim, String.toList_ofList,
    String.ofList_inj, trimList_eq_self_iff]
  exact ⟨fun hends => ⟨hrest, hends.1⟩, fun hends => ⟨hends.2, fun c => h.isBlank_of_getLast?⟩⟩

/-- Without a prefix in it, an address is trimmed and then stays as it is. -/
theorem normalizeAddress_normalizeAddress_of_not_isInfix
    (h : ¬ mappedPrefix.toList <:+: (trim address).toList) :
    normalizeAddress (normalizeAddress address) = normalizeAddress address := by
  rw [normalizeAddress_of_not_isInfix h]
  split
  · decide
  · rename_i hempty
    rw [normalizeAddress_of_not_isInfix (by rwa [trim_trim]), trim_trim, if_neg hempty]

/-! ## What is recorded -/

/-- What every address without a prefix in it has, an address has by what stands around its last
prefix, if there is one. -/
theorem iff_forall_isMarked {p : Prop} {q : List Char → List Char → Prop}
    (hplain : ¬ mappedPrefix.toList <:+: (trim address).toList → p)
    (hmarked : ∀ before rest, IsMarked address before rest → (p ↔ q before rest)) :
    p ↔ ∀ before rest, IsMarked address before rest → q before rest := by
  refine ⟨fun hp before rest h => (hmarked before rest h).mp hp, fun hall => ?_⟩
  by_cases hin : mappedPrefix.toList <:+: (trim address).toList
  · obtain ⟨before, rest, h⟩ := exists_isLast mappedPrefix_ne_nil hin
    exact (hmarked before rest h).mpr (hall before rest h)
  · exact hplain hin

theorem normalizeAddress_eq_trim_iff (h : trim address ≠ "") :
    normalizeAddress address = trim address ↔
      ¬ mappedPrefix.toList <:+: (trim address).toList := by
  constructor
  · intro hsame hin
    obtain ⟨before, rest, hmarked⟩ := exists_isLast mappedPrefix_ne_nil hin
    exact IsMarked.ofList_ne_trim hmarked ((normalizeAddress_of_isMarked hmarked).symm.trans hsame)
  · intro hin
    rw [normalizeAddress_of_not_isInfix hin, if_neg h]

/-- What is recorded of an address, for every text.  It is the trimmed text without the prefix that
it starts with, or `unknown` if nothing is left, if and only if the last prefix in the text is that
one and something follows it, or there is none.  A text that is not blank comes back trimmed if and
only if there is none.  What is recorded is empty if and only if nothing follows the last prefix,
and is recorded as it is the next time if and only if something does and starts with no blank.  In
every case with a prefix it is what follows the last one. -/
theorem normalizeAddress_exact (address : String) :
    (normalizeAddress address = unmapped address ↔
      ∀ before rest, IsMarked address before rest → before = [] ∧ rest ≠ []) ∧
    (trim address ≠ "" → (normalizeAddress address = trim address ↔
      ¬ mappedPrefix.toList <:+: (trim address).toList)) ∧
    (normalizeAddress address ≠ "" ↔ ∀ before rest, IsMarked address before rest → rest ≠ []) ∧
    (normalizeAddress (normalizeAddress address) = normalizeAddress address ↔
      ∀ before rest, IsMarked address before rest →
        rest ≠ [] ∧ ∀ c, rest.head? = some c → isBlank c = false) ∧
    ∀ before rest, IsMarked address before rest →
      normalizeAddress address = String.ofList rest := by
  refine ⟨iff_forall_isMarked (fun hin => ?_)
      fun before rest h => h.normalizeAddress_eq_unmapped_iff,
    normalizeAddress_eq_trim_iff,
    iff_forall_isMarked (fun hin => ?_) fun before rest h => ?_,
    iff_forall_isMarked normalizeAddress_normalizeAddress_of_not_isInfix
      fun before rest h => h.normalizeAddress_normalizeAddress_iff,
    fun before rest => normalizeAddress_of_isMarked⟩
  · rw [normalizeAddress_of_not_isInfix hin,
      unmapped_of_not_isPrefix fun hstarts => hin hstarts.isInfix]
  · rw [normalizeAddress_of_not_isInfix hin]
    split
    · decide
    · assumption
  · rw [normalizeAddress_of_isMarked h, ne_eq, ← String.toList_eq_nil_iff, String.toList_ofList]

/-- An address with the prefix inside it loses what stands before, nothing is left of the prefix
alone, and a blank after it goes the next time. -/
theorem normalizeAddress_exact_inside :
    trim "fe80::ffff:1" ≠ "" ∧ normalizeAddress "fe80::ffff:1" = "1" ∧
      normalizeAddress "fe80::ffff:1" ≠ trim "fe80::ffff:1" ∧
      normalizeAddress "fe80::ffff:1" ≠ unmapped "fe80::ffff:1" ∧
      ¬ normalizeAddress " ::ffff: " ≠ "" ∧
      normalizeAddress (normalizeAddress "::ffff: 1") ≠ normalizeAddress "::ffff: 1" := by
  have hinside : IsMarked "fe80::ffff:1" "fe80".toList "1".toList :=
    isLast_of_not_isInfix (by decide) (by decide)
  have halone : IsMarked " ::ffff: " [] [] := isLast_of_not_isInfix (by decide) (by decide)
  have hblank : IsMarked "::ffff: 1" [] " 1".toList :=
    isLast_of_not_isInfix (by decide) (by decide)
  obtain ⟨hunmapped, htrim, -, -, hkept⟩ := normalizeAddress_exact "fe80::ffff:1"
  have hsome : trim "fe80::ffff:1" ≠ "" := by decide
  refine ⟨hsome, hkept _ _ hinside, fun hsame => (htrim hsome).mp hsame hinside.isInfix,
    fun hsame => ?_, fun hempty => ?_, fun hsame => ?_⟩
  · exact absurd (hunmapped.mp hsame _ _ hinside).1 (by decide)
  · exact (normalizeAddress_exact " ::ffff: ").2.2.1.mp hempty _ _ halone rfl
  · have hfirst := ((normalizeAddress_exact "::ffff: 1").2.2.2.1.mp hsame _ _ hblank).2
    exact absurd (hfirst ' ' (by decide)) (by decide)

end ArtifactRelay
