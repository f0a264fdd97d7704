import ArtifactRelay.Text.Blank
import Mathlib.Data.List.Infix
import Mathlib.Data.List.TakeWhile

/-!
# ArtifactRelay.Proofs.Text.Blank

What trimming leaves.  It is a part of the text (`isInfix_trimList`), nothing if the text is blank
(`isBlankText_iff`), and the whole text if that has no blanks at its ends (`trimList_eq_self_iff`).
-/

namespace ArtifactRelay.Text

theorem isInfix_trimList (cs : List Char) : trimList cs <:+: cs := by
  have hback : (cs.dropWhile isBlank).reverse.dropWhile isBlank <:+
      (cs.dropWhile isBlank).reverse := List.dropWhile_suffix _
  have hfront : trimList cs <+: cs.dropWhile isBlank := by
    rw [trimList, ← List.reverse_suffix, List.reverse_reverse]
    exact hback
  exact hfront.isInfix.trans (List.dropWhile_suffix _).isInfix

theorem trimList_eq_nil_iff {cs : List Char} : trimList cs = [] ↔ cs.all isBlank = true := by
  rw [trimList, List.reverse_eq_nil_iff, List.dropWhile_eq_nil_iff, List.all_eq_true]
  constructor
  · intro h
    refine List.dropWhile_eq_nil_iff.mp ?_
    cases hleft : cs.dropWhile isBlank with
    | nil => rfl
    | cons c rest =>
      have hfirst : isBlank c = false := isBlank_of_head?_dropWhile (by rw [hleft]; rfl)
      have hblank := h c (by simp [hleft])
      rw [hfirst] at hblank
      cases hblank
  · intro h
    simp [List.dropWhile_eq_nil_iff.mpr h]

/-- Something is left of a text that ends with another character than a blank. -/
theorem trimList_ne_nil {cs : List Char} (hcs : cs ≠ [])
    (hlast : ∀ c, cs.getLast? = some c → isBlank c = false) : trimList cs ≠ [] := by
  rw [ne_eq, trimList_eq_nil_iff, List.all_eq_true]
  intro hblank
  have hend := hlast _ (List.getLast?_eq_some_getLast hcs)
  rw [hblank _ (List.getLast_mem hcs)] at hend
  cases hend

/-- A text is blank if nothing is left of it. -/
theorem isBlankText_iff {s : String} : isBlankText s = true ↔ trim s = "" := by
  rw [isBlankText, ← trimList_eq_nil_iff, ← toList_trim, String.toList_eq_nil_iff]

theorem trim_trim (s : String) : trim (trim s) = trim s := by
  rw [trim, toList_trim, trimList_trimList, trim]

/-- Trimming leaves a text as it is if it has no blanks at its ends. -/
theorem trimList_eq_self_iff {cs : List Char} :
    trimList cs = cs ↔ (∀ c, cs.head? = some c → isBlank c = false) ∧
      ∀ c, cs.getLast? = some c → isBlank c = false := by
  constructor
  · intro h
    rw [← h]
    exact ⟨fun _ => isBlank_of_head?_trimList, fun _ => isBlank_of_getLast?_trimList⟩
  · rintro ⟨hfirst, hlast⟩
    exact trimList_eq_self hfirst hlast

end ArtifactRelay.Text
