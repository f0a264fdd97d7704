/-!
# ArtifactRelay.Text.Blank

Blank characters and trimming.  A blank is a character with the Unicode property
`White_Space`; hints written by sensors and values of settings are trimmed of
blanks on both sides before they are looked at.

* `inRanges` reads the table of a property: sorted ranges of code points, up to the
  first that reaches the one that is asked for.
* `trimList` works on characters and `trim` on texts; a trimmed text has nothing
  left to trim (`trimList_trimList`).
* `asciiLower` lowers the letters of ASCII and leaves every other character.
-/

namespace ArtifactRelay.Text

/-- Whether `n` lies in one of the ranges `rs`, both ends included. -/
def inRanges (n : Nat) : List (Nat × Nat) → Bool
  | [] => false
  | (lo, hi) :: rs => if n ≤ hi then decide (lo ≤ n) else inRanges n rs

@[simp] theorem inRanges_nil (n : Nat) : inRanges n [] = false := rfl

/-- The code points with the property `White_Space`. -/
def blankRanges : List (Nat × Nat) := [
  (9, 13), (32, 32), (133, 133), (160, 160), (5760, 5760), (8192, 8202), (8232, 8233),
  (8239, 8239), (8287, 8287), (12288, 12288)]

/-- A blank: a character with the property `White_Space`. -/
def isBlank (c : Char) : Bool :=
  inRanges c.toNat blankRanges

/-! ## Trimming -/

/-- The characters without the blanks before the first and after the last other one. -/
def trimList (cs : List Char) : List Char :=
  ((cs.dropWhile isBlank).reverse.dropWhile isBlank).reverse

/-- `s` without the blanks at its two ends. -/
def trim (s : String) : String :=
  String.ofList (trimList s.toList)

@[simp] theorem toList_trim (s : String) : (trim s).toList = trimList s.toList := by
  simp [trim]

/-- Characters that do not start with a blank stay as they are. -/
theorem dropWhile_isBlank_of_head? {cs : List Char}
    (h : ∀ c, cs.head? = some c → isBlank c = false) : cs.dropWhile isBlank = cs := by
  cases cs with
  | nil => rfl
  | cons c cs => simp [h c rfl]

/-- What is left of leading blanks starts with another character. -/
theorem isBlank_of_head?_dropWhile {cs : List Char} {c : Char}
    (h : (cs.dropWhile isBlank).head? = some c) : isBlank c = false := by
  have := List.head?_dropWhile_not isBlank cs
  simpa [h] using this

/-- A trimmed text does not start with a blank. -/
theorem isBlank_of_head?_trimList {cs : List Char} {c : Char}
    (h : (trimList cs).head? = some c) : isBlank c = false := by
  have parts :=
    List.takeWhile_append_dropWhile (p := isBlank) (l := (cs.dropWhile isBlank).reverse)
  have split : cs.dropWhile isBlank =
      trimList cs ++ ((cs.dropWhile isBlank).reverse.takeWhile isBlank).reverse := by
    rw [trimList, ← List.reverse_append, parts, List.reverse_reverse]
  have start : (cs.dropWhile isBlank).head? = some c := by
    rw [split, List.head?_append, h]
    rfl
  exact isBlank_of_head?_dropWhile start

/-- A trimmed text does not end with a blank. -/
theorem isBlank_of_getLast?_trimList {cs : List Char} {c : Char}
    (h : (trimList cs).getLast? = some c) : isBlank c = false := by
  rw [trimList, List.getLast?_reverse] at h
  exact isBlank_of_head?_dropWhile h

/-- Characters that neither start nor end with a blank stay as they are. -/
theorem trimList_eq_self {cs : List Char} (hfirst : ∀ c, cs.head? = some c → isBlank c = false)
    (hlast : ∀ c, cs.getLast? = some c → isBlank c = false) : trimList cs = cs := by
  have hback : cs.reverse.dropWhile isBlank = cs.reverse :=
    dropWhile_isBlank_of_head? fun c hc => hlast c (by simpa using hc)
  rw [trimList, dropWhile_isBlank_of_head? hfirst, hback, List.reverse_reverse]

/-- Trimming is done once. -/
theorem trimList_trimList (cs : List Char) : trimList (trimList cs) = trimList cs :=
  trimList_eq_self (fun _ => isBlank_of_head?_trimList) (fun _ => isBlank_of_getLast?_trimList)

/-- Characters that are replaced by others without touching a blank are trimmed before or after. -/
theorem trimList_map {f : Char → Char} (hf : ∀ c, isBlank (f c) = isBlank c) (cs : List Char) :
    trimList (cs.map f) = (trimList cs).map f := by
  have hcomp : isBlank ∘ f = isBlank := funext hf
  simp only [trimList, List.dropWhile_map, hcomp, ← List.map_reverse]

/-- A text of blanks only, the empty one included. -/
def isBlankText (s : String) : Bool :=
  s.toList.all isBlank

/-! ## ASCII case -/

/-- `s` with the capital letters of ASCII lowered. -/
def asciiLower (s : String) : String :=
  String.ofList (s.toList.map Char.toLower)

@[simp] theorem toList_asciiLower (s : String) :
    (asciiLower s).toList = s.toList.map Char.toLower := by
  simp [asciiLower]

/-- A letter is no blank, whatever its case. -/
theorem isBlank_toLower (c : Char) : isBlank c.toLower = isBlank c := by
  by_cases h : 65 ≤ c.toNat ∧ c.toNat ≤ 90
  · have hletter : ∀ n < 91, 65 ≤ n →
        isBlank (Char.ofNat n).toLower = isBlank (Char.ofNat n) := by decide
    have hc := hletter c.toNat (by omega) h.1
    rwa [Char.ofNat_toNat] at hc
  · have hcapital : ¬ (c.val ≥ 'A'.val ∧ c.val ≤ 'Z'.val) := h
    have hsame : c.toLower = c := dif_neg hcapital
    rw [hsame]

/-- A text is trimmed before or after its letters are lowered. -/
theorem trim_asciiLower (s : String) : trim (asciiLower s) = asciiLower (trim s) := by
  simp [trim, asciiLower, trimList_map isBlank_toLower]

end ArtifactRelay.Text
