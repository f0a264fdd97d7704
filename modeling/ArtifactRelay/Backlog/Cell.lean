import ArtifactRelay.Binary64.Reading
import ArtifactRelay.Binary64.Written
import ArtifactRelay.Text.Number

/-!
# ArtifactRelay.Backlog.Cell

What a column of a row holds.  The backlog writes whole numbers into a column of
numbers, and reads nothing else from it; but an embedded database keeps any value
there, in the form that `forNumbers` gives it.  A column of texts keeps texts, and
`forTexts` gives that form.

`next` is the count after one more claim.  It counts on from whatever is there: a
text counts as the number that it starts with, and a whole number that has no next
one of 64 bits goes on as a real one.  From nought on the count is `counted`
(`next_counted`): a whole number while there is one, and then the real number next
to the last, which no more claims move.
-/

namespace ArtifactRelay.Backlog

open Text

/-- What a column of a row holds. -/
inductive Cell
  | null
  | whole (n : Int)
  /-- A number that is not whole, or past 64 bits. -/
  | real (x : Extended)
  | text (s : String)
  deriving DecidableEq, Repr

/-! ## Texts that denote numbers -/

/-- What stands at the start of a text that denotes a number. -/
structure Numeral where
  negative : Bool
  whole : List Char
  /-- The digits after the point, if there is one. -/
  fraction : Option (List Char)
  /-- The exponent, if its letter stands there: `none` in it if no digits follow. -/
  exponent : Option (Option Int)
  rest : List Char

namespace Numeral

/-- A blank around a number. -/
def isSpace (c : Char) : Bool := c == ' ' || ('\x09' ≤ c && c ≤ '\x0d')

/-- A sign, and what follows it. -/
def sign : List Char → Bool × List Char
  | '-' :: cs => (true, cs)
  | '+' :: cs => (false, cs)
  | cs => (false, cs)

/-- The digits after a point, and what follows them. -/
def readFraction : List Char → Option (List Char) × List Char
  | '.' :: cs => (some (cs.takeWhile isDigit), cs.dropWhile isDigit)
  | cs => (none, cs)

/-- An exponent after its letter, and what follows it. -/
def readExponent : List Char → Option (Option Int) × List Char
  | c :: cs =>
    if c == 'e' || c == 'E' then
      let (negative, cs) := sign cs
      let digits := cs.takeWhile isDigit
      let value : Int := valueOf 0 digits
      (some (if digits.isEmpty then none else some (if negative then -value else value)),
        cs.dropWhile isDigit)
    else (none, c :: cs)
  | [] => (none, [])

/-- The numeral that a text starts with, after blanks. -/
def ofText (s : String) : Numeral :=
  let (negative, cs) := sign (s.toList.dropWhile isSpace)
  let (fraction, rest) := readFraction (cs.dropWhile isDigit)
  let (exponent, rest) := readExponent rest
  ⟨negative, cs.takeWhile isDigit, fraction, exponent, rest⟩

/-- Whether there is a digit in it. -/
def hasDigits (n : Numeral) : Bool := !n.whole.isEmpty || n.fraction.any (!·.isEmpty)

/-- Whether it is written as a whole number, without a point and an exponent. -/
def isPlain (n : Numeral) : Bool := n.fraction.isNone && n.exponent.isNone

/-- Whether nothing but blanks follows. -/
def isComplete (n : Numeral) : Bool :=
  n.hasDigits && n.exponent != some none && n.rest.all isSpace

/-- The number as a real one. -/
def toReal (n : Numeral) : Extended :=
  let fraction := n.fraction.getD []
  Extended.ofDecimal n.negative (valueOf 0 (n.whole ++ fraction))
    ((n.exponent.bind id).getD 0 - fraction.length)

/-- The number of the digits before the point. -/
def toInt (n : Numeral) : Int :=
  if n.negative then -(valueOf 0 n.whole : Int) else valueOf 0 n.whole

end Numeral

namespace Cell

/-- Whether a whole number has 64 bits. -/
def fits (n : Int) : Bool := decide (-(maxSigned64 : Int) - 1 ≤ n ∧ n ≤ maxSigned64)

/-- A whole number, kept as a real one if it does not fit. -/
def ofInt (n : Int) : Cell :=
  if fits n then whole n else real (Extended.ofDecimal (n < 0) n.natAbs 0)

/-- A real number, kept as a whole one if it is one and well within 64 bits. -/
def ofReal (x : Extended) : Cell :=
  match x with
  | .finite y =>
    match y.toInt? with
    | some n => if n.natAbs < maxSigned64 then whole n else real x
    | none => real x
  | _ => real x

/-- The cell as a column of numbers keeps it: a text that denotes a number becomes it. -/
def forNumbers : Cell → Cell
  | text s =>
    let n := Numeral.ofText s
    if !n.isComplete then text s
    else if n.isPlain && fits n.toInt then whole n.toInt
    else ofReal n.toReal
  | real x => ofReal x
  | cell => cell

/-- The significant digits of a number that becomes a text. -/
def textDigits : Nat := 15

/-- The cell as a column of texts keeps it; `none` for a missing value. -/
def forTexts : Cell → Option String
  | null => none
  | whole n => some (toString n)
  | real (.finite x) => some (x.general textDigits)
  | real x => some x.text
  | text s => some s

/-- The whole number in a cell. -/
def whole? : Cell → Option Int
  | whole n => some n
  | _ => none

/-- One more than a real number. -/
def addOne : Extended → Extended
  | .finite x =>
    match (Binary64.ofNat? false 1).bind x.add? with
    | some y => .finite y
    | none => .infinite x.negative
  | x => x

/-- The count after one more claim. -/
def next : Cell → Cell
  | null => null
  | whole n => ofInt (n + 1)
  | real x => ofReal (addOne x)
  | text s =>
    let n := Numeral.ofText s
    if n.hasDigits && (n.fraction.isSome || n.exponent.any (·.isSome)) then ofReal (addOne n.toReal)
    else if fits n.toInt then ofInt (n.toInt + 1)
    else real n.toReal

@[simp] theorem whole?_whole (n : Int) : (whole n).whole? = some n := rfl

/-! ## Counting from nought -/

/-- The count after so many claims. -/
def counted (n : Nat) : Cell :=
  if n ≤ maxSigned64 then whole n else real (Extended.ofDecimal false (maxSigned64 + 1) 0)

@[simp] theorem counted_zero : counted 0 = whole 0 := rfl

theorem counted_of_le {n : Nat} (h : n ≤ maxSigned64) : counted n = whole n := if_pos h

theorem counted_of_lt {n : Nat} (h : maxSigned64 < n) :
    counted n = real (Extended.ofDecimal false (maxSigned64 + 1) 0) :=
  if_neg (Nat.not_le.mpr h)

/-- A whole count goes up by one while there is a next one. -/
theorem next_whole {n : Nat} (h : n < maxSigned64) : (whole n).next = whole (n + 1 : Nat) := by
  have hfits : fits ((n : Int) + 1) = true := decide_eq_true (by omega)
  show ofInt ((n : Int) + 1) = _
  rw [ofInt, if_pos hfits]
  rfl

/-- Past the whole numbers of 64 bits a count is a real one. -/
theorem next_whole_of_le {n : Nat} (h : maxSigned64 ≤ n) : ∃ x, (whole n).next = real x := by
  have hfits : ¬ fits ((n : Int) + 1) = true := fun hfits => by
    have hle := (of_decide_eq_true hfits).2
    omega
  exact ⟨_, (show (whole n).next = ofInt (n + 1) from rfl).trans (if_neg hfits)⟩

/-- One more claim makes the next count. -/
@[simp] theorem next_counted (n : Nat) : (counted n).next = counted (n + 1) := by
  rcases Nat.lt_trichotomy n maxSigned64 with hlt | rfl | hgt
  · rw [counted_of_le (Nat.le_of_lt hlt), next_whole hlt, counted_of_le hlt]
  · rfl
  · -- the real number is too large for one more to be told
    rw [counted_of_lt hgt, counted_of_lt (Nat.lt_succ_of_lt hgt)]
    rfl

/-- A whole number of claims is the one that was counted. -/
theorem counted_eq_whole {n : Nat} {k : Int} :
    counted n = whole k ↔ k = n ∧ n ≤ maxSigned64 := by
  unfold counted
  split
  · rename_i hle
    rw [whole.injEq]
    exact ⟨fun h => ⟨h.symm, hle⟩, fun h => h.1.symm⟩
  · rename_i hgt
    exact ⟨nofun, fun h => absurd h.2 hgt⟩

/-- Two counts of which one is whole are counts of as many claims. -/
theorem counted_inj {n k : Nat} (hk : k ≤ maxSigned64) : counted n = counted k ↔ n = k := by
  rw [counted_of_le hk, counted_eq_whole]
  omega

/-- What was counted once was counted, however it is counted. -/
theorem pos_of_counted_eq {n k : Nat} (h : counted n = counted k) (hn : 1 ≤ n) : 1 ≤ k := by
  refine Nat.pos_of_ne_zero fun hk => ?_
  subst hk
  have hzero := (counted_inj (Nat.zero_le _)).mp h
  omega

end Cell

end ArtifactRelay.Backlog
