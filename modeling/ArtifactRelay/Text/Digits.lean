/-!
# ArtifactRelay.Text.Digits

Digits: numbers of a fixed width, padding of columns, and reading runs of decimal
digits and single hexadecimal ones.  `fixedDigits` drops what does not fit its
width, so its length is always the width asked for (`length_fixedDigits`), and
reading it back gives the number reduced to that width (`valueOf_fixedDigits`).
The scales of decimal and binary numbers are `pow10` and `pow2`.
-/

namespace ArtifactRelay

/-- Two to the power `k`. -/
def pow2 (k : Nat) : Nat := Nat.pow 2 k

/-- Ten to the power `k`. -/
def pow10 (k : Nat) : Nat := Nat.pow 10 k

@[simp] theorem pow2_zero : pow2 0 = 1 := rfl

@[simp] theorem pow10_zero : pow10 0 = 1 := rfl

theorem pow10_succ (k : Nat) : pow10 (k + 1) = pow10 k * 10 := rfl

theorem pow2_mono {j k : Nat} (h : j ≤ k) : pow2 j ≤ pow2 k :=
  Nat.pow_le_pow_right (by decide) h

namespace Text

/-- The decimal digit of `n % 10`. -/
def digitChar (n : Nat) : Char :=
  Char.ofNat (48 + n % 10)

/-- The last `width` decimal digits of `n`, with leading zeros. -/
def fixedDigits : (width : Nat) → (n : Nat) → List Char
  | 0, _ => []
  | width + 1, n => fixedDigits width (n / 10) ++ [digitChar n]

@[simp] theorem length_fixedDigits (width n : Nat) : (fixedDigits width n).length = width := by
  induction width generalizing n with
  | zero => rfl
  | succ width ih => simp [fixedDigits, ih]

/-- The value of a decimal digit, `none` for any other character. -/
def digitValue (c : Char) : Option Nat :=
  if '0' ≤ c ∧ c ≤ '9' then some (c.toNat - 48) else none

/-- A decimal digit of ASCII. -/
def isDigit (c : Char) : Bool :=
  (digitValue c).isSome

/-- The number that a run of digits denotes, read on after `acc`. -/
def valueOf (acc : Nat) : List Char → Nat
  | [] => acc
  | c :: cs => valueOf (acc * 10 + (digitValue c).getD 0) cs

theorem valueOf_append (acc : Nat) (cs ds : List Char) :
    valueOf acc (cs ++ ds) = valueOf (valueOf acc cs) ds := by
  induction cs generalizing acc with
  | nil => rfl
  | cons c cs ih => exact ih _

theorem digitValue_digitChar (n : Nat) : digitValue (digitChar n) = some (n % 10) := by
  have h : n % 10 < 10 := Nat.mod_lt n (by decide)
  unfold digitChar
  generalize n % 10 = k at h
  match k, h with
  | 0, _ | 1, _ | 2, _ | 3, _ | 4, _ | 5, _ | 6, _ | 7, _ | 8, _ | 9, _ => rfl
  | k + 10, h => exact absurd h (by omega)

/-- Reading a number of fixed width back gives it, reduced to the width. -/
theorem valueOf_fixedDigits (width n : Nat) :
    valueOf 0 (fixedDigits width n) = n % pow10 width := by
  induction width generalizing n with
  | zero => simp [fixedDigits, valueOf, Nat.mod_one]
  | succ width ih =>
    rw [fixedDigits, valueOf_append, ih]
    simp only [valueOf, digitValue_digitChar, Option.getD_some]
    rw [pow10_succ, Nat.mul_comm (pow10 width) 10, Nat.mod_mul]
    omega

/-- The value of a hexadecimal digit, `none` for any other character. -/
def hexValue (c : Char) : Option Nat :=
  if '0' ≤ c ∧ c ≤ '9' then some (c.toNat - 48)
  else if 'a' ≤ c ∧ c ≤ 'f' then some (c.toNat - 87)
  else if 'A' ≤ c ∧ c ≤ 'F' then some (c.toNat - 55)
  else none

/-! ## Columns -/

/-- `s` followed by blanks up to `width` characters; a longer text is kept. -/
def padRight (width : Nat) (s : String) : String :=
  s ++ String.ofList (List.replicate (width - s.length) ' ')

end Text

end ArtifactRelay
