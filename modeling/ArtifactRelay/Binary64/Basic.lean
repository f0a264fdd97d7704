import ArtifactRelay.Text.Digits

/-!
# ArtifactRelay.Binary64.Basic

Finite binary numbers of 64 bits.  A number is a sign, a significand below 2^53
and a binary exponent from -1074 on; zero has a sign too.  Every operation is
computed on exact fractions and rounded once, to the nearest number and, between
two, to the one with an even significand; a result past the largest number is
`none`.
-/

namespace ArtifactRelay

/-- The number `mantissa · 2^exponent`, or its opposite. -/
structure Binary64 where
  negative : Bool
  mantissa : Nat
  exponent : Int
  deriving DecidableEq, Repr

/-- `num / den` rounded to the nearest whole number, a half to the even one. -/
def roundHalfEven (num den : Nat) : Nat :=
  let q := num / den
  let twice := 2 * (num % den)
  if twice < den then q
  else if den < twice then q + 1
  else q + q % 2

namespace Binary64

/-- Zero. -/
def zero (negative : Bool) : Binary64 := ⟨negative, 0, -1074⟩

/-- Whether the number is zero, of either sign. -/
def isZero (x : Binary64) : Bool := x.mantissa == 0

/-- The opposite number. -/
def neg (x : Binary64) : Binary64 := { x with negative := !x.negative }

/-- The magnitude as a fraction. -/
def fraction (x : Binary64) : Nat × Nat :=
  if 0 ≤ x.exponent then (x.mantissa * pow2 x.exponent.toNat, 1)
  else (x.mantissa, pow2 (-x.exponent).toNat)

/-- `num / den` in units of `2^e`, rounded. -/
def unitsOf (num den : Nat) (e : Int) : Nat :=
  if 0 ≤ e then roundHalfEven num (den * pow2 e.toNat)
  else roundHalfEven (num * pow2 (-e).toNat) den

/-- Whether `num / den` is at least `2^e`. -/
def reaches (num den : Nat) (e : Int) : Bool :=
  if 0 ≤ e then den * pow2 e.toNat ≤ num else den ≤ num * pow2 (-e).toNat

/-- The number nearest to `num / den`, `none` past the largest one. -/
def ofFraction? (negative : Bool) (num den : Nat) : Option Binary64 :=
  if num = 0 then some (zero negative)
  else
    let guess : Int := (Nat.log2 num : Int) - Nat.log2 den - 53
    let e := max (if reaches num den (guess + 53) then guess + 1 else guess) (-1074)
    let m := unitsOf num den e
    let (m, e) := if m = pow2 53 then (pow2 52, e + 1) else (m, e)
    if 971 < e then none else some ⟨negative, m, e⟩

/-- The number nearest to a natural number. -/
def ofNat? (negative : Bool) (n : Nat) : Option Binary64 := ofFraction? negative n 1

/-- The number nearest to `digits · 10^exp`, `none` past the largest one.  Exponents far out
of range are decided by the count of digits, without the power of ten. -/
def ofDecimal? (negative : Bool) (digits : Nat) (exp : Int) : Option Binary64 :=
  if digits = 0 then some (zero negative)
  else
    let magnitude : Int := (toString digits).length + exp
    if 310 < magnitude then none
    else if magnitude < -330 then some (zero negative)
    else if 0 ≤ exp then ofFraction? negative (digits * pow10 exp.toNat) 1
    else ofFraction? negative digits (pow10 (-exp).toNat)

/-- The sum, rounded.  A sum of zero is positive unless both numbers are negative. -/
def add? (x y : Binary64) : Option Binary64 :=
  let (a, b) := x.fraction
  let (c, d) := y.fraction
  let signed (negative : Bool) (n : Nat) : Int := if negative then -n else n
  let sum := signed x.negative (a * d) + signed y.negative (c * b)
  ofFraction? (if sum = 0 then x.negative && y.negative else sum < 0) sum.natAbs (b * d)

/-- The whole number that the number is, if it is one. -/
def toInt? (x : Binary64) : Option Int :=
  let (num, den) := x.fraction
  if num % den = 0 then some (if x.negative then -(num / den : Nat) else (num / den : Nat))
  else none

/-- The product, rounded. -/
def mul? (x y : Binary64) : Option Binary64 :=
  let (a, b) := x.fraction
  let (c, d) := y.fraction
  ofFraction? (x.negative != y.negative) (a * c) (b * d)

/-- The quotient, rounded; `none` for a division by zero too. -/
def div? (x y : Binary64) : Option Binary64 :=
  let (a, b) := x.fraction
  let (c, d) := y.fraction
  if c = 0 then none else ofFraction? (x.negative != y.negative) (a * d) (b * c)

end Binary64

end ArtifactRelay
