import ArtifactRelay.Binary64.Basic

/-!
# ArtifactRelay.Binary64.Written

Binary numbers written in decimal digits: in the fewest that read back the same
number, or in a fixed count of them.

A number owns the interval of fractions that round to it, ends included if its
significand is even.  For one digit, two digits and so on, the two neighbours of the
number on that decimal grid are tried; the first grid with one of them in the interval
gives the digits, and of two the nearer is taken.  At equal distance a `Tie`
decides: the two notations, `positional` and `scientific`, differ in it.

With a fixed count of significant digits (`general`) a half goes up and trailing zeros
are left out.  The text always has a point with a digit after it, and an exponent of at
least two digits if the number is below 10^-4 or has more digits before the point than
are significant.
-/

namespace ArtifactRelay.Binary64

/-! ## The fewest digits -/

/-- A decimal number: `digits · 10^exponent`. -/
structure Decimal where
  digits : Nat
  exponent : Int
  deriving DecidableEq, Repr

/-- The largest `k` with `10^k ≤ num / den`, for a positive fraction. -/
def decimalExponent (num den : Nat) : Int :=
  if den ≤ num then ((toString (num / den)).length : Int) - 1
  else
    let q := den / num
    let length := (toString q).length
    if q = pow10 (length - 1) ∧ den % num = 0 then -((length : Int) - 1) else -(length : Int)

/-- The interval of a number as `(low, high, den)`: the fractions from `low / den` to
`high / den` round to it. -/
def interval (x : Binary64) : Nat × Nat × Nat :=
  let low := if x.mantissa = pow2 52 ∧ -1074 < x.exponent then 4 * x.mantissa - 1
    else 4 * x.mantissa - 2
  let high := 4 * x.mantissa + 2
  if 0 ≤ x.exponent then
    let k := pow2 x.exponent.toNat
    (low * k, high * k, 4)
  else (low, high, 4 * pow2 (-x.exponent).toNat)

/-- Whether `c · 10^p` rounds to `x`. -/
def owns (x : Binary64) (c : Nat) (p : Int) : Bool :=
  let (low, high, den) := x.interval
  let (n, d) := if 0 ≤ p then (c * pow10 p.toNat, 1) else (c, pow10 (-p).toNat)
  let n := n * den
  if x.mantissa % 2 = 0 then low * d ≤ n && n ≤ high * d else low * d < n && n < high * d

/-- What is taken of two decimals at equal distance. -/
inductive Tie
  /-- The one whose last digit is even. -/
  | even
  /-- The larger one. -/
  | up
  deriving DecidableEq, Repr

/-- The whole number nearest to a fraction. -/
def Tie.round (tie : Tie) (num den : Nat) : Nat :=
  match tie with
  | even => roundHalfEven num den
  | up => (2 * num + den) / (2 * den)

/-- The digits for the grid `10^p`, if a neighbour on it rounds to `x`. -/
def onGrid (tie : Tie) (x : Binary64) (p : Int) : Option Decimal :=
  let (num, den) := x.fraction
  let (num, den) := if 0 ≤ p then (num, den * pow10 p.toNat) else (num * pow10 (-p).toNat, den)
  let below := num / den
  let nearest := tie.round num den
  match owns x below p, owns x (below + 1) p with
  | true, true => some ⟨nearest, p⟩
  | true, false => some ⟨below, p⟩
  | false, true => some ⟨below + 1, p⟩
  | false, false => none

/-- The fewest digits that read back a positive number: the first grid, from `k` digits on,
that has them. -/
def shortestFrom (tie : Tie) (x : Binary64) (top : Int) : (tries : Nat) → (k : Nat) → Decimal
  | 0, _ => ⟨tie.round x.fraction.1 x.fraction.2, 0⟩
  | tries + 1, k => (onGrid tie x (top - k)).getD (shortestFrom tie x top tries (k + 1))

/-- Digits without trailing zeros. -/
def stripZeros (n : Nat) (exponent : Int) : Decimal :=
  if h : n ≠ 0 ∧ n % 10 = 0 then stripZeros (n / 10) (exponent + 1) else ⟨n, exponent⟩
termination_by n
decreasing_by omega

/-- The fewest digits that read back the same magnitude. -/
def shortest (tie : Tie) (x : Binary64) : Decimal :=
  if x.isZero then ⟨0, 0⟩
  else
    let (num, den) := x.fraction
    let d := shortestFrom tie x (decimalExponent num den) 17 0
    stripZeros d.digits d.exponent

/-- The digits written out with a point where the exponent puts it; a whole number has no
point. -/
def Decimal.positional (d : Decimal) : String :=
  let s := toString d.digits
  if 0 ≤ d.exponent then
    if d.digits = 0 then s else s ++ String.ofList (List.replicate d.exponent.toNat '0')
  else
    let places := (-d.exponent).toNat
    let padded := List.replicate (places + 1 - s.length) '0' ++ s.toList
    let whole := padded.length - places
    String.ofList (padded.take whole ++ '.' :: padded.drop whole)

/-- The number in positional notation, whatever its size.  At equal distance the larger digits
are taken. -/
def positional (x : Binary64) : String :=
  (if x.negative then "-" else "") ++ (x.shortest .up).positional

/-- The number with a point in it, and an exponent outside 10^-5 to 10^16: one digit stands
before the point then, and the exponent has a sign if it is positive too.  At equal distance
the even digits are taken. -/
def scientific (x : Binary64) : String :=
  let sign := if x.negative then "-" else ""
  let d := x.shortest .even
  if d.digits = 0 then sign ++ "0.0"
  else
    let s := toString d.digits
    let point := d.exponent + (s.length - 1)
    if -5 ≤ point ∧ point < 16 then
      sign ++ d.positional ++ (if 0 ≤ d.exponent then ".0" else "")
    else
      let rest := s.toList.drop 1
      sign ++ String.ofList (s.toList.take 1) ++
        (if rest.isEmpty then "" else "." ++ String.ofList rest) ++
        "e" ++ (if 0 ≤ point then "+" else "-") ++ toString point.natAbs

/-! ## A fixed count of digits -/

/-- The magnitude of a positive number, rounded to a count of digits. -/
def significant (count : Nat) (x : Binary64) : Decimal :=
  let (num, den) := x.fraction
  let p := decimalExponent num den + 1 - count
  let (num, den) := if 0 ≤ p then (num, den * pow10 p.toNat) else (num * pow10 (-p).toNat, den)
  stripZeros (Tie.up.round num den) p

/-- The digits with a point after the first one. -/
def pointed (digits : String) : String :=
  let rest := String.ofList (digits.toList.drop 1)
  String.ofList (digits.toList.take 1) ++ "." ++ (if rest.isEmpty then "0" else rest)

/-- The exponent of a power of ten, with its sign and at least two digits. -/
def exponentText (exponent : Int) : String :=
  let digits := toString exponent.natAbs
  (if exponent < 0 then "-" else "+") ++ (if digits.length < 2 then "0" else "") ++ digits

/-- The number with `count` significant digits. -/
def general (count : Nat) (x : Binary64) : String :=
  if x.isZero then "0.0"
  else
    let d := x.significant count
    let digits := toString d.digits
    let point := d.exponent + (digits.length - 1)
    (if x.negative then "-" else "") ++
      if -4 ≤ point ∧ point < count then
        d.positional ++ (if 0 ≤ d.exponent then ".0" else "")
      else pointed digits ++ "e" ++ exponentText point

end ArtifactRelay.Binary64
