import ArtifactRelay.Json.Basic
import ArtifactRelay.Json.Document

/-!
# ArtifactRelay.Json.Reading

From documents to values.  A document is a value if no object or list stands more
than 127 levels deep, no text has half a surrogate pair, and no number is past
the largest binary number.  Of repeated names the last field counts.

A number without point and exponent that fits 64 bits is whole, minus zero
excepted.  Every other number is read in one pass: digits are collected as long
as they fit an unsigned number of 64 bits, the rest only shifts the decimal
exponent, and the result is that number times or divided by a power of ten, each
step rounded.
-/

namespace ArtifactRelay.Json

open Text

namespace Numeral

/-- The largest significand that is collected. -/
def maxSignificand : Nat := 18446744073709551615

/-- Digits collected into a significand; answers it and the digits that did not fit. -/
def collect (significand : Nat) : List Char → Nat × List Char
  | [] => (significand, [])
  | c :: cs =>
    let next := significand * 10 + (digitValue c).getD 0
    if next ≤ maxSignificand then collect next cs else (significand, c :: cs)

/-- The number times a power of ten up to 10^308, in one rounded step. -/
def shift (x : Binary64) (exponent : Int) : Option Binary64 := do
  let power ← Binary64.ofNat? false (pow10 exponent.natAbs)
  if 0 ≤ exponent then x.mul? power else x.div? power

/-- The number times a power of ten.  One far below 1 is reached in two steps, each rounded,
and past the second step nothing but zero is left of a collected significand. -/
def scale (x : Binary64) (exponent : Int) : Option Binary64 :=
  if exponent.natAbs ≤ 308 then shift x exponent
  else if x.isZero then some x
  else if 0 ≤ exponent then none
  else if exponent < -616 then some (Binary64.zero x.negative)
  else (shift x (-308)).bind fun y => shift y (exponent + 308)

/-- The exponent as written; `none` if it does not fit a signed number of 32 bits. -/
def writtenExponent (n : Numeral) : Option Int :=
  match n.exponent with
  | none => some 0
  | some (negative, ds) =>
    let e := valueOf 0 ds
    if e ≤ 2147483647 then some (if negative then -(e : Int) else e) else none

/-- The number as a binary number, `none` past the largest one. -/
def toBinary64? (n : Numeral) : Option Binary64 :=
  let (significand, dropped) := collect 0 n.whole
  let (significand, beyond) := collect significand n.fraction
  let shifted : Int := dropped.length - (n.fraction.length - beyond.length : Nat)
  match n.writtenExponent with
  | some e => do
    let x ← Binary64.ofNat? n.negative significand
    scale x (shifted + e)
  | none =>
    if significand ≠ 0 ∧ n.exponent.any (fun e => !e.1) then none
    else some (Binary64.zero n.negative)

/-- The number of a numeral. -/
def number? (n : Numeral) : Option Number :=
  let whole := valueOf 0 n.whole
  if n.fraction.isEmpty ∧ n.exponent = none ∧ whole ≤ maxSignificand then
    if !n.negative then some (.int whole)
    else if 1 ≤ whole ∧ whole ≤ 9223372036854775808 then some (.int (-(whole : Int)))
    else (Binary64.ofNat? true whole).map .float
  else n.toBinary64?.map .float

end Numeral

/-- The deepest nesting of lists and objects. -/
def maxDepth : Nat := 127

mutual

/-- The value of a document, with `depth` levels left for lists and objects. -/
def Document.value? (depth : Nat) : Document → Option Json
  | .null => some .null
  | .bool b => some (.bool b)
  | .number n => n.number?.map .number
  | .string s => s.map .string
  | .array xs => if depth = 0 then none else (values? (depth - 1) xs).map .array
  | .object fields => if depth = 0 then none else (fields? (depth - 1) [] fields).map .object

/-- The values of documents. -/
def values? (depth : Nat) : List Document → Option (List Json)
  | [] => some []
  | x :: xs => do
    let v ← x.value? depth
    let vs ← values? depth xs
    some (v :: vs)

/-- The fields of an object, set one after the other. -/
def fields? (depth : Nat) (done : List (String × Json)) :
    List (Option String × Document) → Option (List (String × Json))
  | [] => some done
  | (key, x) :: rest => do
    let key ← key
    let v ← x.value? depth
    fields? depth (setField key v done) rest

end

/-- The value that a text denotes. -/
def ofText? (s : String) : Option Json := do
  (← Document.ofText? s).value? maxDepth

end ArtifactRelay.Json
