import ArtifactRelay.Binary64.Written
import ArtifactRelay.Text.Digits

/-!
# ArtifactRelay.Binary64.Reading

Binary numbers of 64 bits read from text.  A number is an optional sign and
decimal digits with at most one point and an optional exponent, at least one
digit before the exponent; or one of the words `inf`, `infinity` and `nan` in any
case.  What lies past the largest number is infinite.
-/

namespace ArtifactRelay

open Text

/-- A binary number, or one of the values that are no numbers. -/
inductive Extended
  | nan
  | infinite (negative : Bool)
  | finite (x : Binary64)
  deriving DecidableEq, Repr

namespace Extended

/-- The value of a sign and a decimal number. -/
def ofDecimal (negative : Bool) (digits : Nat) (exponent : Int) : Extended :=
  match Binary64.ofDecimal? negative digits exponent with
  | some x => finite x
  | none => infinite negative

/-- The exponent after its letter: an optional sign and digits to the end. -/
def exponent? (cs : List Char) : Option Int :=
  let (negative, ds) := match cs with
    | '-' :: ds => (true, ds)
    | '+' :: ds => (false, ds)
    | ds => (false, ds)
  if ds.isEmpty || !ds.all isDigit then none
  else some (if negative then -(valueOf 0 ds : Int) else valueOf 0 ds)

/-- The digits, the point and the exponent of a number without its sign. -/
def decimal? (negative : Bool) (cs : List Char) : Option Extended := do
  let whole := cs.takeWhile isDigit
  let rest := cs.dropWhile isDigit
  let (fraction, rest) := match rest with
    | '.' :: rest => (rest.takeWhile isDigit, rest.dropWhile isDigit)
    | rest => ([], rest)
  if whole.isEmpty && fraction.isEmpty then none
  else
    let exponent ← match rest with
      | [] => some 0
      | c :: rest => if c == 'e' || c == 'E' then exponent? rest else none
    some (ofDecimal negative (valueOf 0 (whole ++ fraction)) (exponent - fraction.length))

/-- The value that a text denotes. -/
def ofText? (s : String) : Option Extended :=
  let (negative, cs) := match s.toList with
    | '-' :: cs => (true, cs)
    | '+' :: cs => (false, cs)
    | cs => (false, cs)
  match String.ofList (cs.map Char.toLower) with
  | "nan" => some nan
  | "inf" | "infinity" => some (infinite negative)
  | _ => decimal? negative cs

/-- The value written out, without an exponent. -/
def text : Extended → String
  | nan => "NaN"
  | infinite negative => if negative then "-inf" else "inf"
  | finite x => x.positional

end Extended

end ArtifactRelay
