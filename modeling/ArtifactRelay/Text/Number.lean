import ArtifactRelay.Text.Digits

/-!
# ArtifactRelay.Text.Number

Whole numbers written as text.  A number is an optional sign and decimal digits,
nothing else; it is read from the left, and the first digit that takes it out of
its range, or the first character that is no digit, decides the fault.
A type without negative numbers has no minus sign either.
-/

namespace ArtifactRelay.Text

/-- Why a text is not a number of the wanted range. -/
inductive NumberFault
  | empty
  | invalidDigit
  | tooLarge
  | tooSmall
  deriving DecidableEq, Repr

/-- The fault in words. -/
def NumberFault.message : NumberFault → String
  | .empty => "cannot parse integer from empty string"
  | .invalidDigit => "invalid digit found in string"
  | .tooLarge => "number too large to fit in target type"
  | .tooSmall => "number too small to fit in target type"

/-- Digits read on after `acc`, at most `limit`; past it the fault is `beyond`. -/
def readDigits (limit : Nat) (beyond : NumberFault) (acc : Nat) :
    List Char → Except NumberFault Nat
  | [] => .ok acc
  | c :: cs =>
    match digitValue c with
    | none => .error .invalidDigit
    | some d =>
      if acc * 10 + d ≤ limit then readDigits limit beyond (acc * 10 + d) cs else .error beyond

/-- A number from 0 to `limit`, with an optional plus sign. -/
def readNat (limit : Nat) (s : String) : Except NumberFault Nat :=
  match s.toList with
  | [] => .error .empty
  | ['+'] | ['-'] => .error .invalidDigit
  | '+' :: cs => readDigits limit .tooLarge 0 cs
  | cs => readDigits limit .tooLarge 0 cs

/-- A number from `-(limit + 1)` to `limit`, with an optional sign. -/
def readInt (limit : Nat) (s : String) : Except NumberFault Int :=
  match s.toList with
  | [] => .error .empty
  | ['+'] | ['-'] => .error .invalidDigit
  | '-' :: cs => (readDigits (limit + 1) .tooSmall 0 cs).map fun n => -(n : Int)
  | '+' :: cs => (readDigits limit .tooLarge 0 cs).map Int.ofNat
  | cs => (readDigits limit .tooLarge 0 cs).map Int.ofNat

/-- The largest number of 32 bits. -/
def max32 : Nat := 4294967295

/-- The largest number of 64 bits. -/
def max64 : Nat := 18446744073709551615

/-- The largest signed number of 64 bits. -/
def maxSigned64 : Nat := 9223372036854775807

end ArtifactRelay.Text
