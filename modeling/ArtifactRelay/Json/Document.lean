import ArtifactRelay.Text.Digits

/-!
# ArtifactRelay.Json.Document

A JSON text as it is written: numbers by their digits, fields in their order
with repeated names, and texts in which a surrogate escape may stand alone.
Whether such a document is also a value, or a record of some type, is decided by
those who read it; this module knows only the grammar.

Between tokens stand blanks, tabs, line feeds and carriage returns.  The reader
is a recursive descent on the characters; its fuel is the length of the text, and
every call that uses some of it takes a character too.
-/

namespace ArtifactRelay.Json

open Text

/-- A number as written. -/
structure Numeral where
  negative : Bool
  /-- The digits before the point. -/
  whole : List Char
  /-- The digits after the point; empty if there is no point. -/
  fraction : List Char
  /-- Whether the exponent is negative, and its digits. -/
  exponent : Option (Bool × List Char)
  deriving DecidableEq, Repr

/-- A JSON text as written. -/
inductive Document
  | null
  | bool (b : Bool)
  | number (n : Numeral)
  /-- A text; `none` if an escape in it is half of a surrogate pair. -/
  | string (s : Option String)
  | array (xs : List Document)
  | object (fields : List (Option String × Document))
  deriving Repr

namespace Document

/-- A blank between tokens. -/
def isSpace (c : Char) : Bool :=
  c == ' ' || c == '\t' || c == '\n' || c == '\r'

/-- The characters after leading blanks. -/
def skipSpace (cs : List Char) : List Char := cs.dropWhile isSpace

/-- The value of four hexadecimal digits. -/
def hexValue4 (a b c d : Char) : Option Nat := do
  some ((((← hexValue a) * 16 + (← hexValue b)) * 16 + (← hexValue c)) * 16 + (← hexValue d))

/-- The character of a one-letter escape. -/
def escapeChar : Char → Option Char
  | '"' => some '"'
  | '\\' => some '\\'
  | '/' => some '/'
  | 'b' => some '\x08'
  | 'f' => some '\x0c'
  | 'n' => some '\n'
  | 'r' => some '\r'
  | 't' => some '\t'
  | _ => none

/-- The units of a text up to the closing quote: characters, and the codes of `\u` escapes. -/
def textUnits : List Char → Option (List (Char ⊕ Nat) × List Char)
  | [] => none
  | '"' :: rest => some ([], rest)
  | '\\' :: 'u' :: a :: b :: c :: d :: rest => do
    let n ← hexValue4 a b c d
    let (units, rest) ← textUnits rest
    some (.inr n :: units, rest)
  | '\\' :: e :: rest => do
    let c ← escapeChar e
    let (units, rest) ← textUnits rest
    some (.inl c :: units, rest)
  | c :: rest => do
    if c.toNat < 32 then none
    else
      let (units, rest) ← textUnits rest
      some (.inl c :: units, rest)

/-- The text of its units; a code from D800 to DFFF needs its other half beside it. -/
def joinUnits : List (Char ⊕ Nat) → Option (List Char)
  | [] => some []
  | .inl c :: rest => (joinUnits rest).map (c :: ·)
  | .inr h :: .inr l :: rest =>
    if 0xD800 ≤ h ∧ h ≤ 0xDBFF then
      if 0xDC00 ≤ l ∧ l ≤ 0xDFFF then
        (joinUnits rest).map (Char.ofNat ((h - 0xD800) * 1024 + (l - 0xDC00) + 0x10000) :: ·)
      else none
    else if 0xDC00 ≤ h ∧ h ≤ 0xDFFF then none
    else (joinUnits (.inr l :: rest)).map (Char.ofNat h :: ·)
  | .inr n :: rest =>
    if 0xD800 ≤ n ∧ n ≤ 0xDFFF then none else (joinUnits rest).map (Char.ofNat n :: ·)

/-- A text after its opening quote. -/
def text (cs : List Char) : Option (Option String × List Char) :=
  (textUnits cs).map fun (units, rest) => ((joinUnits units).map String.ofList, rest)

/-- A run of digits and what follows it. -/
def digitRun (cs : List Char) : List Char × List Char :=
  (cs.takeWhile isDigit, cs.dropWhile isDigit)

/-- The digits of an exponent, after its letter. -/
def exponentPart (cs : List Char) : Option ((Bool × List Char) × List Char) :=
  let (negative, cs) := match cs with
    | '-' :: rest => (true, rest)
    | '+' :: rest => (false, rest)
    | _ => (false, cs)
  let (ds, rest) := digitRun cs
  if ds.isEmpty then none else some ((negative, ds), rest)

/-- A number: no leading zeros, and a digit on both sides of a point. -/
def numeral (cs : List Char) : Option (Numeral × List Char) := do
  let (negative, cs) := match cs with
    | '-' :: rest => (true, rest)
    | _ => (false, cs)
  let (whole, cs) := digitRun cs
  if whole.isEmpty ∨ (whole.head? = some '0' ∧ whole.length ≠ 1) then none
  let (fraction, cs) ← match cs with
    | '.' :: rest =>
      let (ds, rest) := digitRun rest
      if ds.isEmpty then none else some (ds, rest)
    | _ => some ([], cs)
  match cs with
  | 'e' :: rest | 'E' :: rest => do
    let (e, rest) ← exponentPart rest
    some (⟨negative, whole, fraction, some e⟩, rest)
  | _ => some (⟨negative, whole, fraction, none⟩, cs)

mutual

/-- A value, from its first character on. -/
def value : (fuel : Nat) → List Char → Option (Document × List Char)
  | 0, _ => none
  | fuel + 1, cs =>
    match cs with
    | 'n' :: 'u' :: 'l' :: 'l' :: rest => some (.null, rest)
    | 't' :: 'r' :: 'u' :: 'e' :: rest => some (.bool true, rest)
    | 'f' :: 'a' :: 'l' :: 's' :: 'e' :: rest => some (.bool false, rest)
    | '"' :: rest => (text rest).map fun (s, rest) => (.string s, rest)
    | '[' :: rest =>
      match skipSpace rest with
      | ']' :: rest => some (.array [], rest)
      | rest => (elements fuel rest).map fun (xs, rest) => (.array xs, rest)
    | '\x7b' :: rest =>
      match skipSpace rest with
      | '\x7d' :: rest => some (.object [], rest)
      | rest => (members fuel rest).map fun (fs, rest) => (.object fs, rest)
    | _ => (numeral cs).map fun (n, rest) => (.number n, rest)

/-- The values of a list, up to its closing bracket. -/
def elements : (fuel : Nat) → List Char → Option (List Document × List Char)
  | 0, _ => none
  | fuel + 1, cs => do
    let (x, rest) ← value fuel cs
    match skipSpace rest with
    | ']' :: rest => some ([x], rest)
    | ',' :: rest =>
      let (xs, rest) ← elements fuel (skipSpace rest)
      some (x :: xs, rest)
    | _ => none

/-- The fields of an object, up to its closing brace. -/
def members : (fuel : Nat) → List Char → Option (List (Option String × Document) × List Char)
  | 0, _ => none
  | fuel + 1, cs => do
    let (key, rest) ← match cs with
      | '"' :: rest => text rest
      | _ => none
    let rest ← match skipSpace rest with
      | ':' :: rest => some (skipSpace rest)
      | _ => none
    let (x, rest) ← value fuel rest
    match skipSpace rest with
    | '\x7d' :: rest => some ([(key, x)], rest)
    | ',' :: rest =>
      let (fs, rest) ← members fuel (skipSpace rest)
      some ((key, x) :: fs, rest)
    | _ => none

end

/-- The document of a text, with nothing but blanks around it. -/
def ofText? (s : String) : Option Document :=
  let cs := skipSpace s.toList
  match value (cs.length + 1) cs with
  | some (d, rest) => if (skipSpace rest).isEmpty then some d else none
  | none => none

end Document

end ArtifactRelay.Json
