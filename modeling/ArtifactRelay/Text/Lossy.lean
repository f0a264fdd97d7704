/-!
# ArtifactRelay.Text.Lossy

Text from bytes that need not be well formed.  The bytes are read as UTF-8; a
byte-order mark at the start is dropped, and every longest piece of a sequence
that cannot be completed becomes one replacement character.
-/

namespace ArtifactRelay.Text

/-- The character that stands for bytes that are no text. -/
def replacement : Char := '\ufffd'

/-- An unfinished sequence: how many bytes are missing, the code so far, and the range of the
next byte. -/
structure Unfinished where
  missing : Nat
  code : Nat
  low : Nat
  high : Nat

/-- What a first byte begins: nothing, a whole character, or an unfinished sequence. -/
inductive Lead
  | invalid
  | whole (c : Char)
  | begins (u : Unfinished)

/-- What a first byte begins.  The ranges leave out overlong forms, halves of surrogate pairs
and codes past the last one. -/
def lead (b : Nat) : Lead :=
  if b < 0x80 then .whole (Char.ofNat b)
  else if b < 0xC2 then .invalid
  else if b < 0xE0 then .begins ⟨1, b - 0xC0, 0x80, 0xBF⟩
  else if b < 0xF0 then
    .begins ⟨2, b - 0xE0, if b = 0xE0 then 0xA0 else 0x80, if b = 0xED then 0x9F else 0xBF⟩
  else if b < 0xF5 then
    .begins ⟨3, b - 0xF0, if b = 0xF0 then 0x90 else 0x80, if b = 0xF4 then 0x8F else 0xBF⟩
  else .invalid

/-- The characters of bytes, read on after an unfinished sequence. -/
def decodeFrom : Option Unfinished → List UInt8 → List Char
  | none, [] => []
  | some _, [] => [replacement]
  | some u, b :: bs =>
    if u.low ≤ b.toNat ∧ b.toNat ≤ u.high then
      let code := u.code * 64 + (b.toNat - 0x80)
      if u.missing ≤ 1 then Char.ofNat code :: decodeFrom none bs
      else decodeFrom (some ⟨u.missing - 1, code, 0x80, 0xBF⟩) bs
    else
      match lead b.toNat with
      | .invalid => replacement :: replacement :: decodeFrom none bs
      | .whole c => replacement :: c :: decodeFrom none bs
      | .begins v => replacement :: decodeFrom (some v) bs
  | none, b :: bs =>
    match lead b.toNat with
    | .invalid => replacement :: decodeFrom none bs
    | .whole c => c :: decodeFrom none bs
    | .begins v => decodeFrom (some v) bs

/-- The text of bytes. -/
def decodeLossy (bytes : ByteArray) : String :=
  match bytes.toList with
  | 0xEF :: 0xBB :: 0xBF :: rest => String.ofList (decodeFrom none rest)
  | all => String.ofList (decodeFrom none all)

end ArtifactRelay.Text
