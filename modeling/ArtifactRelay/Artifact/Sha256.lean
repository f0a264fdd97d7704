/-!
# ArtifactRelay.Artifact.Sha256

The hash that names a content: SHA-256, written as 64 lower-case hexadecimal
digits.  The message is padded with a one bit, zeros and its length in bits to a
whole number of 64-byte blocks, and each block is folded into eight words.
-/

namespace ArtifactRelay.Artifact.Sha256

/-- The eight words of the running hash. -/
structure State where
  a : UInt32
  b : UInt32
  c : UInt32
  d : UInt32
  e : UInt32
  f : UInt32
  g : UInt32
  h : UInt32

/-- The hash before the first block. -/
def initial : State :=
  ⟨0x6a09e667, 0xbb67ae85, 0x3c6ef372, 0xa54ff53a, 0x510e527f, 0x9b05688c, 0x1f83d9ab, 0x5be0cd19⟩

/-- The constant of each round. -/
def constants : Array UInt32 := #[
  0x428a2f98, 0x71374491, 0xb5c0fbcf, 0xe9b5dba5, 0x3956c25b, 0x59f111f1, 0x923f82a4, 0xab1c5ed5,
  0xd807aa98, 0x12835b01, 0x243185be, 0x550c7dc3, 0x72be5d74, 0x80deb1fe, 0x9bdc06a7, 0xc19bf174,
  0xe49b69c1, 0xefbe4786, 0x0fc19dc6, 0x240ca1cc, 0x2de92c6f, 0x4a7484aa, 0x5cb0a9dc, 0x76f988da,
  0x983e5152, 0xa831c66d, 0xb00327c8, 0xbf597fc7, 0xc6e00bf3, 0xd5a79147, 0x06ca6351, 0x14292967,
  0x27b70a85, 0x2e1b2138, 0x4d2c6dfc, 0x53380d13, 0x650a7354, 0x766a0abb, 0x81c2c92e, 0x92722c85,
  0xa2bfe8a1, 0xa81a664b, 0xc24b8b70, 0xc76c51a3, 0xd192e819, 0xd6990624, 0xf40e3585, 0x106aa070,
  0x19a4c116, 0x1e376c08, 0x2748774c, 0x34b0bcb5, 0x391c0cb3, 0x4ed8aa4a, 0x5b9cca4f, 0x682e6ff3,
  0x748f82ee, 0x78a5636f, 0x84c87814, 0x8cc70208, 0x90befffa, 0xa4506ceb, 0xbef9a3f7, 0xc67178f2]

/-- `x` rotated to the right by `n` bits, for `n` from 1 to 31. -/
def rotate (x n : UInt32) : UInt32 := (x >>> n) ||| (x <<< (32 - n))

/-- Byte `i` of the padded message. -/
def paddedByte (message : ByteArray) (blocks i : Nat) : UInt8 :=
  if h : i < message.size then message[i]
  else if i = message.size then 0x80
  else if blocks * 64 - 8 ≤ i then
    ((message.size * 8) >>> (8 * (blocks * 64 - 1 - i))).toUInt8
  else 0

/-- The big-endian word at byte `i` of the padded message. -/
def word (message : ByteArray) (blocks i : Nat) : UInt32 :=
  let byte (k : Nat) : UInt32 := (paddedByte message blocks (i + k)).toUInt32
  (byte 0 <<< 24) ||| (byte 1 <<< 16) ||| (byte 2 <<< 8) ||| byte 3

/-- The words of a block, extended to one for each round. -/
def schedule (message : ByteArray) (blocks block : Nat) : Array UInt32 :=
  let first := (Array.range 16).map fun k => word message blocks (64 * block + 4 * k)
  (Array.range 48).foldl
    (fun w k =>
      let x := w.getD (k + 1) 0
      let y := w.getD (k + 14) 0
      let s0 := rotate x 7 ^^^ rotate x 18 ^^^ (x >>> 3)
      let s1 := rotate y 17 ^^^ rotate y 19 ^^^ (y >>> 10)
      w.push (w.getD k 0 + s0 + w.getD (k + 9) 0 + s1))
    first

/-- One round. -/
def round (w : Array UInt32) (s : State) (k : Nat) : State :=
  let s1 := rotate s.e 6 ^^^ rotate s.e 11 ^^^ rotate s.e 25
  let choice := (s.e &&& s.f) ^^^ (~~~s.e &&& s.g)
  let t1 := s.h + s1 + choice + constants.getD k 0 + w.getD k 0
  let s0 := rotate s.a 2 ^^^ rotate s.a 13 ^^^ rotate s.a 22
  let majority := (s.a &&& s.b) ^^^ (s.a &&& s.c) ^^^ (s.b &&& s.c)
  ⟨t1 + s0 + majority, s.a, s.b, s.c, s.d + t1, s.e, s.f, s.g⟩

/-- The hash after one more block. -/
def absorb (message : ByteArray) (blocks : Nat) (s : State) (block : Nat) : State :=
  let t := (Array.range 64).foldl (round (schedule message blocks block)) s
  ⟨s.a + t.a, s.b + t.b, s.c + t.c, s.d + t.d, s.e + t.e, s.f + t.f, s.g + t.g, s.h + t.h⟩

/-- The number of blocks of a padded message. -/
def blockCount (size : Nat) : Nat := (size + 9 + 63) / 64

/-- The words of the hash. -/
def words (message : ByteArray) : List UInt32 :=
  let blocks := blockCount message.size
  let s := (List.range blocks).foldl (absorb message blocks) initial
  [s.a, s.b, s.c, s.d, s.e, s.f, s.g, s.h]

/-- A hexadecimal digit, lower case. -/
def hexDigit (n : Nat) : Char :=
  if n < 10 then Char.ofNat (48 + n) else Char.ofNat (87 + n)

/-- A word as eight hexadecimal digits. -/
def wordDigits (w : UInt32) : List Char :=
  [28, 24, 20, 16, 12, 8, 4, 0].map fun shift => hexDigit ((w.toNat >>> shift) % 16)

/-- The hash of a message as 64 hexadecimal digits. -/
def hex (message : ByteArray) : String :=
  String.ofList ((words message).flatMap wordDigits)

end ArtifactRelay.Artifact.Sha256
