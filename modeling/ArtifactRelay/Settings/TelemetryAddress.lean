/-!
# ArtifactRelay.Settings.TelemetryAddress

Whether a text can be the address that telemetry is sent to: a URI with a scheme
and an authority, an authority alone, or a path, of at most `maxLength` bytes.
Only the form matters; whether anybody listens there does not.
-/

namespace ArtifactRelay.Settings.TelemetryAddress

/-- A character of an authority, the percent sign excepted. -/
def isAuthorityChar (c : Char) : Bool :=
  c.isAlphanum || "-._~:[]@!$&'()*+,;=".toList.contains c

/-- A character that ends an authority. -/
def endsAuthority (c : Char) : Bool := c == '/' || c == '?' || c == '#'

/-- What was seen of an authority. -/
structure Seen where
  colons : Nat
  opened : Bool
  closed : Bool
  percent : Bool
  /-- Whether the last character was an at sign. -/
  atEnd : Bool

/-- One more character of an authority; `none` if it cannot stand there. -/
def Seen.next (s : Seen) (c : Char) : Option Seen :=
  let s := { s with atEnd := c == '@' }
  if c == ':' then if 8 ≤ s.colons then none else some { s with colons := s.colons + 1 }
  else if c == '[' then if s.percent || s.opened then none else some { s with opened := true }
  else if c == ']' then
    if !s.opened || s.closed then none
    else some { s with closed := true, colons := 0, percent := false }
  else if c == '@' then some { s with colons := 0, percent := false }
  else if c == '%' then some { s with percent := true }
  else if isAuthorityChar c then some s
  else none

/-- Whether the characters are an authority. -/
def isAuthority (cs : List Char) : Bool :=
  match cs.foldlM Seen.next ⟨0, false, false, false, false⟩ with
  | none => false
  | some s => s.opened == s.closed && s.colons ≤ 1 && !s.atEnd && !s.percent

/-- A character of a path. -/
def isPathChar (c : Char) : Bool :=
  c == '!' || ('$' ≤ c && c ≤ ';') || c == '=' || ('@' ≤ c && c ≤ '_') || ('a' ≤ c && c ≤ 'z') ||
    c == '|' || c == '~' || c == '"' || c == '\x7b' || c == '\x7d' || '\x7f' < c

/-- A character of a query. -/
def isQueryChar (c : Char) : Bool :=
  c == '!' || ('$' ≤ c && c ≤ ';') || c == '=' || ('?' ≤ c && c ≠ '\x7f')

/-- Whether the characters are a path and perhaps a query; what follows `#` does not count. -/
def isPathAndQuery (cs : List Char) : Bool :=
  let cs := cs.takeWhile (· ≠ '#')
  let path := cs.takeWhile (· ≠ '?')
  path.all isPathChar && ((cs.drop path.length).drop 1).all isQueryChar

/-- A character of a scheme. -/
def isSchemeChar (c : Char) : Bool := c.isAlphanum || c == '+' || c == '-' || c == '.' || c == '~'

/-- What follows the scheme, if there is one. -/
def afterScheme? (cs : List Char) : Option (List Char) :=
  match cs.dropWhile isSchemeChar with
  | ':' :: '/' :: '/' :: rest => if 64 < cs.length - rest.length - 3 then none else some rest
  | _ => none

/-- The most bytes of an address. -/
def maxLength : Nat := 65534

/-- Whether the characters have the form of an address. -/
def hasForm (cs : List Char) : Bool :=
  match cs with
  | [] => false
  | '/' :: _ => isPathAndQuery cs
  | ['*'] => true
  | _ =>
    match afterScheme? cs with
    | some rest =>
      let authority := rest.takeWhile fun c => !endsAuthority c
      !authority.isEmpty && isAuthority authority && isPathAndQuery (rest.drop authority.length)
    | none => isAuthority cs

/-- Whether a text can be an address. -/
def isAddress (s : String) : Bool :=
  decide (s.utf8ByteSize ≤ maxLength) && hasForm s.toList

end ArtifactRelay.Settings.TelemetryAddress
