import ArtifactRelay.Error

/-!
# ArtifactRelay.Backlog.Location

Where a backlog is kept, as its location text says: on a database server, in
memory, or in a file.  `redact` hides the password of a location for messages.
-/

namespace ArtifactRelay.Backlog

/-- What follows `mark` at the start of `cs`. -/
def after? (mark : String) (cs : List Char) : Option (List Char) :=
  if mark.toList.isPrefixOf cs then some (cs.drop mark.length) else none

/-- Where a backlog is kept. -/
inductive Location
  | server (url : String)
  | memory
  | file (path : String)
  deriving DecidableEq, Repr

/-- The location that a text names.  A file may be named with a scheme before its path. -/
def Location.ofText (s : String) : Except Error Location :=
  let cs := s.toList
  if (after? "postgres://" cs <|> after? "postgresql://" cs).isSome then .ok (.server s)
  else
    match String.ofList ((after? "sqlite://" cs <|> after? "sqlite:" cs).getD cs) with
    | "" => .error (.config .emptyLocation)
    | ":memory:" => .ok .memory
    | path => .ok (.file path)

/-! ## Redaction -/

/-- What stands before and after the first occurrence of `mark`. -/
def splitOnce (mark : List Char) : List Char → Option (List Char × List Char)
  | [] => if mark.isEmpty then some ([], []) else none
  | c :: cs =>
    if mark.isPrefixOf (c :: cs) then some ([], (c :: cs).drop mark.length)
    else (splitOnce mark cs).map fun (before, rest) => (c :: before, rest)

/-- A location with stars in the place of the password: of what stands after the first `://`
and before the next `@`, what stands after the first colon. -/
def redact (url : String) : String :=
  match splitOnce "://".toList url.toList with
  | none => url
  | some (scheme, rest) =>
    match splitOnce ['@'] rest with
    | none => url
    | some (credentials, host) =>
      match splitOnce [':'] credentials with
      | none => url
      | some (user, _) =>
        String.ofList (scheme ++ "://".toList ++ user ++ ":***@".toList ++ host)

end ArtifactRelay.Backlog
