import ArtifactRelay.Json.Document

/-!
# ArtifactRelay.Json.Record

Records of known fields read from a document.  A record is an object, whose
unknown fields are skipped unread and whose known fields may not be repeated, or
a list of exactly the fields in their order.  Numbers of a record are whole and
written without point and exponent.
-/

namespace ArtifactRelay.Json.Document

open Text

/-- The documents that an object holds under a name. -/
def under (name : String) (fields : List (Option String × Document)) : List Document :=
  fields.filterMap fun (key, x) => if key = some name then some x else none

/-- The document under each name; `none` for the whole record if a name is repeated. -/
def pick (fields : List (Option String × Document)) :
    (names : List String) → Option (List (Option Document))
  | [] => some []
  | name :: names =>
    match under name fields with
    | [] => (pick fields names).map (none :: ·)
    | [x] => (pick fields names).map (some x :: ·)
    | _ => none

/-- The fields of a record, one for each name. -/
def record? (names : List String) : Document → Option (List (Option Document))
  | object fields => if fields.all (fun f => f.1.isSome) then pick fields names else none
  | array xs => if xs.length = names.length then some (xs.map some) else none
  | _ => none

/-- A text. -/
def text? : Document → Option String
  | string s => s
  | _ => none

/-- A whole number of a range. -/
def int? (least greatest : Int) : Document → Option Int
  | number n =>
    let magnitude := valueOf 0 n.whole
    let value : Int := if n.negative then -(magnitude : Int) else magnitude
    if n.fraction.isEmpty ∧ n.exponent = none ∧ ¬ (n.negative ∧ magnitude = 0) ∧
        least ≤ value ∧ value ≤ greatest then
      some value
    else none
  | _ => none

/-- A signed number of 64 bits. -/
def signed64? (d : Document) : Option Int :=
  d.int? (-9223372036854775808) 9223372036854775807

/-- An unsigned number of 32 bits. -/
def count32? (d : Document) : Option Nat :=
  (d.int? 0 4294967295).map Int.toNat

/-- A field that has to be there. -/
def required {α : Type} (read : Document → Option α) (field : Option Document) : Option α :=
  field.bind read

/-- A field that may be absent or null. -/
def optional {α : Type} (read : Document → Option α) : Option Document → Option (Option α)
  | none | some null => some none
  | some x => (read x).map some

end ArtifactRelay.Json.Document
