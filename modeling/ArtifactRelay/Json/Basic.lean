import ArtifactRelay.Binary64.Basic

/-!
# ArtifactRelay.Json.Basic

JSON values as the engine's answers hold them.  A whole number between the
smallest signed and the largest unsigned number of 64 bits is kept exactly; every
other number is a binary number of 64 bits.  The fields of an object are kept in
the order of their names, one field per name: `setField` keeps that order and
replaces a field of the same name.
-/

namespace ArtifactRelay

/-- A number of a JSON value. -/
inductive Json.Number
  | int (n : Int)
  | float (x : Binary64)
  deriving DecidableEq, Repr

/-- A JSON value. -/
inductive Json
  | null
  | bool (b : Bool)
  | number (n : Json.Number)
  | string (s : String)
  | array (xs : List Json)
  | object (fields : List (String × Json))
  deriving Repr

namespace Json

instance : Inhabited Json := ⟨null⟩

/-- The fields with `key` set to `value`, in the order of their names. -/
def setField {α : Type} (key : String) (value : α) : List (String × α) → List (String × α)
  | [] => [(key, value)]
  | (k, v) :: rest =>
    if key < k then (key, value) :: (k, v) :: rest
    else if key = k then (key, value) :: rest
    else (k, v) :: setField key value rest

/-- The value of a field, from a list of fields. -/
def lookup {α : Type} (key : String) : List (String × α) → Option α
  | [] => none
  | (k, v) :: rest => if k = key then some v else lookup key rest

/-- A field that was set is found. -/
@[simp] theorem lookup_setField_self {α : Type} (key : String) (value : α)
    (fields : List (String × α)) : lookup key (setField key value fields) = some value := by
  induction fields with
  | nil => simp [setField, lookup]
  | cons f rest ih =>
    obtain ⟨k, v⟩ := f
    simp only [setField]
    split
    · simp [lookup]
    · split
      · simp [lookup]
      · rename_i h; simp [lookup, Ne.symm h, ih]

/-- The field of that name, if the value is an object that has it. -/
def field? (key : String) : Json → Option Json
  | object fields => lookup key fields
  | _ => none

/-- The number as a signed 64-bit whole number, if it is one. -/
def toInt? : Json → Option Int
  | number (.int n) => if -9223372036854775808 ≤ n ∧ n ≤ 9223372036854775807 then some n else none
  | _ => none

/-- Whether the value is an object. -/
def isObject : Json → Bool
  | object _ => true
  | _ => false

/-- Whether the value counts as set: anything but null, false, zero and the empty text, list
or object. -/
def isTruthy : Json → Bool
  | null => false
  | bool b => b
  | number (.int n) => n ≠ 0
  | number (.float x) => !x.isZero
  | string s => !s.isEmpty
  | array xs => !xs.isEmpty
  | object fields => !fields.isEmpty

end Json

end ArtifactRelay
