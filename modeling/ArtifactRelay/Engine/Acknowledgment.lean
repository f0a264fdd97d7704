import ArtifactRelay.Json.Reading
import ArtifactRelay.Json.Written

/-!
# ArtifactRelay.Engine.Acknowledgment

What the engine answers to a submission that it took.  The task number stands in
one of several places, which are looked up in order; an answer without one is
good, and one that is no JSON too.  An object with an `error` that counts as set
is a rejection all the same.
-/

namespace ArtifactRelay.Engine

/-- The engine's answer to a submission that it took. -/
structure Acknowledgment where
  /-- The number of the task, if the answer tells one. -/
  taskRef : Option Int
  /-- The answer as it was received. -/
  raw : String
  deriving DecidableEq, Repr

/-- The task number of a value: a list that is not empty has its first element for it, and any
other value itself.  `none` if the value says nothing, `some none` if its number is none. -/
def firstId : Json → Option (Option Int)
  | .array [] => none
  | .array (x :: _) => some x.toInt?
  | x => x.toInt?.map some

/-- A place of the task number: its name, and what a value has there. -/
structure Rule where
  name : String
  find : Json → Option (Option Int)

/-- The places of the task number, in the order in which they are looked up. -/
def rules : List Rule := [
  ⟨"data.task_ids", fun v => (v.field? "data").bind fun d => (d.field? "task_ids").bind firstId⟩,
  ⟨"task_ids", fun v => (v.field? "task_ids").bind firstId⟩,
  ⟨"task_id", fun v => (v.field? "task_id").bind fun x => x.toInt?.map some⟩]

/-- The task number of an answer, by the first place that says something. -/
def taskRef? (v : Json) : Option Int :=
  if v.isObject then (rules.findSome? (·.find v)).join else none

/-- The text of a rejection: the error's value if it counts as set, else the whole answer. -/
def rejectionDetail (v : Json) (body : String) : String :=
  match v.field? "error_value" with
  | some (.string s) => if s.isEmpty then body else s
  | some x => if x.isTruthy then x.compact else body
  | none => body

/-- The acknowledgment in an answer, or the text of the rejection. -/
def Acknowledgment.ofBody (body : String) : Except String Acknowledgment :=
  match Json.ofText? body with
  | none => .ok ⟨none, body⟩
  | some v =>
    if (v.field? "error").any Json.isTruthy then .error (rejectionDetail v body)
    else .ok ⟨taskRef? v, body⟩

end ArtifactRelay.Engine
