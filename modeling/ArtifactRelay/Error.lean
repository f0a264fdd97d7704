import ArtifactRelay.Text.Number
import ArtifactRelay.Text.Quoted
import ArtifactRelay.Time.Delay
import ArtifactRelay.WorkItem.Status

/-!
# ArtifactRelay.Error

Why an operation failed.  Causes are data; their wording is in `message` alone.
Faults of the storage media and of files carry no wording of their own: what a
medium says about itself is not this library's text.

An operation may also give no answer at all, because the program stops within it.
That is no error of its own (`isOwn`), but it stands where an answer would.
-/

namespace ArtifactRelay

open Text Time

/-- A setting that cannot be used. -/
inductive ConfigFault
  | leaseOutOfRange (lease : Span)
  | backoffOutOfRange (delay : Delay)
  | invalidTableName (name : String)
  | tablesCoincide
  | emptyLocation
  /-- The setting is not a whole number of its range. -/
  | notWhole (name raw : String) (fault : NumberFault)
  /-- The setting is not a decimal number. -/
  | notDecimal (name raw : String)
  /-- The poll interval is out of its range; the value is given as text. -/
  | pollOutOfRange (value : String)
  | aboveLimit (name : String) (limit value : Int)
  | notPositive (name : String) (value : Int)
  /-- A fault in the words of another party. -/
  | stated (text : String)
  deriving DecidableEq, Repr

/-- The wording of a fault of a setting. -/
def ConfigFault.message : ConfigFault → String
  | leaseOutOfRange lease => "lease of " ++ lease.text ++ " is out of range"
  | backoffOutOfRange delay => "retry backoff of " ++ delay.text ++ " is out of range"
  | invalidTableName name => "invalid table name: " ++ quote name
  | tablesCoincide => "backlog and results tables must differ"
  | emptyLocation => "empty backlog path"
  | notWhole name raw fault => name ++ "=" ++ quote raw ++ ": " ++ fault.message
  | notDecimal name raw => name ++ "=" ++ quote raw ++ ": invalid float literal"
  | pollOutOfRange value => "POLL_SECS must be between 0 and 3600, got " ++ value
  | aboveLimit name limit value =>
    name ++ " must be at most " ++ toString limit ++ ", got " ++ toString value
  | notPositive name value => name ++ " must be positive, got " ++ toString value
  | stated text => text

/-- A fault outside the settings and the backlog's rules. -/
inductive OtherFault
  | unknownStatus (name : String)
  /-- The telemetry endpoint cannot be used. -/
  | telemetryEndpoint
  /-- A fault in the words of another party. -/
  | stated (text : String)
  deriving DecidableEq, Repr

/-- The wording of another fault. -/
def OtherFault.message : OtherFault → String
  | unknownStatus name => "unknown status: " ++ name
  | telemetryEndpoint => "failed to create OTLP"
  | stated text => text

/-- Why an operation failed. -/
inductive Error
  | notFound (what : String)
  | invalidTransition (source target : Status)
  /-- The claim on an item has passed to another worker. -/
  | leaseLost (id : Int) (worker : String)
  /-- The embedded database refused, or holds what cannot be read. -/
  | storage
  /-- The database server refused or cannot be reached. -/
  | database
  | io
  | config (fault : ConfigFault)
  | other (fault : OtherFault)
  /-- The program stopped within the operation, which answers nothing. -/
  | interrupted
  deriving DecidableEq, Repr

namespace Error

/-- The operation answers this error itself. -/
def isOwn : Error → Bool
  | interrupted => false
  | _ => true

/-- There is no item with this number. -/
def noItem (id : Int) : Error := .notFound ("work item " ++ toString id)

/-- The wording of an error. -/
def message : Error → String
  | notFound what => "work item not found: " ++ what
  | invalidTransition source target =>
    "invalid state transition: " ++ source.name ++ " -> " ++ target.name
  | leaseLost id worker =>
    "lease lost on work item " ++ toString id ++ " (worker " ++ worker ++ ")"
  | storage => "storage error"
  | database => "database error"
  | io => "io error"
  | config fault => "configuration error: " ++ fault.message
  | other fault => fault.message
  | interrupted => "interrupted"

end Error

end ArtifactRelay
