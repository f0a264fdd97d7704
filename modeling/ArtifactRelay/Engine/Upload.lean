import ArtifactRelay.Engine.Acknowledgment
import ArtifactRelay.Text.Blank
import ArtifactRelay.Text.Lossy
import ArtifactRelay.Time.Delay

/-!
# ArtifactRelay.Engine.Upload

The submission of an artifact to the engine: what is sent, and what the answer
means.  An upload is a form with the artifact first and one field for each
setting that is not blank.  An answer counts as accepted if its status is a
success and its body no rejection; every other end of a submission is a `Fault`,
after which it may be tried again.
-/

namespace ArtifactRelay.Engine

open Text Time

/-- How the engine is reached and what it is told with every artifact. -/
structure Settings where
  /-- The base address of the engine's interface. -/
  url : String
  timeout : Delay
  apiToken : Option String
  tags : String
  priority : String
  machine : String
  options : String
  deriving DecidableEq, Repr

/-- Why a submission was not accepted. -/
inductive Fault
  | transport (text : String)
  | timeout
  /-- The answer's status is no success. -/
  | status (code : Nat) (body : String)
  /-- The answer's body is a rejection. -/
  | rejected (detail : String)
  /-- The artifact cannot be opened. -/
  | io (text : String)
  deriving DecidableEq, Repr

/-- The wording of a fault. -/
def Fault.message : Fault → String
  | transport text => "transport error: " ++ text
  | timeout => "engine did not answer within the timeout"
  | status code body => "engine returned HTTP " ++ toString code ++ ": " ++ body
  | rejected detail => "engine rejected submission: " ++ detail
  | io text => "cannot read artifact: " ++ text

/-! ## What is sent -/

/-- The address of submissions below a base address, which may end with slashes. -/
def endpoint (base : String) : String :=
  String.ofList (base.toList.reverse.dropWhile (· == '/')).reverse ++ "/tasks/create/file/"

/-- A part of a form: its headers and its data. -/
structure Part where
  headers : List String
  data : ByteArray

/-- A file name inside quotes: quotes, backslashes and line ends follow a backslash. -/
def quoteFileName (name : String) : String :=
  String.ofList (name.toList.flatMap fun c =>
    if c == '\\' || c == '"' || c == '\r' || c == '\n' then ['\\', c] else [c])

/-- The part that holds an artifact. -/
def filePart (displayName : String) (content : ByteArray) : Part where
  headers := [
    "Content-Disposition: form-data; name=\"file\"; filename=\"" ++
      quoteFileName displayName ++ "\"",
    "Content-Type: application/octet-stream"]
  data := content

/-- The part of a field. -/
def fieldPart (name value : String) : Part where
  headers := ["Content-Disposition: form-data; name=\"" ++ name ++ "\""]
  data := value.toUTF8

/-- The fields that are sent: the settings that are not blank, trimmed. -/
def Settings.fields (s : Settings) : List (String × String) :=
  ([("tags", s.tags), ("priority", s.priority), ("machine", s.machine),
    ("options", s.options)].filter fun f => !isBlankText f.2).map fun f => (f.1, trim f.2)

/-- What is sent to the engine. -/
structure Upload where
  endpoint : String
  authorization : Option String
  parts : List Part

/-- The upload of an artifact. -/
def Settings.upload (s : Settings) (displayName : String) (content : ByteArray) : Upload where
  endpoint := Engine.endpoint s.url
  authorization := s.apiToken.map ("Token " ++ ·)
  parts := filePart displayName content :: s.fields.map fun f => fieldPart f.1 f.2

/-- Whether a text can stand in a header: no controls but tabs. -/
def isHeaderValue (s : String) : Bool :=
  s.toList.all fun c => c == '\t' || (32 ≤ c.toNat && c.toNat ≠ 127)

/-! ## What comes back -/

/-- How the exchange with the engine ended. -/
inductive Reply
  /-- An answer that was received in full. -/
  | answer (status : Nat) (body : ByteArray)
  /-- No answer within the time. -/
  | silence
  /-- No connection, or one that broke. -/
  | broken (text : String)

/-- What an answer received in full means. -/
def interpret (status : Nat) (body : String) : Except Fault Acknowledgment :=
  if 200 ≤ status ∧ status < 300 then
    match Acknowledgment.ofBody body with
    | .ok a => .ok a
    | .error detail => .error (.rejected detail)
  else .error (.status status body)

/-- What the end of an exchange means. -/
def Reply.interpret : Reply → Except Fault Acknowledgment
  | answer status body => Engine.interpret status (decodeLossy body)
  | silence => .error .timeout
  | broken text => .error (.transport text)

/-- What opening an artifact gives. -/
inductive Opened
  | missing
  /-- It can be opened but not read. -/
  | unreadable
  | content (bytes : ByteArray)

/-- Submits an artifact over `exchange`, which carries an upload to the engine. -/
def submit (s : Settings) (artifact : Opened) (displayName : String) (exchange : Upload → Reply) :
    Except Fault Acknowledgment :=
  match artifact with
  | .missing => .error (.io "no such file")
  | .unreadable => .error (.transport "artifact cannot be read")
  | .content bytes =>
    let upload := s.upload displayName bytes
    if upload.authorization.all isHeaderValue then (exchange upload).interpret
    else .error (.transport "invalid header value")

end ArtifactRelay.Engine
