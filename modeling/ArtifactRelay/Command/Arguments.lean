import ArtifactRelay.Text.Number

/-!
# ArtifactRelay.Command.Arguments

The command line: the name of a command, then its options and operands in any
order.  An option stands apart from its value or is joined to it by `=`; a value
that stands apart does not start with a hyphen, and no option is given twice.
After `--` everything is an operand.  `help` is a command too, which takes at most
the name of a command.
-/

namespace ArtifactRelay

open Text

/-- What the program is told to do. -/
inductive Command
  /-- Forward artifacts, with a number of workers. -/
  | serve (workers : Option Nat)
  /-- List items, newest first. -/
  | list (status : Option String) (limit : Int)
  /-- Show one item. -/
  | showItem (id : Int)
  /-- Record an observation as a sensor would. -/
  | enqueue (filename : String) (storedName sha256 : Option String) (sourceIp : String)
  deriving DecidableEq, Repr

namespace Command

/-- Why a command line is no command. -/
inductive Misuse
  /-- It asks for help. -/
  | help
  | wrong
  deriving DecidableEq, Repr

/-- What a command takes: its options by name, its operands in their order, each with what is
accepted as its value. -/
structure Signature where
  options : List (String × (String → Bool))
  operands : List (String → Bool)

/-- The arguments of a command: the values of options by name, and the operands. -/
structure Arguments where
  options : List (String × String)
  operands : List String

namespace Arguments

/-- The value of an option. -/
def option? (a : Arguments) (name : String) : Option String :=
  (a.options.find? (·.1 == name)).map (·.2)

/-- The arguments with one operand more. -/
def addOperand (sig : Signature) (a : Arguments) (value : String) : Except Misuse Arguments :=
  match sig.operands[a.operands.length]? with
  | some accepts =>
    if accepts value then .ok { a with operands := a.operands ++ [value] } else .error .wrong
  | none => .error .wrong

/-- The arguments with one option more. -/
def addOption (sig : Signature) (a : Arguments) (name value : String) :
    Except Misuse Arguments :=
  match sig.options.find? (·.1 == name) with
  | some (_, accepts) =>
    if (a.option? name).isNone && accepts value then
      .ok { a with options := a.options ++ [(name, value)] }
    else .error .wrong
  | none => .error .wrong

/-- Whether a word is no value of its own: it starts with a hyphen that is not all of it. -/
def isFlag (word : String) : Bool :=
  match word.toList with
  | '-' :: _ :: _ => true
  | _ => false

/-- Reads the words after the name of a command. -/
def read (sig : Signature) (a : Arguments) : List String → Except Misuse Arguments
  | [] => .ok a
  | word :: words =>
    match word.toList with
    | ['-', '-'] => words.foldlM (addOperand sig) a
    | '-' :: '-' :: cs =>
      let name := String.ofList (cs.takeWhile (· ≠ '='))
      match cs.dropWhile (· ≠ '=') with
      | '=' :: value => do read sig (← a.addOption sig name (String.ofList value)) words
      | _ =>
        if name = "help" then .error .help
        else
          match words with
          | value :: words =>
            if isFlag value then .error .wrong
            else do read sig (← a.addOption sig name value) words
          | [] => .error .wrong
    | '-' :: c :: _ => .error (if c = 'h' then .help else .wrong)
    | _ => do read sig (← a.addOperand sig word) words

end Arguments

/-- Accepts every value. -/
def anyText (_ : String) : Bool := true

/-- The value of a read that may fail. -/
def value? {ε α : Type} : Except ε α → Option α
  | .ok a => some a
  | .error _ => none

/-- A count of 64 bits. -/
def count? (s : String) : Option Nat := value? (readNat max64 s)

/-- A signed number of 64 bits. -/
def number? (s : String) : Option Int := value? (readInt maxSigned64 s)

/-- The number of items that are listed unless a limit is given. -/
def standardLimit : Int := 20

/-- The address of an observation unless one is given. -/
def standardAddress : String := "0.0.0.0"

/-- What a command takes. -/
def signature? : String → Option Signature
  | "serve" => some ⟨[("workers", fun s => (count? s).isSome)], []⟩
  | "list" => some ⟨[("status", anyText), ("limit", fun s => (number? s).isSome)], []⟩
  | "show" => some ⟨[], [fun s => (number? s).isSome]⟩
  | "enqueue" =>
    some ⟨[("filename", anyText), ("stored-name", anyText), ("sha256", anyText),
      ("source-ip", anyText)], []⟩
  | _ => none

/-- The command of a name with its arguments, if none is missing. -/
def ofArguments? (name : String) (a : Arguments) : Option Command :=
  match name with
  | "serve" => some (.serve ((a.option? "workers").bind count?))
  | "list" =>
    some (.list (a.option? "status") (((a.option? "limit").bind number?).getD standardLimit))
  | "show" => (a.operands.head?.bind number?).map .showItem
  | "enqueue" =>
    (a.option? "filename").map fun filename =>
      .enqueue filename (a.option? "stored-name") (a.option? "sha256")
        ((a.option? "source-ip").getD standardAddress)
  | _ => none

/-- Whether a word before any command asks for help. -/
def asksForHelp (word : String) : Bool :=
  word == "--help" || "-h".toList.isPrefixOf word.toList

/-- Whether there can be help on what the words name: on all commands, or on one. -/
def hasHelp : List String → Bool
  | [] => true
  | [name] => name == "help" || (signature? name).isSome
  | _ => false

/-- The command of a command line. -/
def parse : List String → Except Misuse Command
  | [] => .error .wrong
  | "help" :: words => .error (if hasHelp words then .help else .wrong)
  | name :: words =>
    match signature? name with
    | none => .error (if asksForHelp name then .help else .wrong)
    | some sig => do
      let a ← Arguments.read sig ⟨[], []⟩ words
      match ofArguments? name a with
      | some c => .ok c
      | none => .error .wrong

end Command

end ArtifactRelay
