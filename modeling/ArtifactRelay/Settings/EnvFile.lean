import ArtifactRelay.Settings
import ArtifactRelay.Text.Alphanumeric

/-!
# ArtifactRelay.Settings.EnvFile

Files of variables: lines of the form `NAME=value`, with comments after `#`, an
optional `export` before the name, quotes that may go over several lines, and
`$NAME` or braces after the dollar for the value of another variable.  A variable
that is set already keeps its value.  Reading stops at the first line that has
none of these forms.  No variable can hold a zero character, so a file that sets
one to such a value cannot be loaded.

A text is first cut into lines, where a line ends only outside quotes
(`logicalLines`); each line is then read by itself (`entry?`).
-/

namespace ArtifactRelay.Settings.EnvFile

open Text

/-- The variables that are set, the latest first. -/
abbrev Environment := List (String × String)

/-- The value of a variable. -/
def value? (env : Environment) (name : String) : Option String :=
  (env.find? (·.1 == name)).map (·.2)

/-! ## Lines -/

/-- Where the cutting of lines stands. -/
inductive Cut
  /-- Outside quotes, after a character of a value or at the start. -/
  | outside
  /-- After a backslash outside quotes. -/
  | escape
  | single
  | singleEscape
  | double
  | doubleEscape
  /-- After a blank, where a comment may start. -/
  | gap
  | comment
  deriving DecidableEq, Repr

/-- Where the cutting stands after one more character. -/
def Cut.next (c : Char) : Cut → Cut
  | gap =>
    if c == '#' then comment
    else if c == '\\' then escape
    else if c == '"' then double
    else if c == '\'' then single
    else outside
  | outside =>
    if isBlank c && c != '\n' && c != '\r' then gap
    else if c == '\\' then escape
    else if c == '"' then double
    else if c == '\'' then single
    else outside
  | escape => outside
  | double => if c == '\\' then doubleEscape else if c == '"' then outside else double
  | doubleEscape => double
  | single => if c == '\\' then singleEscape else if c == '\'' then outside else single
  | singleEscape => single
  | comment => comment

/-- Goes over a line; answers where the cutting stands and what comes before a comment. -/
def Cut.through (cut : Cut) (done : List Char) : List Char → Cut × List Char
  | [] => (cut, done.reverse)
  | c :: cs =>
    match cut.next c with
    | comment => (comment, done.reverse)
    | cut => cut.through (c :: done) cs

/-- The lines of a text, each with its line end. -/
def physicalLines (line : List Char) : List Char → List (List Char)
  | [] => if line.isEmpty then [] else [line.reverse]
  | '\n' :: cs => ('\n' :: line).reverse :: physicalLines [] cs
  | c :: cs => physicalLines (c :: line) cs

/-- A line without its line end. -/
def chomp (line : List Char) : List Char :=
  match line.reverse with
  | '\n' :: '\r' :: cs => cs.reverse
  | '\n' :: cs => cs.reverse
  | _ => line

/-- Joins lines that end inside quotes with what follows.  What is open at the end of the text
is no line. -/
def joinLines (cut : Cut) (held : List Char) : List (List Char) → List (List Char)
  | [] => []
  | line :: lines =>
    if ((held ++ line).dropWhile isBlank).head? == some '#' then joinLines .outside [] lines
    else
      match cut.through [] line with
      | (.outside, _) => chomp (held ++ line) :: joinLines .outside [] lines
      | (.comment, before) => (held ++ before) :: joinLines .outside [] lines
      | (cut, _) => joinLines cut (held ++ line) lines

/-- The lines of a text. -/
def logicalLines (text : String) : List (List Char) :=
  let cs := match text.toList with
    | '\ufeff' :: cs => cs
    | cs => cs
  joinLines .outside [] (physicalLines [] cs)

/-! ## Values -/

/-- The quotes around a character. -/
inductive Quotes
  | none
  | single
  | double
  deriving DecidableEq, Repr

/-- What a character of a value belongs to. -/
inductive Phase
  | plain
  | escape
  /-- The name of another variable, and whether it stands in braces. -/
  | name (braced : Bool) (chars : List Char)
  /-- The blanks after the value. -/
  | ending
  | comment
  deriving DecidableEq, Repr

/-- How far a value is read; the characters are kept in reverse. -/
structure Progress where
  quotes : Quotes
  phase : Phase
  output : List Char

/-- The progress with the value of a named variable. -/
def Progress.substitute (env : Environment) (p : Progress) (chars : List Char) : Progress :=
  let value := (value? env (String.ofList chars.reverse)).getD ""
  { p with phase := .plain, output := value.toList.reverse ++ p.output }

/-- The progress with one more character. -/
def Progress.push (p : Progress) (c : Char) : Progress :=
  { p with phase := .plain, output := c :: p.output }

/-- One more character of a value; `none` if it cannot stand there. -/
def Progress.next (env : Environment) (p : Progress) (c : Char) : Option Progress :=
  match p.phase with
  | .comment => some p
  | .ending =>
    if c == ' ' || c == '\t' then some p
    else if c == '#' then some { p with phase := .comment }
    else none
  | .escape =>
    if c == 'n' then some (p.push '\n')
    else if c == '\\' || c == '\'' || c == '"' || c == '$' || c == ' ' then some (p.push c)
    else none
  | .name braced chars =>
    if isAlphanumeric c then some { p with phase := .name braced (c :: chars) }
    else if braced then
      if c == '\x7d' then some (p.substitute env chars)
      else some { p with phase := .name true (c :: chars) }
    else if c == '\x7b' && chars.isEmpty then some { p with phase := .name true [] }
    else
      let p := p.substitute env chars
      if c == '$' then some { p with phase := .name false [] } else some (p.push c)
  | .plain =>
    match p.quotes with
    | .single => some (if c == '\'' then { p with quotes := .none } else p.push c)
    | .double =>
      some (if c == '$' then { p with phase := .name false [] }
        else if c == '"' then { p with quotes := .none }
        else if c == '\\' then { p with phase := .escape }
        else p.push c)
    | .none =>
      some (if c == '$' then { p with phase := .name false [] }
        else if c == '\'' then { p with quotes := .single }
        else if c == '"' then { p with quotes := .double }
        else if c == '\\' then { p with phase := .escape }
        else if c == ' ' || c == '\t' then { p with phase := .ending }
        else p.push c)

/-- The value at the end of the line; `none` if quotes or braces are open. -/
def Progress.finish (env : Environment) (p : Progress) : Option String :=
  if p.quotes ≠ .none then none
  else
    match p.phase with
    | .name true _ => none
    | .name false chars => some (String.ofList (p.substitute env chars).output.reverse)
    | _ => some (String.ofList p.output.reverse)

/-- The value that a text denotes. -/
def readValue (env : Environment) (cs : List Char) : Option String :=
  (cs.foldlM (Progress.next env) ⟨.none, .plain, []⟩).bind (Progress.finish env)

/-! ## Entries -/

/-- A character of a name. -/
def isNameChar (c : Char) : Bool := c.isAlphanum || c == '_' || c == '.'

/-- A name, which starts with a letter or an underscore, and what follows it and blanks. -/
def readName (cs : List Char) : Option (String × List Char) :=
  if cs.head?.any fun c => c.isAlpha || c == '_' then
    some (String.ofList (cs.takeWhile isNameChar), (cs.dropWhile isNameChar).dropWhile isBlank)
  else none

/-- What follows an equals sign. -/
def afterEquals : List Char → Option (List Char)
  | '=' :: cs => some cs
  | _ => none

/-- The name of a line and what follows its equals sign. -/
def readHead (cs : List Char) : Option (String × List Char) := do
  let (name, rest) ← readName cs
  match afterEquals rest with
  | some rest => some (name, rest)
  | none =>
    if name = "export" then
      let (name, rest) ← readName rest
      some (name, ← afterEquals rest)
    else none

/-- The entry of a line: `none` if the line has none of the forms, `some none` if it is empty
or a comment. -/
def entry? (env : Environment) (line : List Char) : Option (Option (String × String)) :=
  let cs := (line.reverse.dropWhile isBlank).reverse.dropWhile isBlank
  if cs.isEmpty || cs.head? == some '#' then some none
  else do
    let (name, rest) ← readHead cs
    let rest := rest.dropWhile isBlank
    if rest.isEmpty || rest.head? == some '#' then some (some (name, ""))
    else some (some (name, ← readValue env rest))

/-- The environment with one more variable, unless it is set already; `none` if it cannot have
the value. -/
def addVariable (env : Environment) (name value : String) : Option Environment :=
  if (value? env name).isSome then some env
  else if value.toList.contains '\x00' then none
  else some ((name, value) :: env)

/-- Sets the variables of lines that are not set yet; `none` if one cannot be set. -/
def loadLines (env : Environment) : List (List Char) → Option Environment
  | [] => some env
  | line :: lines =>
    match entry? env line with
    | none => some env
    | some none => loadLines env lines
    | some (some (name, value)) => (addVariable env name value).bind (loadLines · lines)

/-- The variables after a file of variables was read; `none` if it cannot be loaded. -/
def load (text : String) (env : Environment) : Option Environment :=
  loadLines env (logicalLines text)

end ArtifactRelay.Settings.EnvFile
