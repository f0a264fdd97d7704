import ArtifactRelay.Binary64.Written
import ArtifactRelay.Json.Basic
import ArtifactRelay.Text.Quoted

/-!
# ArtifactRelay.Json.Written

JSON values written out: `compact` on one line without blanks, `pretty` with one
element or field a line, indented by two blanks a level.  Fields come in the order
of their names.  Numbers that are not whole have the fewest digits that read back
the same, and always a point or an exponent.
-/

namespace ArtifactRelay.Json

/-- A character inside quotes. -/
def escape (c : Char) : String :=
  match c with
  | '"' => "\\\""
  | '\\' => "\\\\"
  | '\n' => "\\n"
  | '\r' => "\\r"
  | '\t' => "\\t"
  | '\x08' => "\\b"
  | '\x0c' => "\\f"
  | c =>
    if c.toNat < 32 then
      (if c.toNat < 16 then "\\u000" else "\\u00") ++ Text.hexDigits c.toNat
    else String.singleton c

/-- A text in quotes. -/
def quote (s : String) : String :=
  "\"" ++ String.join (s.toList.map escape) ++ "\""

/-- A number. -/
def Number.text : Number → String
  | .int n => toString n
  | .float x => x.scientific

mutual

/-- The value on one line. -/
def compact : Json → String
  | null => "null"
  | bool b => if b then "true" else "false"
  | number n => n.text
  | string s => quote s
  | array xs => "[" ++ ",".intercalate (compactAll xs) ++ "]"
  | object fields => "\x7b" ++ ",".intercalate (compactFields fields) ++ "\x7d"

/-- Each value on one line. -/
def compactAll : List Json → List String
  | [] => []
  | x :: xs => x.compact :: compactAll xs

/-- Each field on one line. -/
def compactFields : List (String × Json) → List String
  | [] => []
  | (key, x) :: rest => (quote key ++ ":" ++ x.compact) :: compactFields rest

end

/-- A line break and the indentation of a level. -/
def newline (level : Nat) : String :=
  "\n" ++ String.ofList (List.replicate (2 * level) ' ')

/-- Lines of one level between brackets. -/
def block (opening closing : String) (level : Nat) (lines : List String) : String :=
  if lines.isEmpty then opening ++ closing
  else
    opening ++ ",".intercalate (lines.map (newline (level + 1) ++ ·)) ++ newline level ++ closing

mutual

/-- The value over several lines, its first line at the given level. -/
def prettyAt (level : Nat) : Json → String
  | null => "null"
  | bool b => if b then "true" else "false"
  | number n => n.text
  | string s => quote s
  | array xs => block "[" "]" level (prettyAll (level + 1) xs)
  | object fields => block "\x7b" "\x7d" level (prettyFields (level + 1) fields)

/-- Each value at the given level. -/
def prettyAll (level : Nat) : List Json → List String
  | [] => []
  | x :: xs => x.prettyAt level :: prettyAll level xs

/-- Each field at the given level. -/
def prettyFields (level : Nat) : List (String × Json) → List String
  | [] => []
  | (key, x) :: rest => (quote key ++ ": " ++ x.prettyAt level) :: prettyFields level rest

end

/-- The value over several lines. -/
def pretty (x : Json) : String := x.prettyAt 0

end ArtifactRelay.Json
