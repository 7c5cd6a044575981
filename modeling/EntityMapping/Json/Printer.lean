import EntityMapping.Json.Basic
import EntityMapping.Number.Shortest
import EntityMapping.Text.Chars

/-!
Text of JSON documents, on one line or indented by two blanks. A quote, a backslash and the
control characters are escaped, all else stands for itself. A double that is not finite is
written as null.
-/

namespace EntityMapping.Json

/-- A character inside a JSON string. -/
def escapedChar (c : Char) : List Char :=
  if c = '"' then ['\\', '"']
  else if c = '\\' then ['\\', '\\']
  else if c = '\x08' then ['\\', 'b']
  else if c = '\x0c' then ['\\', 'f']
  else if c = '\n' then ['\\', 'n']
  else if c = '\r' then ['\\', 'r']
  else if c = '\t' then ['\\', 't']
  else if c.toNat < 32 then
    let ds := Text.hex c.toNat
    ['\\', 'u'] ++ List.replicate (4 - ds.length) '0' ++ ds
  else [c]

def escaped (s : String) : String :=
  String.ofList ('"' :: s.toList.flatMap escapedChar ++ ['"'])

/-- The text of a document that has no parts. -/
def scalarText : Json → String
  | .null => "null"
  | .bool b => if b then "true" else "false"
  | .integer n => String.ofList (Numeral.ofInt n)
  | .double x => if x.isFinite then x.jsonNumeral else "null"
  | .string s => escaped s
  | .array _ | .object _ => ""

mutual

/-- The text of a document on one line, without blanks. -/
def compact : Json → String
  | .array items => "[" ++ ",".intercalate (compactItems items) ++ "]"
  | .object members => "\x7b" ++ ",".intercalate (compactMembers members) ++ "\x7d"
  | j => scalarText j

def compactItems : List Json → List String
  | [] => []
  | j :: rest => compact j :: compactItems rest

def compactMembers : List (String × Json) → List String
  | [] => []
  | (k, j) :: rest => (escaped k ++ ":" ++ compact j) :: compactMembers rest

end

/-- A bracketed list of lines, the inner ones indented. -/
def block (opening closing : String) (indent : String) (lines : List String) : String :=
  if lines.isEmpty then opening ++ closing
  else
    opening ++ "\n" ++ ",\n".intercalate (lines.map fun l => indent ++ "  " ++ l) ++ "\n" ++ indent
      ++ closing

mutual

/-- The text of a document with each part on a line of its own. -/
def pretty (indent : String) : Json → String
  | .array items => block "[" "]" indent (prettyItems (indent ++ "  ") items)
  | .object members => block "\x7b" "\x7d" indent (prettyMembers (indent ++ "  ") members)
  | j => scalarText j

def prettyItems (indent : String) : List Json → List String
  | [] => []
  | j :: rest => pretty indent j :: prettyItems indent rest

def prettyMembers (indent : String) : List (String × Json) → List String
  | [] => []
  | (k, j) :: rest => (escaped k ++ ": " ++ pretty indent j) :: prettyMembers indent rest

end

end EntityMapping.Json
