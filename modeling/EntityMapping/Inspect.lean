import EntityMapping.Text.Chars

/-!
One-line texts for people who look into a program: a name with its fields in braces, lists in
brackets, texts in quotes, and options as `Some` or `None`.
-/

namespace EntityMapping.Inspect

/-- A thing by the texts of its fields. -/
def fields (name : String) (parts : List (String × String)) : String :=
  if parts.isEmpty then name
  else
    name ++ " \x7b " ++ ", ".intercalate (parts.map fun (k, v) => k ++ ": " ++ v) ++ " \x7d"

def wrapped (name content : String) : String := name ++ "(" ++ content ++ ")"

def list (items : List String) : String := "[" ++ ", ".intercalate items ++ "]"

def option : Option String → String
  | some s => wrapped "Some" s
  | none => "None"

def bool (b : Bool) : String := if b then "true" else "false"

end EntityMapping.Inspect
