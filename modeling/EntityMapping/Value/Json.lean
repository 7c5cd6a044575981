import EntityMapping.Json.Printer
import EntityMapping.Value.Basic

/-!
Values as JSON and as text. JSON has no dates, times or identifiers, they become strings;
a double that is not finite becomes null; of repeated keys the last one stays. Without
hints, a JSON number is an integer value if it fits. The text of a value without parts is
what it prints as, that of a list or a record is its JSON.
-/

namespace EntityMapping.Value

mutual

/-- The JSON of a value. -/
def toJson : Value → Json
  | .null => .null
  | .integer n => .integer n.toInt
  | .float x => if x.isFinite then .double x else .null
  | .text s => .string s
  | .boolean b => .bool b
  | .timestamp t => .string (toString t)
  | .date d => .string (toString d)
  | .uuid u => .string (toString u)
  | .list items => .array (itemsToJson items)
  | .record elements => .object (Keyed.sorted (elementsToJson elements))

def itemsToJson : List Value → List Json
  | [] => []
  | v :: rest => v.toJson :: itemsToJson rest

def elementsToJson : List (String × Value) → List (String × Json)
  | [] => []
  | (k, v) :: rest => (k, v.toJson) :: elementsToJson rest

end

/-- The value of a JSON integer: an integer of 64 bits, or else the nearest double. -/
def ofJsonInteger (n : Int) : Value :=
  match Numeral.fit? n with
  | some n => .integer n
  | none => .float (.ofInt .double n)

mutual

/-- The value of a JSON document. -/
def ofJson : Json → Value
  | .null => .null
  | .bool b => .boolean b
  | .integer n => ofJsonInteger n
  | .double x => .float x
  | .string s => .text s
  | .array items => .list (itemsOfJson items)
  | .object members => .record (elementsOfJson members)

def itemsOfJson : List Json → List Value
  | [] => []
  | j :: rest => ofJson j :: itemsOfJson rest

def elementsOfJson : List (String × Json) → List (String × Value)
  | [] => []
  | (k, j) :: rest => (k, ofJson j) :: elementsOfJson rest

end

/-- The text of a value. -/
def display : Value → String
  | .null => "NULL"
  | .integer n => String.ofList (Numeral.ofInt n.toInt)
  | .float x => x.display
  | .text s => s
  | .boolean b => if b then "true" else "false"
  | .timestamp t => toString t
  | .date d => toString d
  | .uuid u => toString u
  | v@(.list _) => v.toJson.compact
  | v@(.record _) => v.toJson.compact

instance : ToString Value := ⟨display⟩

end EntityMapping.Value
