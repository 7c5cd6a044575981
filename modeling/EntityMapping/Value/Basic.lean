import EntityMapping.Calendar.Timestamp
import EntityMapping.Keyed
import EntityMapping.Number.Shortest
import EntityMapping.Uuid

/-!
Native values, the common currency of records, queries and stores. A nested record is a list
of elements in the order in which they came; it may name a key twice, and then a look-up
finds the first one. A dotted path walks through nested records.
-/

namespace EntityMapping

/-- A native value. -/
inductive Value where
  | null
  | integer (n : Int64)
  | float (x : Double)
  | text (s : String)
  | boolean (b : Bool)
  | timestamp (t : Timestamp)
  | date (d : Date)
  | uuid (u : Uuid)
  | list (items : List Value)
  | record (elements : List (String × Value))

/-- The elements of a record. -/
abbrev Elements := Keyed Value

namespace Value

instance : Inhabited Value := ⟨.null⟩

/-- The name of the type of a value, as messages print it. -/
def typeName : Value → String
  | .null => "NULL"
  | .integer _ => "INTEGER"
  | .float _ => "FLOAT"
  | .text _ => "TEXT"
  | .boolean _ => "BOOLEAN"
  | .timestamp _ => "TIMESTAMP"
  | .date _ => "DATE"
  | .uuid _ => "UUID"
  | .list _ => "LIST"
  | .record _ => "RECORD"

def isNull : Value → Bool
  | .null => true
  | _ => false

def isNumeric : Value → Bool
  | .integer _ | .float _ => true
  | _ => false

/-! ### Numbers -/

/-- The double nearest to an integer. -/
def ofInt64 (n : Int64) : Double := .ofInt .double n.toInt

/-- Whether a double is between the least and the greatest integer of 64 bits. The greatest one
is rounded, so `2 ^ 63` is let in. -/
def inIntegerRange (x : Double) : Bool :=
  x.compare (ofInt64 Int64.minValue) != .lt && x.compare (ofInt64 Int64.maxValue) != .gt

/-- A double without its fraction; `2 ^ 63` becomes the greatest integer. -/
def truncated? (x : Double) : Option Int64 :=
  if inIntegerRange x then
    x.truncate?.map fun n => Int64.ofInt (min n Int64.maxValue.toInt)
  else none

/-- The integer of a number, if it has one. -/
def asInt64? : Value → Option Int64
  | .integer n => some n
  | .float x => truncated? x
  | _ => none

/-- The double of a number. -/
def asDouble? : Value → Option Double
  | .float x => some x
  | .integer n => some (ofInt64 n)
  | _ => none

def asText? : Value → Option String
  | .text s => some s
  | _ => none

def asList? : Value → Option (List Value)
  | .list items => some items
  | _ => none

def asRecord? : Value → Option Elements
  | .record elements => some elements
  | _ => none

/-! ### Paths -/

/-- Splits a text at its first point. -/
def splitPoint? : List Char → Option (List Char × List Char)
  | [] => none
  | c :: cs =>
    if c = '.' then some ([], cs) else (splitPoint? cs).map fun (head, rest) => (c :: head, rest)

/-- The segments of a path: what stands between its points. There is always at least one. -/
def segments : List Char → List (List Char)
  | [] => [[]]
  | c :: cs =>
    if c = '.' then [] :: segments cs
    else match segments cs with
      | s :: ss => (c :: s) :: ss
      | [] => [[c]]

/-- Follows segments through nested records. -/
def follow (v : Value) : List String → Option Value
  | [] => some v
  | s :: ss =>
    match v with
    | .record elements => do
      let w ← Keyed.find? s elements
      w.follow ss
    | _ => none

/-- The value at a dotted path. -/
def findPath (v : Value) (path : String) : Option Value :=
  v.follow ((segments path.toList).map String.ofList)

end Value

end EntityMapping
