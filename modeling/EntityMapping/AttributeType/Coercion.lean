import EntityMapping.AttributeType.Basic
import EntityMapping.Error

/-!
Plain attributes as native values and back. Writing fails only for an unsigned number above
the greatest integer. Reading is lenient: texts are read as numbers, times or identifiers,
numbers change their width, a single value counts as a list of one, and null is an empty
collection or an absent option. Writing passes a hash table in the order of its seed.
-/

namespace EntityMapping.AttributeType

/-- A value that has no reading as a target. -/
def mismatch {α : Type} (v : Value) (target : String) : Except MapperError α :=
  .error (.notConvertible v.typeName v.display target)

def orMismatch {α : Type} (v : Value) (target : String) : Option α → Except MapperError α
  | some x => .ok x
  | none => mismatch v target

/-! ### Scalars -/

def int64OfText? (s : String) : Option Int64 := Numeral.int64? (Text.trim s.toList)

def int64OfValue (v : Value) : Except MapperError Int64 :=
  match v with
  | .integer n => .ok n
  | .float x => orMismatch v AttributeType.int64.name (Value.truncated? x)
  | .text s => orMismatch v AttributeType.int64.name (int64OfText? s)
  | .boolean b => .ok (if b then 1 else 0)
  | v => mismatch v AttributeType.int64.name

/-- An integer that a narrower type has to hold as well. -/
def narrow (v : Value) (low high : Int) (target : String) : Except MapperError Int := do
  let n ← int64OfValue v
  if low ≤ n.toInt ∧ n.toInt ≤ high then .ok n.toInt else mismatch v target

def doubleOfValue (v : Value) : Except MapperError Double :=
  match v with
  | .float x => .ok x
  | .integer n => .ok (Value.ofInt64 n)
  | .text s => orMismatch v AttributeType.float64.name (Double.ofChars? (Text.trim s.toList))
  | v => mismatch v AttributeType.float64.name

/-- The two words for truth values, in any case. -/
def boolOfText? (s : String) : Option Bool :=
  let word := String.ofList ((Text.trim s.toList).map Char.toLower)
  if word = "true" then some true else if word = "false" then some false else none

def boolOfValue (v : Value) : Except MapperError Bool :=
  match v with
  | .boolean b => .ok b
  | .integer n => .ok (n != 0)
  | .text s => orMismatch v AttributeType.bool.name (boolOfText? s)
  | v => mismatch v AttributeType.bool.name

def stringOfValue (v : Value) : Except MapperError String :=
  match v with
  | .null | .list _ | .record _ => mismatch v AttributeType.string.name
  | v => .ok v.display

def uuidOfValue (v : Value) : Except MapperError Uuid :=
  match v with
  | .uuid u => .ok u
  | .text s => orMismatch v AttributeType.uuid.name (Uuid.ofChars? s.toList)
  | v => mismatch v AttributeType.uuid.name

def timestampOfValue (v : Value) : Except MapperError Timestamp :=
  match v with
  | .timestamp t => .ok t
  | .text s => orMismatch v AttributeType.timestamp.name (Timestamp.ofChars? s.toList)
  | v => mismatch v AttributeType.timestamp.name

def dateOfValue (v : Value) : Except MapperError Date :=
  match v with
  | .date d => .ok d
  | .timestamp t => .ok t.date
  | .text s => orMismatch v AttributeType.date.name (Date.ofChars? s.toList)
  | v => mismatch v AttributeType.date.name

def unsigned (type : String) (n : Nat) : Except MapperError Value :=
  if (n : Int) ≤ Int64.maxValue.toInt then .ok (.integer (Int64.ofNat n))
  else .error (.tooLarge type (String.ofList (Numeral.ofNat n)))

/-! ### Parts -/

/-- The items that a value counts as. -/
def itemsOf : Value → List Value
  | .list items => items
  | .null => []
  | v => [v]

/-- The entries that a value counts as. -/
def entriesOf (target : AttributeType) : Value → Except MapperError Elements
  | .record elements => .ok elements
  | .null => .ok []
  | v => mismatch v target.name

/-- Applies a conversion to every value of a list of entries, stopping at the first error. -/
def mapEntries {α β : Type} (f : α → Except MapperError β) :
    Keyed α → Except MapperError (Keyed β)
  | [] => .ok []
  | (k, x) :: rest => do
    let y ← f x
    let ys ← mapEntries f rest
    .ok ((k, y) :: ys)

/-! ### All types -/

/-- The native form of a value of a type. -/
def toValue : (t : AttributeType) → t.Carrier → Except MapperError Value
  | .int64, (n : Int64) => .ok (.integer n)
  | .int32, (n : Int32) => .ok (.integer n.toInt64)
  | .nat32, (n : UInt32) => unsigned AttributeType.nat32.name n.toNat
  | .nat64, (n : UInt64) => unsigned AttributeType.nat64.name n.toNat
  | .word, (n : UInt64) => unsigned AttributeType.word.name n.toNat
  | .float64, (x : Double) => .ok (.float x)
  | .float32, (x : Single) => .ok (.float (x.convert .double))
  | .bool, (b : Bool) => .ok (.boolean b)
  | .string, (s : String) => .ok (.text s)
  | .uuid, (u : Uuid) => .ok (.uuid u)
  | .timestamp, (t : Timestamp) => .ok (.timestamp t)
  | .date, (d : Date) => .ok (.date d)
  | .value, (v : Value) => .ok v
  | .option t, (x : Option t.Carrier) =>
    match x with
    | some x => t.toValue x
    | none => .ok .null
  | .list t, (xs : List t.Carrier) => (xs.mapM t.toValue).map .list
  | .set t, (s : SortedSet t.Carrier) => (s.items.mapM t.toValue).map .list
  | .hashSet t seed, (s : SortedSet t.Carrier) => ((shuffle seed s.items).mapM t.toValue).map .list
  | .map t, (m : SortedMap t.Carrier) => (mapEntries t.toValue m.entries).map .record
  | .hashMap t seed, (m : SortedMap t.Carrier) =>
    (mapEntries t.toValue (shuffle seed m.entries)).map .record

/-- The value of a type that a native value is read as. -/
def ofValue : (t : AttributeType) → Value → Except MapperError t.Carrier
  | .int64, v => int64OfValue v
  | .int32, v =>
    (narrow v Int32.minValue.toInt Int32.maxValue.toInt AttributeType.int32.name).map Int32.ofInt
  | .nat32, v =>
    (narrow v 0 (UInt32.size - 1) AttributeType.nat32.name).map fun n => UInt32.ofNat n.toNat
  | .nat64, v =>
    (narrow v 0 Int64.maxValue.toInt AttributeType.nat64.name).map fun n => UInt64.ofNat n.toNat
  | .word, v =>
    (narrow v 0 Int64.maxValue.toInt AttributeType.word.name).map fun n => UInt64.ofNat n.toNat
  | .float64, v => doubleOfValue v
  | .float32, v => (doubleOfValue v).map fun x => x.convert .single
  | .bool, v => boolOfValue v
  | .string, v => stringOfValue v
  | .uuid, v => uuidOfValue v
  | .timestamp, v => timestampOfValue v
  | .date, v => dateOfValue v
  | .value, v => .ok v
  | .option t, v =>
    match v with
    | .null => .ok none
    | v => (t.ofValue v).map some
  | .list t, v => (itemsOf v).mapM t.ofValue
  | .set t, v | .hashSet t _, v => ((itemsOf v).mapM t.ofValue).map SortedSet.ofList
  | .map t, v | .hashMap t _, v => do
    let es ← entriesOf t.map v
    (mapEntries t.ofValue es).map SortedMap.ofList

/-- The form in which a type would store a native value. -/
def coerce (t : AttributeType) (v : Value) : Except MapperError Value := do
  let x ← t.ofValue v
  t.toValue x

end EntityMapping.AttributeType
