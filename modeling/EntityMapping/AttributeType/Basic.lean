import EntityMapping.Collection
import EntityMapping.Value.Json

/-!
The types that plain attributes may have, and the values of each. A scalar type stands for
numbers, texts, times or identifiers; an option may be absent; lists, sets and maps hold
values of another type. Every type comes with an order of its values, which its sets need.
Sets and maps that are hash tables have the same values as those in ascending order, and their
type tells the seed by which they are passed.
-/

namespace EntityMapping

/-- A type of plain attributes. -/
inductive AttributeType where
  | int64
  | int32
  | nat32
  | nat64
  | word
  | float64
  | float32
  | bool
  | string
  | uuid
  | timestamp
  | date
  | value
  | option (item : AttributeType)
  | list (item : AttributeType)
  | set (item : AttributeType)
  | map (item : AttributeType)
  | hashSet (item : AttributeType) (seed : Nat)
  | hashMap (item : AttributeType) (seed : Nat)
  deriving DecidableEq, Repr

/-- A type with a total order of its values; values that compare as equal need not be the
same. -/
structure Ordered where
  carrier : Type
  [order : Ord carrier]
  [total : Std.TransOrd carrier]

instance (o : Ordered) : Ord o.carrier := o.order

instance (o : Ordered) : Std.TransOrd o.carrier := o.total

/-! ### Orders of composite values -/

instance : Ord Value := ⟨compareOn fun v => v.toJson.compact⟩

instance : Std.TransOrd Value :=
  inferInstanceAs (Std.TransCmp (compareOn fun v : Value => v.toJson.compact))

instance {α : Type} [Ord α] : Ord (SortedSet α) := ⟨compareOn SortedSet.items⟩

instance {α : Type} [Ord α] [Std.TransOrd α] : Std.TransOrd (SortedSet α) :=
  inferInstanceAs (Std.TransCmp (compareOn SortedSet.items))

/-- Maps compare entry by entry: by key, then by value. -/
instance {α : Type} [Ord α] : Ord (SortedMap α) :=
  letI : Ord (String × α) := lexOrd
  ⟨compareOn fun m => m.entries⟩

instance {α : Type} [Ord α] [Std.TransOrd α] : Std.TransOrd (SortedMap α) :=
  letI : Ord (String × α) := lexOrd
  inferInstanceAs (Std.TransCmp (compareOn fun m : SortedMap α => m.entries))

/-! ### Values -/

namespace AttributeType

/-- The values of a type and their order. -/
def model : AttributeType → Ordered
  | .int64 => ⟨Int64⟩
  | .int32 => ⟨Int32⟩
  | .nat32 => ⟨UInt32⟩
  | .nat64 => ⟨UInt64⟩
  | .word => ⟨UInt64⟩
  | .float64 => ⟨Double⟩
  | .float32 => ⟨Single⟩
  | .bool => ⟨Bool⟩
  | .string => ⟨String⟩
  | .uuid => ⟨Uuid⟩
  | .timestamp => ⟨Timestamp⟩
  | .date => ⟨Date⟩
  | .value => ⟨Value⟩
  | .option t => ⟨Option t.model.carrier⟩
  | .list t => ⟨List t.model.carrier⟩
  | .set t | .hashSet t _ => ⟨SortedSet t.model.carrier⟩
  | .map t | .hashMap t _ => ⟨SortedMap t.model.carrier⟩

abbrev Carrier (t : AttributeType) : Type := t.model.carrier

/-- The value that an attribute has before anything is written to it. -/
def blank : (t : AttributeType) → t.Carrier
  | .int64 => (0 : Int64)
  | .int32 => (0 : Int32)
  | .nat32 => (0 : UInt32)
  | .nat64 => (0 : UInt64)
  | .word => (0 : UInt64)
  | .float64 => Binary.zero .double false
  | .float32 => Binary.zero .single false
  | .bool => false
  | .string => ""
  | .uuid => Uuid.nil
  | .timestamp => Timestamp.mk 0 0
  | .date => Date.epoch
  | .value => Value.null
  | .option _ => none
  | .list _ => []
  | .set _ => SortedSet.empty
  | .map _ => SortedMap.empty
  | .hashSet .. => SortedSet.empty
  | .hashMap .. => SortedMap.empty

/-- The shape of the native form of a type. -/
inductive Shape where
  | scalar
  | collection
  | map
  deriving DecidableEq, Repr

/-- An option has the shape of its item. -/
def shape : AttributeType → Shape
  | .option t => t.shape
  | .list _ | .set _ | .hashSet .. => .collection
  | .map _ | .hashMap .. => .map
  | _ => .scalar

/-! ### Names -/

/-- What messages call a type when a value cannot be converted to it; options, lists and
sets only pass on the complaints of their items. -/
def name : AttributeType → String
  | .int64 => "i64"
  | .int32 => "i32"
  | .nat32 => "u32"
  | .nat64 => "u64"
  | .word => "usize"
  | .float64 => "f64"
  | .float32 => "f32"
  | .bool => "bool"
  | .string => "String"
  | .uuid => "Uuid"
  | .timestamp => "DateTime<Utc>"
  | .date => "NaiveDate"
  | .value => "Value"
  | .option t | .list t | .set t | .hashSet t _ => t.name
  | .map _ | .hashMap .. => "map"

/-- The full printed name of a type, around the printed name of native values. -/
def printedName (valueName : String) : AttributeType → String
  | .string => "alloc::string::String"
  | .uuid => "uuid::Uuid"
  | .timestamp => "chrono::datetime::DateTime<chrono::offset::utc::Utc>"
  | .date => "chrono::naive::date::NaiveDate"
  | .value => valueName
  | .option t => "core::option::Option<" ++ t.printedName valueName ++ ">"
  | .list t => "alloc::vec::Vec<" ++ t.printedName valueName ++ ">"
  | .set t => "alloc::collections::btree::set::BTreeSet<" ++ t.printedName valueName ++ ">"
  | .map t =>
    "alloc::collections::btree::map::BTreeMap<alloc::string::String, " ++ t.printedName valueName
      ++ ">"
  | .hashSet t _ => "std::collections::hash::set::HashSet<" ++ t.printedName valueName ++ ">"
  | .hashMap t _ =>
    "std::collections::hash::map::HashMap<alloc::string::String, " ++ t.printedName valueName ++ ">"
  | t => t.name

end AttributeType

end EntityMapping
