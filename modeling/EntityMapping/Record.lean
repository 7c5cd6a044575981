import EntityMapping.Value.Json
import EntityMapping.Value.Order

/-!
Records: a name and elements in the order of arrival, each key once. Adding a key that is
there replaces its value in place; removing a key and adding it again moves it to the end.
-/

namespace EntityMapping

structure Record where
  name : String
  elements : Elements

namespace Record

instance : Inhabited Record := ⟨⟨"", []⟩⟩

def empty (name : String) : Record := ⟨name, []⟩

def add (r : Record) (key : String) (value : Value) : Record :=
  { r with elements := r.elements.put key value }

def addAll (r : Record) (elements : Elements) : Record :=
  { r with elements := r.elements.putAll elements }

/-- The record of some elements, each key with its last value at its first place. -/
def ofElements (name : String) (elements : Elements) : Record := (empty name).addAll elements

def find? (r : Record) (key : String) : Option Value := Keyed.find? key r.elements

/-- The value at a dotted path: the first segment names an element, the rest a path into its
value. -/
def findPath (r : Record) (path : String) : Option Value :=
  match Value.splitPoint? path.toList with
  | none => r.find? path
  | some (head, rest) => do
    let v ← r.find? (String.ofList head)
    v.findPath (String.ofList rest)

def contains (r : Record) (key : String) : Bool := (r.find? key).isSome

/-- The record without a key, and whether it was there. -/
def remove (r : Record) (key : String) : Bool × Record :=
  let rest := Keyed.erase key r.elements
  (rest.length != r.elements.length, { r with elements := rest })

def keys (r : Record) : List String := Keyed.keys r.elements

def size (r : Record) : Nat := r.elements.length

/-- The elements in the order of their keys. -/
def toSorted (r : Record) : Elements := Keyed.sorted r.elements

def toJson (r : Record) : Json := (Value.record r.elements).toJson

/-- Records are equal when their names and their elements are, in any order. -/
def equals (r s : Record) : Bool := r.name == s.name && Value.elementsEqual r.elements s.elements

instance : BEq Record := ⟨equals⟩

@[simp] theorem find?_add (r : Record) (key other : String) (value : Value) :
    (r.add key value).find? other = if other = key then some value else r.find? other := by
  simp [find?, add, Keyed.find?_put]

@[simp] theorem find?_remove (r : Record) (key other : String) :
    (r.remove key).2.find? other = if other = key then none else r.find? other := by
  simp [find?, remove, Keyed.find?_erase]

end Record

end EntityMapping
