import EntityMapping.Record

/-!
Graphs of values: vertices with a label, properties and perhaps an id, and edges between two
ends. Adding a property that is there replaces its value in place.
-/

namespace EntityMapping

structure Vertex where
  label : String
  id : Option Value := none
  properties : Elements := []

namespace Vertex

def withProperty (v : Vertex) (key : String) (value : Value) : Vertex :=
  { v with properties := v.properties.put key value }

/-- The vertex of some properties, each key with its last value at its first place. -/
def ofProperties (label : String) (id : Option Value) (properties : Elements) : Vertex :=
  properties.foldl (fun v (key, value) => v.withProperty key value) { label := label, id := id }

def property? (v : Vertex) (key : String) : Option Value := Keyed.find? key v.properties

/-- Whether two lists hold equal elements in one order. -/
def sameElements : Elements → Elements → Bool
  | [], [] => true
  | (k, v) :: es, (l, w) :: fs => k == l && v == w && sameElements es fs
  | _, _ => false

/-- Vertices are equal when all their parts are; the order of the properties counts. -/
def equals (v w : Vertex) : Bool :=
  v.label == w.label && v.id == w.id && sameElements v.properties w.properties

instance : BEq Vertex := ⟨equals⟩

@[simp] theorem property?_withProperty (v : Vertex) (key other : String) (value : Value) :
    (v.withProperty key value).property? other =
      if other = key then some value else v.property? other := by
  simp [withProperty, property?, Keyed.find?_put]

end Vertex

/-- An edge between two ends, which may be vertices or the things behind them. -/
structure Edge (α β : Type) where
  label : String
  outgoing : α
  incoming : β
  id : Option Value := none
  properties : Elements := []

end EntityMapping
