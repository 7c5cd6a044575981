import EntityMapping.Conversion.Entity
import EntityMapping.Graph

/-!
Instances and vertices. The label of a vertex is the name of the record, its id the value
under the id key unless that is null, and its properties are all other elements. On the way
back the id goes to the id key of the type that the properties are read as.
-/

namespace EntityMapping.Mapping

/-- The vertex of a record whose id lies under a key. -/
def vertexOf (idKey : Option String) (r : Record) : Vertex where
  label := r.name
  id := (idKey.bind r.find?).filter fun v => !v.isNull
  properties := r.elements.filter fun e => some e.1 != idKey

def toVertex (t : TypeRef) (i : Instance) : Mapping Vertex := do
  let (r, m) ← recordWith t i
  pure (vertexOf (m.id?.map (·.key)) r)

/-- The record behind a vertex, read as a loaded type. -/
def recordOfVertex (m : Metadata) (v : Vertex) : Mapping Record := do
  let r := Record.ofElements v.label v.properties
  match v.id with
  | none => pure r
  | some id => do
    let m ← ofLoading fun _ => Environment.readingMetadata m r.elements
    match m.id? with
    | none => throw (.vertexWithoutId v.label m.type.name)
    | some f => pure (r.add f.key id)

def ofVertex (t : TypeRef) (v : Vertex) : Mapping Instance := do
  let m ← load t
  let r ← recordOfVertex m v
  toEntity t r

/-- An instance from a vertex, of the type that the label belongs to. -/
def ofVertexByLabel (v : Vertex) : Mapping Instance := do
  let m ← named v.label
  let r ← recordOfVertex m v
  toEntityByName r

/-- Fills an instance of a type from a vertex; gives the instance as it is afterwards. -/
def ofVertexInto (t : TypeRef) (i : Instance) (v : Vertex) :
    StateM Context (Except MapperError Unit × Instance) := do
  let r ← (do
    let m ← load t
    recordOfVertex m v : Mapping Record).run
  match r with
  | .error e => pure (.error e, i)
  | .ok r => toEntityInto t i r

/-! ### Edges -/

def toEdge (out into : TypeRef) (e : Edge Instance Instance) : Mapping (Edge Vertex Vertex) := do
  let v ← toVertex out e.outgoing
  let w ← toVertex into e.incoming
  pure { e with outgoing := v, incoming := w }

def ofEdge (out into : TypeRef) (e : Edge Vertex Vertex) :
    Mapping (Edge Instance Instance) := do
  let i ← ofVertex out e.outgoing
  let j ← ofVertex into e.incoming
  pure { e with outgoing := i, incoming := j }

end EntityMapping.Mapping
