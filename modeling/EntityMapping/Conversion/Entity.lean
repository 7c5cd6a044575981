import EntityMapping.Context

/-!
Instances and records. Before an instance becomes a record, and after a record has become an
instance, the listeners are called. Filling an instance in place calls nobody, works for
types that are not polymorphic only, and leaves the attributes written before an error.
-/

namespace EntityMapping.Mapping

/-- The record of an instance of a type, and the metadata that it follows. -/
def recordWith (t : TypeRef) (i : Instance) : Mapping (Record × Metadata) := do
  fire .preEntity (.entity i)
  let m ← load t
  let (es, m) ← ofLoading fun env => env.elementsWith i m
  pure (.ofElements m.name es, m)

def toRecord (t : TypeRef) (i : Instance) : Mapping Record := do
  let (r, _) ← recordWith t i
  pure r

/-- An instance of a loaded type from a record. -/
def readRecord (m : Metadata) (r : Record) : Mapping Instance := do
  let i ← ofLoading fun env => env.read m r.elements
  fire .postEntity (.entity i)
  pure i

def toEntity (t : TypeRef) (r : Record) : Mapping Instance := do
  let m ← load t
  readRecord m r

/-- An instance from a record, of the type that the name of the record belongs to. -/
def toEntityByName (r : Record) : Mapping Instance := do
  let m ← named r.name
  readRecord m r

/-- Fills an instance of a type from a record; gives the instance as it is afterwards. -/
def toEntityInto (t : TypeRef) (i : Instance) (r : Record) :
    StateM Context (Except MapperError Unit × Instance) := do
  match ← (load t).run with
  | .error e => pure (.error e, i)
  | .ok m =>
    if m.isPolymorphic then pure (.error (.polymorphicTarget m.type.name), i)
    else do
      let c ← get
      let (answer, registry) := (c.environment.fill m i r.elements).run c.registry
      set { c with registry := registry }
      pure answer

def feedId (t : TypeRef) (i : Instance) (id : Value) : Mapping Instance := do
  let m ← load t
  let f ← ofExcept m.id
  ofLoading fun env => Loading.ofExcept (env.writeNative i f id)

end EntityMapping.Mapping
