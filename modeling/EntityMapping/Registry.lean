import EntityMapping.Schema.Build

/-!
The registry of loaded types. Loading a type checks its declaration, loads its variants, ties
it to its parent or to the name of its records, and keeps it for good. A failed load keeps
what was loaded on the way. A polymorphic type that comes back to itself through its variants
cannot be loaded; the search carries the types whose load has not begun, and ends because
they get fewer.
-/

namespace EntityMapping

structure Registry where
  loaded : List Metadata := []
  /-- Which type the records of a name belong to; variants have no name of their own. -/
  names : Keyed TypeRef := []
  /-- The variants of all parents, each discriminator of a parent once. -/
  bindings : List VariantBinding := []

instance : Inhabited Registry := ⟨{}⟩

/-- What loading depends on: the declared types, the configuration, and the converters that
reading and writing need. -/
structure Environment where
  catalog : Catalog
  config : Config
  converters : Converters := []

/-- A step that reads and extends the registry, and keeps it even if it fails. -/
abbrev Loading := ExceptT MapperError (StateM Registry)

namespace Registry

def find? (r : Registry) (t : TypeRef) : Option Metadata := r.loaded.find? (·.type == t)

/-- The metadata of a type that has been loaded before. -/
def known (r : Registry) (t : TypeRef) : Except MapperError Metadata :=
  match r.find? t with
  | some m => .ok m
  | none => .error (.unregisteredType t.id)

/-- The metadata of the type that the records of a name belong to. -/
def named (r : Registry) (name : String) : Except MapperError Metadata :=
  match Keyed.find? name r.names with
  | some t => r.known t
  | none => .error (.unregisteredName name)

/-- The variants of a parent by their discriminators. -/
def group (r : Registry) (parent : TypeRef) : Keyed VariantBinding :=
  Keyed.sorted ((r.bindings.filter (·.parent == parent)).map fun b => (b.discriminator, b))

/-- Whether two variants go by one discriminator of one parent. -/
def rivals (b c : VariantBinding) : Bool :=
  b.parent == c.parent && b.discriminator == c.discriminator

/-- Adds a variant; one with the same discriminator gives way. -/
def bind (r : Registry) (b : VariantBinding) : Registry :=
  { r with bindings := r.bindings.filter (!rivals b ·) ++ [b] }

/-- Ties a type to its parent, or to the name of its records. -/
def tie (r : Registry) (m : Metadata) : Except MapperError Registry :=
  match m.binding with
  | none => .ok { r with names := r.names.put m.name m.type }
  | some b =>
    match r.bindings.find? (rivals b) with
    | some other =>
      if other.entity = m.type then .ok (r.bind b)
      else .error (.discriminatorTaken b.discriminator m.type.name)
    | none => .ok (r.bind b)

/-- Keeps the metadata of a type, unless the type has some. -/
def keep (r : Registry) (m : Metadata) : Registry :=
  if (r.find? m.type).isSome then r else { r with loaded := r.loaded ++ [m] }

/-- Enters a type whose variants are loaded. -/
def enter (m : Metadata) : Loading Metadata := do
  let r ← get
  match r.tie m with
  | .error e => throw e
  | .ok r =>
    let r := r.keep m
    set r
    pure ((r.find? m.type).getD m)

def ask {α : Type} (f : Registry → Except MapperError α) : Loading α := do
  let r ← get
  match f r with
  | .ok x => pure x
  | .error e => throw e

end Registry

namespace Environment

mutual

/-- The metadata of a type, which is loaded unless it is. `fresh` are the types whose load
has not begun. -/
def loadFrom (env : Environment) (fresh : List TypeRef) (t : TypeRef) : Loading Metadata := do
  match (← get).find? t with
  | some m => pure m
  | none =>
    if _h : t ∈ fresh then
      match Schema.build env.catalog env.config t with
      | .error e => throw e
      | .ok m =>
        env.loadAllFrom (fresh.erase t) ((m.polymorphism.map (·.variants)).getD [])
        Registry.enter m
    else throw (.endless t.name)
termination_by (fresh.length, 0)
decreasing_by exact .left _ _ (TypeRef.length_erase_lt _h)

/-- Loads one type after the other. -/
def loadAllFrom (env : Environment) (fresh : List TypeRef) : List TypeRef → Loading Unit
  | [] => pure ()
  | t :: ts => do
    let _ ← env.loadFrom fresh t
    env.loadAllFrom fresh ts
termination_by ts => (fresh.length, ts.length + 1)

end

def load (env : Environment) (t : TypeRef) : Loading Metadata := env.loadFrom env.catalog.types t

end Environment

end EntityMapping
