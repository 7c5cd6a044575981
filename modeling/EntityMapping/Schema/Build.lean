import EntityMapping.Schema.PathIndex
import EntityMapping.Schema.RecordKeys

/-!
Checking a declaration. The rules are looked at in a fixed order: the attributes of the type,
the keys of its record, whether instances can come about, whether only a polymorphic type
lists variants, whether the parent of a variant is polymorphic, and last the attributes of
the types that paths lead through.
-/

namespace EntityMapping.Schema

def discriminatorColumn (config : Config) (declared : Option String) : String :=
  declared.getD config.discriminatorColumn

/-- The tie of a variant to its parent, with the name of their records. -/
def bindVariant (catalog : Catalog) (config : Config) (d : Descriptor) (i : Inheritance) :
    Except MapperError (String × VariantBinding) :=
  let parent := catalog.describe i.parent
  match parent.polymorphism with
  | none => .error (.parentNotPolymorphic d.type.name i.parent.name)
  | some declared =>
    .ok (parent.name, {
      column := discriminatorColumn config declared
      discriminator := i.discriminator
      parent := i.parent
      entity := d.type })

/-- A variant shares the record name of its parent; any other type has its own. -/
def nameAndBinding (catalog : Catalog) (config : Config) (d : Descriptor) :
    Except MapperError (String × Option VariantBinding) :=
  match d.inheritance with
  | none => .ok (d.name, none)
  | some i => (bindVariant catalog config d i).map fun (name, b) => (name, some b)

/-- Refuses a type of which there can be no instances. -/
def checkConstructible (d : Descriptor) : Except MapperError Unit :=
  if d.suppliesInstances || d.constructor.isSome || d.isPolymorphic then .ok ()
  else .error (.notConstructible d.type.name)

/-- Refuses variants of a type that is not polymorphic. -/
def checkVariants (d : Descriptor) : Except MapperError Unit :=
  if d.variants.isEmpty || d.isPolymorphic then .ok ()
  else .error (.variantsOfConcrete d.type.name)

/-- The metadata of a type. -/
def build (catalog : Catalog) (config : Config) (t : TypeRef) : Except MapperError Metadata := do
  let d := catalog.describe t
  let fields ← fieldsOf config d
  let _ ← recordKeys catalog config t fields
  checkConstructible d
  checkVariants d
  let (name, binding) ← nameAndBinding catalog config d
  let paths ← pathIndex catalog config t fields
  .ok {
    name := name
    type := t
    fields := fields
    paths := paths
    suppliesInstances := d.suppliesInstances
    constructor := d.constructor
    binding := binding
    polymorphism := d.polymorphism.map fun declared =>
      ⟨discriminatorColumn config declared, d.variants⟩ }

end EntityMapping.Schema
