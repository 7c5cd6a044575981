import EntityMapping.Config
import EntityMapping.Schema.Descriptor

/-!
What is known about an entity type once its declaration has been checked: the native key of
every attribute, where each path of attributes leads in a record, and the discriminators
that tie variants to their parent.
-/

namespace EntityMapping

/-! ### Attributes -/

/-- An attribute of a type with its native key. -/
structure MappedField where
  key : String
  field : String
  isId : Bool
  type : FieldType
  /-- The type that has the attribute. -/
  owner : TypeRef

namespace MappedField

def kind (f : MappedField) : FieldKind := f.type.kind

def converter? (f : MappedField) : Option ConverterRef := f.type.converter?

def element? (f : MappedField) : Option TypeRef := f.type.element?

/-- Whether an attribute holds a list of objects. -/
def isEmbeddable (f : MappedField) : Bool := f.kind == .collection && f.element?.isSome

/-- The form in which an attribute would store a native value. Only plain attributes have an
opinion. -/
def coerce (f : MappedField) (v : Value) : Except MapperError Value :=
  match f.type with
  | .plain t _ => t.coerce v
  | _ => .ok v

/-- Whether two attributes are mapped in the same way; their owners do not matter. -/
def same (f g : MappedField) : Bool :=
  f.key == g.key && f.field == g.field && f.kind == g.kind && f.isId == g.isId
    && f.converter? == g.converter? && f.element? == g.element?

def inspect (f : MappedField) : String :=
  Inspect.fields "FieldMapping" [("name", Text.quoted f.key), ("field_name", Text.quoted f.field),
    ("kind", f.kind.name), ("id", Inspect.bool f.isId),
    ("converter", Inspect.option (f.converter?.map ConverterRef.inspect)),
    ("element", Inspect.option (f.element?.map TypeRef.inspect))]

end MappedField

/-- Where a path of attributes leads: a native path, or several of them with commas between,
and the attribute at the end of the path. -/
structure NativePath where
  native : String
  field : MappedField

/-! ### Variants -/

/-- How a variant is told from its siblings. -/
structure VariantBinding where
  column : String
  discriminator : String
  parent : TypeRef
  entity : TypeRef
  deriving DecidableEq, Repr

namespace VariantBinding

def inspect (b : VariantBinding) : String :=
  Inspect.fields "InheritanceMetadata" [("discriminator_column", Text.quoted b.column),
    ("discriminator_value", Text.quoted b.discriminator), ("entity", b.entity.inspect)]

/-- The element that marks a record of the variant. -/
def element (b : VariantBinding) : String × Value := (b.column, .text b.discriminator)

end VariantBinding

/-- How a polymorphic type finds its variants. -/
structure Polymorphism where
  column : String
  variants : List TypeRef
  deriving DecidableEq, Repr

namespace Polymorphism

def inspect (p : Polymorphism) : String :=
  Inspect.fields "PolymorphicMetadata" [("discriminator_column", Text.quoted p.column),
    ("variants", Inspect.list (p.variants.map TypeRef.inspect))]

end Polymorphism

/-! ### Types -/

/-- A checked entity type. -/
structure Metadata where
  /-- The name of its records. -/
  name : String
  type : TypeRef
  fields : List MappedField
  /-- The native paths, in the order of the paths of attributes. -/
  paths : Keyed NativePath
  suppliesInstances : Bool
  constructor : Option Constructor
  binding : Option VariantBinding
  polymorphism : Option Polymorphism

namespace Metadata

def field? (m : Metadata) (key : String) : Option MappedField := m.fields.find? (·.key == key)

def fieldNames (m : Metadata) : List String := m.fields.map (·.field)

def id? (m : Metadata) : Option MappedField := m.fields.find? (·.isId)

def id (m : Metadata) : Except MapperError MappedField :=
  match m.id? with
  | some f => .ok f
  | none => .error (.noId m.type.name)

def findNative? (m : Metadata) (path : String) : Option NativePath := Keyed.find? path m.paths

/-- Where a path leads; a path that is not known stays as it is. -/
def nativePath (m : Metadata) (path : String) : String :=
  match m.findNative? path with
  | some p => p.native
  | none => path

/-- Whether an instance is had without arguments and then filled attribute by attribute. -/
def isDefaultConstructed (m : Metadata) : Bool :=
  (match m.constructor with
    | none => true
    | some c => c.isDefault) && m.suppliesInstances

def isPolymorphic (m : Metadata) : Bool := m.polymorphism.isSome

/-- Whether an instance is made by the constructor from arguments. -/
def isConstructed (m : Metadata) : Bool := !m.isPolymorphic && !m.isDefaultConstructed

/-- The element that marks the records of a variant. -/
def marks (m : Metadata) : Elements := (m.binding.map VariantBinding.element).toList

def inspect (m : Metadata) : String :=
  Inspect.fields "EntityMetadata" [("name", Text.quoted m.name), ("type", m.type.inspect),
    ("fields", Inspect.list (m.fields.map MappedField.inspect)),
    ("constructor", Inspect.option (m.constructor.map Constructor.inspect)),
    ("inheritance", Inspect.option (m.binding.map VariantBinding.inspect)),
    ("polymorphic", Inspect.option (m.polymorphism.map Polymorphism.inspect))]

end Metadata

end EntityMapping
