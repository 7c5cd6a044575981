import EntityMapping.Attribute.Basic
import EntityMapping.AttributeType.Coercion
import EntityMapping.Schema.Column

/-!
What is declared about entity types. A descriptor lists the attributes of a type with the
columns they go to, how instances come about, the parent that a type is a variant of, and,
for a polymorphic type, its variants. A catalog holds the descriptors of finitely many types;
a type that it does not hold counts as declared without anything.
-/

namespace EntityMapping

/-- An entity type: its identity and its printed name. -/
structure TypeRef where
  id : Nat
  name : String
  deriving DecidableEq, Repr

namespace TypeRef

instance : Inhabited TypeRef := ⟨⟨0, ""⟩⟩

def inspect (t : TypeRef) : String := Inspect.wrapped "TypeRef" t.name

/-- A type taken out of some types leaves fewer of them. -/
theorem length_erase_lt {ts : List TypeRef} {t : TypeRef} (h : t ∈ ts) :
    (ts.erase t).length < ts.length := by
  rw [List.length_erase_of_mem h]
  have := List.length_pos_of_mem h
  omega

end TypeRef

/-! ### Attributes of a type -/

/-- How an attribute lies in a record. -/
inductive FieldKind where
  /-- One value under a key. -/
  | plain
  /-- An object whose elements lie in the record of its owner. -/
  | embedded
  /-- An object in a record of its own, under a key. -/
  | entity
  /-- A list under a key. -/
  | collection
  /-- A map under a key. -/
  | map
  deriving DecidableEq, Repr

namespace FieldKind

def name : FieldKind → String
  | .plain => "Default"
  | .embedded => "Embedded"
  | .entity => "Entity"
  | .collection => "Collection"
  | .map => "Map"

def ofShape : AttributeType.Shape → FieldKind
  | .scalar => .plain
  | .collection => .collection
  | .map => .map

end FieldKind

/-- What an attribute holds; where it is a value, also the value it starts with. -/
inductive FieldType where
  | plain (type : AttributeType) (initial : type.Carrier)
  | converted (converter : ConverterRef) (initial : Value)
  | embedded (type : TypeRef)
  | entity (type : TypeRef)
  | embeddables (type : TypeRef)

namespace FieldType

def kind : FieldType → FieldKind
  | .plain t _ => .ofShape t.shape
  | .converted .. => .plain
  | .embedded _ => .embedded
  | .entity _ => .entity
  | .embeddables _ => .collection

/-- The converter of a converted attribute. -/
def converter? : FieldType → Option ConverterRef
  | .converted r _ => some r
  | _ => none

/-- The type of the objects in an attribute. -/
def element? : FieldType → Option TypeRef
  | .embedded t | .entity t | .embeddables t => some t
  | _ => none

end FieldType

structure Field where
  column : Column
  type : FieldType

/-! ### Constructors -/

/-- A parameter of a constructor, named by the key that its argument comes from. -/
structure Parameter where
  name : String
  converter : Option ConverterRef := none
  deriving DecidableEq, Repr

namespace Parameter

def inspect (p : Parameter) : String :=
  Inspect.fields "Parameter" [("name", Text.quoted p.name),
    ("converter", Inspect.option (p.converter.map ConverterRef.inspect))]

end Parameter

/-- How a constructor takes an argument. -/
inductive Taking where
  /-- A value that has to be there, read as a type. -/
  | get (type : AttributeType)
  /-- A value that may be missing or null. -/
  | optional (type : AttributeType)
  /-- An attribute that a converter has read. -/
  | attribute (typeName : String)
  /-- Whether the argument is missing. -/
  | isEmpty
  /-- The number of all arguments. -/
  | count
  deriving DecidableEq, Repr

/-- One step of a constructor: what it takes goes to an attribute. -/
structure Assignment where
  field : String
  parameter : String
  taking : Taking
  deriving DecidableEq, Repr

/-- A constructor takes its arguments one after the other into a new instance. -/
structure Constructor where
  parameters : List Parameter
  assignments : List Assignment
  deriving DecidableEq, Repr

namespace Constructor

/-- Without parameters there is nothing to pass. -/
def isDefault (c : Constructor) : Bool := c.parameters.isEmpty

def inspect (c : Constructor) : String :=
  Inspect.fields "ConstructorMetadata"
    [("parameters", Inspect.list (c.parameters.map Parameter.inspect))]

end Constructor

/-! ### Types -/

/-- Of which type a variant is, and the discriminator of its records. -/
structure Inheritance where
  parent : TypeRef
  discriminator : String
  deriving DecidableEq, Repr

/-- The declaration of an entity type. -/
structure Descriptor where
  name : String
  type : TypeRef
  fields : List Field := []
  /-- Whether new instances can be had without arguments. -/
  suppliesInstances : Bool := false
  constructor : Option Constructor := none
  inheritance : Option Inheritance := none
  /-- For a polymorphic type, the column of the discriminator, if it names one. -/
  polymorphism : Option (Option String) := none
  variants : List TypeRef := []

namespace Descriptor

def isPolymorphic (d : Descriptor) : Bool := d.polymorphism.isSome

def fieldNames (d : Descriptor) : List String := d.fields.map (·.column.field)

def inspect (d : Descriptor) : String :=
  Inspect.fields "EntityDescriptor" [("name", Text.quoted d.name), ("type", d.type.inspect),
    ("fields", Inspect.list (d.fieldNames.map Text.quoted)),
    ("polymorphic", Inspect.bool d.isPolymorphic)]

end Descriptor

/-- The declared types, and the printed name of native values among the types of attributes. -/
structure Catalog where
  descriptors : List Descriptor
  valueName : String

namespace Catalog

def types (c : Catalog) : List TypeRef := c.descriptors.map (·.type)

def describe (c : Catalog) (t : TypeRef) : Descriptor :=
  (c.descriptors.find? (·.type == t)).getD { name := "", type := t }

@[simp] theorem type_describe (c : Catalog) (t : TypeRef) : (c.describe t).type = t := by
  unfold describe
  cases h : c.descriptors.find? (·.type == t) with
  | none => rfl
  | some d => simpa using List.find?_some h

end Catalog

end EntityMapping
