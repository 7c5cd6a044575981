import EntityMapping.Error
import EntityMapping.Inspect
import EntityMapping.Value.Json

/-!
Attributes with a form of their own, and the converters that store them. An attribute is the
name of its type with the state behind it. A converter writes attributes of one type as
native values and reads them back; a field names its converter, and a registry finds the
converter by that name.
-/

namespace EntityMapping

/-- An attribute of a type of its own: the printed name of the type, and its state. -/
structure Attribute where
  typeName : String
  content : Value

/-- The printed name of a converter and of the type of its attributes. -/
structure ConverterRef where
  name : String
  attributeType : String
  deriving DecidableEq, Repr

namespace ConverterRef

def inspect (r : ConverterRef) : String := Inspect.wrapped "ConverterRef" r.name

end ConverterRef

/-- How the attributes of one type are written and read. -/
structure Converter where
  ref : ConverterRef
  write : Value → Except MapperError Value
  read : Value → Except MapperError Value

namespace Converter

/-- The native value of an attribute, which has to be of the type of the converter. -/
def toNative (c : Converter) (a : Attribute) : Except MapperError Value :=
  if a.typeName = c.ref.attributeType then c.write a.content
  else .error (.foreignAttribute c.ref.name c.ref.attributeType)

def toAttribute (c : Converter) (v : Value) : Except MapperError Attribute :=
  (c.read v).map fun content => ⟨c.ref.attributeType, content⟩

theorem typeName_toAttribute {c : Converter} {v : Value} {a : Attribute}
    (h : c.toAttribute v = .ok a) : a.typeName = c.ref.attributeType := by
  unfold toAttribute at h
  cases hr : c.read v with
  | error e => rw [hr] at h; cases h
  | ok content => rw [hr] at h; cases h; rfl

end Converter

/-- Converters by name, each name once. -/
abbrev Converters := Keyed Converter

namespace Converters

def register (cs : Converters) (c : Converter) : Converters := cs.put c.ref.name c

def contains (cs : Converters) (r : ConverterRef) : Bool := (Keyed.find? r.name cs).isSome

def get (cs : Converters) (r : ConverterRef) : Except MapperError Converter :=
  match Keyed.find? r.name cs with
  | some c => .ok c
  | none => .error (.unregisteredConverter r.name)

def inspect (cs : Converters) : String :=
  Inspect.fields "Converters" [("len", String.ofList (Numeral.ofNat cs.length))]

end Converters

end EntityMapping
