import EntityMapping.Schema.Metadata

/-!
The attributes of one type with their native keys. A key is the declared name, else the
configured id column for an id, else the name of the attribute. A type has at most one id,
and names no attribute and no key twice; of two attributes that clash the later one is
refused.
-/

namespace EntityMapping.Schema

def keyOf (config : Config) (c : Column) : String :=
  match c.name with
  | some name => name
  | none => if c.isId then config.idColumn else c.field

def mapField (config : Config) (owner : TypeRef) (f : Field) : MappedField where
  key := keyOf config f.column
  field := f.column.field
  isId := f.column.isId
  type := f.type
  owner := owner

/-- Whether an attribute may follow some others. -/
def checkAfter (type : TypeRef) (before : List MappedField) (f : MappedField) :
    Except MapperError Unit :=
  match if f.isId then before.find? (·.isId) else none with
  | some g => .error (.severalIds type.name g.field f.field)
  | none =>
    if before.any (·.field == f.field) then .error (.repeatedAttribute type.name f.field)
    else if before.any (·.key == f.key) then .error (.repeatedKey type.name f.key)
    else .ok ()

/-- Whether some attributes may follow others, one after the other. -/
def checkAllAfter (type : TypeRef) (before : List MappedField) :
    List MappedField → Except MapperError Unit
  | [] => .ok ()
  | f :: fs => do
    checkAfter type before f
    checkAllAfter type (before ++ [f]) fs

def fieldsOf (config : Config) (d : Descriptor) : Except MapperError (List MappedField) := do
  let fs := d.fields.map (mapField config d.type)
  checkAllAfter d.type [] fs
  .ok fs

end EntityMapping.Schema
