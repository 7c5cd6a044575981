import EntityMapping.Conversion.Entity

/-!
Instances and pairs. The key is the id of the instance, the value its whole record. On the
way back the key replaces any id in the value.
-/

namespace EntityMapping.Mapping

/-- The id in a record, which must not be null. -/
def idIn (m : Metadata) (key : String) (r : Record) : Except MapperError Value :=
  match r.find? key with
  | none | some .null => .error (.noIdValue m.type.name)
  | some v => .ok v

/-- The pair of an instance of a type. -/
def toPair (t : TypeRef) (i : Instance) : Mapping KeyValue := do
  fire .preKeyValueEntity (.entity i)
  let (r, m) ← recordWith t i
  let f ← ofExcept m.id
  let id ← ofExcept (idIn m f.key r)
  let pair : KeyValue := ⟨id, .record r.elements⟩
  fire .preKeyValue (.keyValue pair)
  pure pair

/-- The record in the value of a pair. -/
def elementsOfPair (pair : KeyValue) : Except MapperError Elements :=
  match pair.value with
  | .record es => .ok es
  | v => .error (.notARecord pair.key.display v.typeName)

/-- An instance of a type from a pair. -/
def ofPair (t : TypeRef) (pair : KeyValue) : Mapping Instance := do
  fire .postKeyValue (.keyValue pair)
  let es ← ofExcept (elementsOfPair pair)
  let m ← load t
  let r := Record.ofElements m.name es
  let m ← ofLoading fun _ => Environment.readingMetadata m r.elements
  let f ← ofExcept m.id
  let i ← toEntity t (r.add f.key pair.key)
  fire .postKeyValueEntity (.entity i)
  pure i

end EntityMapping.Mapping
