import EntityMapping.Instance.Basic
import EntityMapping.Registry

/-!
Instances as elements. Attributes are written in order: an embedded object puts its elements
among those of its owner, all else becomes one element. Nulls are left out unless the
configuration asks for them. An instance of a polymorphic type is written as the variant that
it holds, and the elements of a variant end with its discriminator. The types of objects are
loaded on the way.
-/

namespace EntityMapping

namespace Loading

def ofExcept {α : Type} : Except MapperError α → Loading α
  | .ok x => pure x
  | .error e => throw e

end Loading

namespace Environment

/-- The element of a value or a converted attribute; objects have no element of their own. -/
def leafElements (env : Environment) (f : MappedField) (c : Content) :
    Except MapperError Elements :=
  match f.kind, c with
  | .plain, .attribute a | .collection, .attribute a | .map, .attribute a =>
    match f.converter? with
    | none => .error (.noConverter f.field)
    | some r => do
      let k ← env.converters.get r
      let v ← k.toNative a
      .ok [(f.key, v)]
  | .plain, .native v | .collection, .native v | .map, .native v => .ok [(f.key, v)]
  | kind, _ => .error (.unreadableShape f.field kind.name)

def elementType (f : MappedField) : Except MapperError TypeRef :=
  match f.element? with
  | some t => .ok t
  | none => .error (.noElementType f.field)

def keeps (env : Environment) (v : Value) : Bool := env.config.materializeNulls || !v.isNull

/-- The instance that is written for an instance, which has to be of a type: itself, or the
variant that it holds. -/
def concrete (m : Metadata) (i : Instance) : Except MapperError Instance :=
  if m.isPolymorphic then
    if i.type = m.type then
      match i.held with
      | some v => .ok v
      | none => .error (.noVariants m.type.name)
    else .error (.wrongInstance m.type.name)
  else .ok i

theorem sizeOf_concrete {m : Metadata} {i j : Instance} (h : concrete m i = .ok j) :
    sizeOf j ≤ sizeOf i := by
  unfold concrete at h
  split at h
  · split at h
    · split at h
      · rename_i hv
        cases h
        exact Nat.le_of_lt (Instance.sizeOf_held hv)
      · cases h
    · cases h
  · cases h
    exact Nat.le_refl _

/-- The metadata that tells how an instance of a type is written: that of the type, or of
the variant that it holds, which must have been loaded. -/
def concreteMetadata (m : Metadata) (i : Instance) : Loading Metadata :=
  if m.isPolymorphic then Registry.ask (·.known i.type) else pure m

mutual

/-- The elements of an instance, taken as an instance of a type. -/
def elements (env : Environment) (i : Instance) (t : TypeRef) : Loading Elements := do
  let m ← env.load t
  let (es, _) ← env.elementsWith i m
  pure es
termination_by (sizeOf i, 3, 0)

/-- The elements of an instance of a loaded type, and the metadata that they follow. -/
def elementsWith (env : Environment) (i : Instance) (m : Metadata) :
    Loading (Elements × Metadata) :=
  match _h : concrete m i with
  | .error e => throw e
  | .ok j => do
    let m ← concreteMetadata m j
    let es ← env.fieldElements j m.fields
    pure (es ++ m.marks, m)
termination_by (sizeOf i, 2, 0)
decreasing_by
  have := sizeOf_concrete _h
  rcases Nat.lt_or_eq_of_le this with h | h
  · exact .left _ _ h
  · rw [h]
    exact .right _ (.left _ _ (by omega))

/-- The elements of some attributes of an instance. -/
def fieldElements (env : Environment) (i : Instance) : List MappedField → Loading Elements
  | [] => pure []
  | f :: fs => do
    let own ← (match _h : i.read f with
      | .error e => throw e
      | .ok c =>
        if c.isEmpty && !env.config.materializeNulls then pure []
        else do
          let es ← env.contentElements f c
          pure (es.filter fun e => env.keeps e.2))
    let rest ← env.fieldElements i fs
    pure (own ++ rest)
termination_by fs => (sizeOf i, 1, fs.length)
decreasing_by
  · exact .left _ _ (Instance.weight_read _h)
  · exact .right _ (.right _ (by simp))

/-- The elements of what an attribute holds. -/
def contentElements (env : Environment) (f : MappedField) (c : Content) : Loading Elements :=
  match f.kind, c with
  | .embedded, .object o => do
    let t ← Loading.ofExcept (elementType f)
    env.elements o t
  | .entity, .object o => do
    let t ← Loading.ofExcept (elementType f)
    let es ← env.elements o t
    pure [(f.key, .record es)]
  | .collection, .objects os => do
    let t ← Loading.ofExcept (elementType f)
    let records ← env.objectRecords t os
    pure [(f.key, .list records)]
  | _, c => Loading.ofExcept (env.leafElements f c)
termination_by (c.weight, 4, 0)
decreasing_by
  · exact .right _ (.left _ _ (by omega))
  · exact .right _ (.left _ _ (by omega))
  · exact .right _ (.left _ _ (by omega))

/-- The records of objects of a type. -/
def objectRecords (env : Environment) (t : TypeRef) : List Instance → Loading (List Value)
  | [] => pure []
  | o :: os => do
    let es ← env.elements o t
    let rest ← env.objectRecords t os
    pure (.record es :: rest)
termination_by os => (sizeOf os, 3, 0)
decreasing_by
  · exact .left _ _ (by simp only [List.cons.sizeOf_spec]; omega)
  · exact .left _ _ (by simp only [List.cons.sizeOf_spec]; omega)

end

end Environment

end EntityMapping
