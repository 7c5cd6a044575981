import EntityMapping.Conversion.Writing
import EntityMapping.Instance.Construction

/-!
Elements as instances. An instance of a polymorphic type is read as the variant that the
discriminator names, and lifted to the type. Any other instance is new and filled attribute
by attribute, or constructed from the elements that the parameters name. What the elements do
not mention stays as it is. An error in the middle leaves the attributes written before it.

An embedded object is read from the elements of its owner and so is a variant; a search that
comes back to a type on the same elements would not end and is refused, unless the type is
constructed, which ends the search. It carries the types that are not being read from these
elements, which get fewer, and starts again with all types on the elements of a nested record,
which are smaller.
-/

namespace EntityMapping

namespace Environment

def discriminatorText : Value → String
  | .text s => s
  | v => v.display

/-- The variant that some elements name, among those of a type. -/
def variantIn (group : Keyed VariantBinding) (m : Metadata) (p : Polymorphism) (es : Elements) :
    Except MapperError VariantBinding :=
  if group.isEmpty then .error (.noVariants m.type.name)
  else
    match es.find? p.column with
    | none => .error (.missingDiscriminator p.column m.name)
    | some v =>
      match group.find? (discriminatorText v) with
      | none => .error (.unknownDiscriminator m.type.name (discriminatorText v))
      | some b => .ok b

def resolveVariant (m : Metadata) (p : Polymorphism) (es : Elements) : Loading VariantBinding :=
  Registry.ask fun r => variantIn (r.group m.type) m p es

/-- The metadata that some elements are read by. -/
def readingMetadata (m : Metadata) (es : Elements) : Loading Metadata :=
  match m.polymorphism with
  | none => pure m
  | some p => do
    let b ← resolveVariant m p es
    Registry.ask (·.known b.entity)

/-- An instance of the parent around an instance of a variant. -/
def lift (env : Environment) (b : VariantBinding) (i : Instance) : Except MapperError Instance :=
  if i.type = b.entity then .ok ((env.catalog.blank b.parent).around i)
  else .error (.wrongValueType b.entity.name)

def newInstance (env : Environment) (m : Metadata) : Except MapperError Instance :=
  if m.suppliesInstances then .ok (env.catalog.blank m.type)
  else .error (.noSupplier m.type.name)

/-! ### Values -/

/-- What is written to an attribute for a native value; a converted attribute ignores null. -/
def contentOf (env : Environment) (f : MappedField) (v : Value) :
    Except MapperError (Option Content) :=
  match f.converter? with
  | none => .ok (some (.native v))
  | some r =>
    if v.isNull then .ok none
    else do
      let k ← env.converters.get r
      (k.toAttribute v).map fun a => some (.attribute a)

def writeNative (env : Environment) (i : Instance) (f : MappedField) (v : Value) :
    Except MapperError Instance := do
  match ← env.contentOf f v with
  | none => .ok i
  | some c => i.write f c

/-- The argument for a parameter. -/
def argumentFor (env : Environment) (p : Parameter) (es : Elements) :
    Except MapperError Argument :=
  match es.find? p.name, p.converter with
  | none, _ => .ok .empty
  | some v, some r =>
    if v.isNull then .ok (.value v)
    else do
      let k ← env.converters.get r
      (k.toAttribute v).map .attribute
  | some v, none => .ok (.value v)

/-- An instance constructed from elements. -/
def construct (env : Environment) (m : Metadata) (es : Elements) :
    Except MapperError Instance :=
  match m.constructor with
  | none => .error (.noConstructor m.type.name)
  | some k => do
    let args ← k.parameters.foldlM (fun (args : Arguments) p => do
      let a ← env.argumentFor p es
      args.add k a) ⟨m.type.name, []⟩
    env.catalog.construct m.type k args

/-! ### Objects -/

def shapeError (f : MappedField) (expected : String) (found : Value) : MapperError :=
  .wrongShape f.field expected f.key found.typeName

def nestedRecord : String := "a nested record"

def listOfRecords : String := "a list of records"

theorem sizeOf_lt_of_find? {α : Type} [SizeOf α] {es : Keyed α} {key : String} {v : α}
    (h : es.find? key = some v) : sizeOf v < sizeOf es := by
  induction es with
  | nil => cases h
  | cons e rest ih =>
    obtain ⟨k, w⟩ := e
    unfold Keyed.find? at h
    split at h
    · cases h
      simp only [List.cons.sizeOf_spec, Prod.mk.sizeOf_spec]
      omega
    · have := ih h
      simp only [List.cons.sizeOf_spec]
      omega

mutual

/-- An instance of a loaded type. `fresh` are the types that are not being read from these
elements. -/
def instantiate (env : Environment) (fresh : List TypeRef) (m : Metadata) (es : Elements) :
    Loading Instance :=
  if m.isConstructed then Loading.ofExcept (env.construct m es)
  else if _h : m.type ∈ fresh then
    match m.polymorphism with
    | some p => do
      let b ← resolveVariant m p es
      let variant ← Registry.ask (·.known b.entity)
      let i ← env.instantiate (fresh.erase m.type) variant es
      Loading.ofExcept (env.lift b i)
    | none => do
      let i ← Loading.ofExcept (env.newInstance m)
      let (result, i) ← env.fillFrom (fresh.erase m.type) i es m.fields
      match result with
      | .ok () => pure i
      | .error e => throw e
  else throw (.endless m.type.name)
termination_by (sizeOf es, fresh.length, 0)
decreasing_by
  · exact .right _ (.left _ _ (TypeRef.length_erase_lt _h))
  · exact .right _ (.left _ _ (TypeRef.length_erase_lt _h))

/-- Fills some attributes of an instance. The instance is what it has become, also after an
error. -/
def fillFrom (env : Environment) (fresh : List TypeRef) (i : Instance) (es : Elements) :
    List MappedField → StateM Registry (Except MapperError Unit × Instance)
  | [] => pure (.ok (), i)
  | f :: fs => do
    match ← (env.contentFrom fresh f es).run with
    | .error e => pure (.error e, i)
    | .ok none => env.fillFrom fresh i es fs
    | .ok (some c) =>
      match i.write f c with
      | .error e => pure (.error e, i)
      | .ok i => env.fillFrom fresh i es fs
termination_by fs => (sizeOf es, fresh.length, fs.length + 2)

/-- What some elements say about an attribute, if they mention it. -/
def contentFrom (env : Environment) (fresh : List TypeRef) (f : MappedField) (es : Elements) :
    Loading (Option Content) :=
  match f.type with
  | .embedded t => do
    let m ← env.load t
    let o ← env.instantiate fresh m es
    pure (some (.object o))
  | .entity t =>
    match _h : es.find? f.key with
    | some (.record nested) => do
      let m ← env.load t
      let o ← env.instantiate env.catalog.types m nested
      pure (some (.object o))
    | none | some .null => pure none
    | some v => throw (shapeError f nestedRecord v)
  | .embeddables t =>
    match _h : es.find? f.key with
    | some (.list items) => do
      let m ← env.load t
      let os ← env.instantiateAll f m items
      pure (some (.objects os))
    | none | some .null => pure none
    | some v => throw (shapeError f listOfRecords v)
  | .plain .. | .converted .. =>
    match es.find? f.key with
    | some v => Loading.ofExcept (env.contentOf f v)
    | none => pure none
termination_by (sizeOf es, fresh.length, 1)
decreasing_by
  · exact .right _ (.right _ (by omega))
  · have := sizeOf_lt_of_find? _h
    simp only [Value.record.sizeOf_spec] at this
    exact .left _ _ (by omega)
  · have := sizeOf_lt_of_find? _h
    simp only [Value.list.sizeOf_spec] at this
    exact .left _ _ (by omega)

/-- The instances of a list of records. -/
def instantiateAll (env : Environment) (f : MappedField) (m : Metadata) :
    List Value → Loading (List Instance)
  | [] => pure []
  | .record nested :: rest => do
    let o ← env.instantiate env.catalog.types m nested
    let os ← env.instantiateAll f m rest
    pure (o :: os)
  | v :: _ => throw (shapeError f listOfRecords v)
termination_by items => (sizeOf items, 0, 0)
decreasing_by
  · exact .left _ _ (by simp only [List.cons.sizeOf_spec, Value.record.sizeOf_spec]; omega)
  · exact .left _ _ (by simp only [List.cons.sizeOf_spec, Value.record.sizeOf_spec]; omega)

end

def read (env : Environment) (m : Metadata) (es : Elements) : Loading Instance :=
  env.instantiate env.catalog.types m es

def fill (env : Environment) (m : Metadata) (i : Instance) (es : Elements) :
    StateM Registry (Except MapperError Unit × Instance) :=
  env.fillFrom env.catalog.types i es m.fields

end Environment

end EntityMapping
