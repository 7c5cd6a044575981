import EntityMapping.Conversion.Reading
import EntityMapping.Proofs.Effect
import EntityMapping.Proofs.Schema.Built

/-!
What writing and reading do for one attribute, by the kind of the attribute. An embedded object is
written among the elements of its owner, everything else as one element under its key; and each is
read from where it was written. What the steps of a reading have and hand on, the reading has.
-/

namespace EntityMapping.Environment

variable {env : Environment} {fresh : List TypeRef} {f : MappedField} {es : Elements} {t : TypeRef}

/-! ### Writing -/

theorem leafElements_plain {type : AttributeType} {initial : type.Carrier}
    {v : Value} (kind : f.type = .plain type initial) :
    env.leafElements f (.native v) = .ok [(f.key, v)] := by
  have shape : f.kind = .ofShape type.shape := by
    unfold MappedField.kind
    rw [kind]
    rfl
  unfold leafElements
  cases h : type.shape <;> simp only [shape, h, FieldKind.ofShape]

/-- A converted attribute is written by its converter. -/
theorem leafElements_attribute {c : ConverterRef} {initial : Value} (a : Attribute)
    (kind : f.type = .converted c initial) :
    env.leafElements f (.attribute a) = (do
      let k ← env.converters.get c
      let v ← k.toNative a
      .ok [(f.key, v)]) := by
  have plain : f.kind = .plain := by
    unfold MappedField.kind
    rw [kind]
    rfl
  have reference : f.converter? = some c := by
    unfold MappedField.converter?
    rw [kind]
    rfl
  unfold leafElements
  simp only [plain, reference]

theorem leafElements_converted {c : ConverterRef} {initial : Value}
    {a : Attribute} (kind : f.type = .converted c initial)
    (h : env.leafElements f (.attribute a) = .ok es) :
    ∃ k v, env.converters.get c = .ok k ∧ k.toNative a = .ok v ∧ es = [(f.key, v)] := by
  rw [leafElements_attribute a kind] at h
  obtain ⟨k, hk, h⟩ := Schema.bind_eq_ok h
  obtain ⟨v, hv, h⟩ := Schema.bind_eq_ok h
  cases h
  exact ⟨k, v, hk, hv, rfl⟩

theorem leafElements_object (o : Instance) :
    env.leafElements f (.object o) = .error (.unreadableShape f.field f.kind.name) := by
  unfold leafElements
  cases f.kind <;> rfl

theorem leafElements_objects (os : List Instance) :
    env.leafElements f (.objects os) = .error (.unreadableShape f.field f.kind.name) := by
  unfold leafElements
  cases f.kind <;> rfl

/-- The elements of one attribute of an instance that are written. -/
def ownElements (env : Environment) (i : Instance) (f : MappedField) : Loading Elements :=
  match i.read f with
  | .error e => throw e
  | .ok c =>
    if c.isEmpty && !env.config.materializeNulls then pure []
    else do
      let es ← env.contentElements f c
      pure (es.filter fun e => env.keeps e.2)

theorem fieldElements_cons (i : Instance) (f : MappedField) (fs : List MappedField) :
    env.fieldElements i (f :: fs) = (do
      let own ← env.ownElements i f
      let rest ← env.fieldElements i fs
      pure (own ++ rest)) := by
  rw [fieldElements, ownElements]
  cases i.read f <;> rfl

/-- An attribute of which nothing is written holds the value null, and null is left out. -/
theorem eq_null_of_isEmpty {c : Content} (h : (c.isEmpty && !env.config.materializeNulls) = true) :
    c = .native .null ∧ env.keeps .null = false := by
  simp only [Bool.and_eq_true, Bool.not_eq_true'] at h
  obtain ⟨nothing, unkept⟩ := h
  refine ⟨?_, by simp [keeps, unkept, Value.isNull]⟩
  unfold Content.isEmpty at nothing
  split at nothing
  · rfl
  · cases nothing

theorem keeps_text (s : String) : env.keeps (.text s) = true := by simp [keeps, Value.isNull]

theorem eq_null_of_isNull {v : Value} (h : v.isNull = true) : v = .null := by
  cases v <;> first | rfl | cases h

theorem eq_null_of_not_keeps {v : Value} (h : env.keeps v = false) : v = .null := by
  cases v <;> simp_all [keeps, Value.isNull]

/-- What one attribute writes, if it is either nothing for a null or what its content becomes. -/
theorem yields_own {I : Registry → Prop} {P : Elements → Prop} {i : Instance}
    (null : i.read f = .ok (.native .null) → env.keeps .null = false → P [])
    (content : ∀ c, i.read f = .ok c → Effect.Yields I (env.contentElements f c) fun es =>
      P (es.filter fun e => env.keeps e.2)) :
    Effect.Yields I (env.ownElements i f) P := by
  unfold ownElements
  split
  · exact .throw _
  · rename_i c read
    split
    · rename_i empty
      obtain ⟨rfl, unkept⟩ := eq_null_of_isEmpty empty
      exact .pure (null read unkept)
    · exact (content c read).bind fun es h => .pure h

theorem yields_ofExcept {α : Type} {I : Registry → Prop} (x : Except MapperError α) :
    Effect.Yields I (Loading.ofExcept x) fun a => x = .ok a := by
  cases x with
  | error e => exact .throw e
  | ok a => exact .pure rfl

theorem ofShape_ne (s : AttributeType.Shape) :
    FieldKind.ofShape s ≠ .embedded ∧ FieldKind.ofShape s ≠ .entity := by
  cases s <;> decide

theorem kind_eq_embedded : f.kind = .embedded ↔ ∃ u, f.type = .embedded u := by
  rw [MappedField.kind]
  cases f.type <;> simp [FieldType.kind, ofShape_ne]

theorem kind_eq_entity : f.kind = .entity ↔ ∃ u, f.type = .entity u := by
  rw [MappedField.kind]
  cases f.type <;> simp [FieldType.kind, ofShape_ne]

theorem contentElements_embedded {o : Instance} (h : f.type = .embedded t) :
    env.contentElements f (.object o) = env.elements o t := by
  rw [contentElements.eq_1 _ _ _ (kind_eq_embedded.2 ⟨t, h⟩), elementType, MappedField.element?, h]
  rfl

theorem contentElements_entity {o : Instance} (h : f.type = .entity t) :
    env.contentElements f (.object o) = (do
      let es ← env.elements o t
      pure [(f.key, .record es)]) := by
  rw [contentElements.eq_2 _ _ _ (kind_eq_entity.2 ⟨t, h⟩), elementType, MappedField.element?, h]
  rfl

theorem contentElements_embeddables {os : List Instance} (h : f.type = .embeddables t) :
    env.contentElements f (.objects os) = (do
      let records ← env.objectRecords t os
      pure [(f.key, .list records)]) := by
  have kind : f.kind = .collection := by rw [MappedField.kind, h, FieldType.kind]
  rw [contentElements.eq_3 _ _ _ kind, elementType, MappedField.element?, h]
  rfl

theorem contentElements_native (v : Value) :
    env.contentElements f (.native v) = Loading.ofExcept (env.leafElements f (.native v)) :=
  contentElements.eq_4 _ _ _ (fun _ _ h => by cases h) (fun _ _ h => by cases h)
    fun _ _ h => by cases h

theorem contentElements_attribute (a : Attribute) :
    env.contentElements f (.attribute a) = Loading.ofExcept (env.leafElements f (.attribute a)) :=
  contentElements.eq_4 _ _ _ (fun _ _ h => by cases h) (fun _ _ h => by cases h)
    fun _ _ h => by cases h

theorem elementsWith_of_error {i : Instance} {m : Metadata} {e : MapperError}
    (h : concrete m i = .error e) : env.elementsWith i m = throw e := by
  rw [elementsWith]
  split
  · rename_i h'
    rw [h] at h'
    cases h'
    rfl
  · rename_i h'
    rw [h] at h'
    cases h'

/-- An instance is written by the attributes of what it is written as, and marked as that. -/
theorem elementsWith_of_ok {i j : Instance} {m : Metadata} (h : concrete m i = .ok j) :
    env.elementsWith i m = (do
      let n ← concreteMetadata m j
      let es ← env.fieldElements j n.fields
      pure (es ++ n.marks, n)) := by
  rw [elementsWith]
  split
  · rename_i h'
    rw [h] at h'
    cases h'
  · rename_i h'
    rw [h] at h'
    cases h'
    rfl

theorem elementsWith_concrete {i : Instance} {m : Metadata} (h : m.isPolymorphic = false) :
    env.elementsWith i m = (do
      let es ← env.fieldElements i m.fields
      pure (es ++ m.marks, m)) := by
  have single : concrete m i = .ok i := by rw [concrete, h]; rfl
  rw [elementsWith_of_ok single, concreteMetadata, h]
  rfl

/-! ### Every writing -/

/-- A property of steps that what a writing consists of has and passes on. -/
structure PassedOn (env : Environment) (S : ∀ {α : Type}, Loading α → Prop) : Prop where
  pure {α : Type} (a : α) : S (Pure.pure a)
  throw {α : Type} (e : MapperError) : S (throw e : Loading α)
  bind {α β : Type} {x : Loading α} {f : α → Loading β} :
    S x → (∀ a, S (f a)) → S (x >>= f)
  load (t : TypeRef) : S (env.load t)
  known (t : TypeRef) : S (Registry.ask (·.known t))

section

variable {S : ∀ {α : Type}, Loading α → Prop}

theorem PassedOn.ofExcept {α : Type} (h : PassedOn env S) (x : Except MapperError α) :
    S (Loading.ofExcept x) := by
  cases x with
  | error e => exact h.throw e
  | ok a => exact h.pure a

theorem PassedOn.concreteMetadata (h : PassedOn env S) (m : Metadata) (i : Instance) :
    S (concreteMetadata m i) := by
  unfold Environment.concreteMetadata
  split
  · exact h.known _
  · exact h.pure m

theorem PassedOn.ownElements (h : PassedOn env S) {i : Instance}
    (content : ∀ c, i.read f = .ok c → S (env.contentElements f c)) :
    S (env.ownElements i f) := by
  unfold Environment.ownElements
  split
  · exact h.throw _
  · rename_i c read
    split
    · exact h.pure []
    · exact h.bind (content c read) fun es => h.pure _

/-- What is passed on holds of every writing. -/
theorem PassedOn.elements (h : PassedOn env S) :
    (∀ i t, S (env.elements i t)) ∧
    (∀ i m, S (env.elementsWith i m)) ∧
    (∀ i fs, S (env.fieldElements i fs)) ∧
    (∀ f c, S (env.contentElements f c)) ∧
    (∀ t os, S (env.objectRecords t os)) := by
  refine elements.mutual_induct _ _ _ _ _ ?elements ?refused ?written ?noFields ?field ?embedded
    ?entity ?embeddables ?value ?noRecords ?record
  case elements =>
    intro i t written
    rw [Environment.elements]
    exact h.bind (h.load t) fun m => h.bind (written m) fun p => h.pure _
  case refused =>
    intro i m e single
    rw [elementsWith_of_error single]
    exact h.throw e
  case written =>
    intro i m j single fields
    rw [elementsWith_of_ok single]
    exact h.bind (h.concreteMetadata m j) fun n => h.bind (fields n) fun es => h.pure _
  case noFields =>
    intro i
    rw [fieldElements]
    exact h.pure []
  case field =>
    intro i f fs own rest
    rw [fieldElements_cons]
    exact h.bind (h.ownElements fun c read => own c read) fun es => h.bind rest fun _ => h.pure _
  case embedded =>
    intro f o kind written
    rw [contentElements.eq_1 _ _ _ kind]
    exact h.bind (h.ofExcept _) written
  case entity =>
    intro f o kind written
    rw [contentElements.eq_2 _ _ _ kind]
    exact h.bind (h.ofExcept _) fun t => h.bind (written t) fun es => h.pure _
  case embeddables =>
    intro f os kind written
    rw [contentElements.eq_3 _ _ _ kind]
    exact h.bind (h.ofExcept _) fun t => h.bind (written t) fun es => h.pure _
  case value =>
    intro f c embedded entity collection
    rw [contentElements.eq_4 _ _ _ embedded entity collection]
    exact h.ofExcept _
  case noRecords =>
    intro t
    rw [objectRecords]
    exact h.pure []
  case record =>
    intro t o os first rest
    rw [objectRecords]
    exact h.bind first fun es => h.bind rest fun vs => h.pure _

end

/-! ### Reading -/

theorem contentFrom_embedded (h : f.type = .embedded t) :
    env.contentFrom fresh f es = (do
      let m ← env.load t
      let o ← env.instantiate fresh m es
      pure (some (.object o))) := by
  rw [contentFrom, h]

theorem contentFrom_entity (h : f.type = .entity t) :
    env.contentFrom fresh f es =
      match es.find? f.key with
      | some (.record nested) => do
        let m ← env.load t
        let o ← env.instantiate env.catalog.types m nested
        pure (some (.object o))
      | none | some .null => pure none
      | some v => throw (shapeError f nestedRecord v) := by
  rw [contentFrom, h]
  dsimp only
  split <;> simp [*]

theorem contentFrom_embeddables (h : f.type = .embeddables t) :
    env.contentFrom fresh f es =
      match es.find? f.key with
      | some (.list items) => do
        let m ← env.load t
        let os ← env.instantiateAll f m items
        pure (some (.objects os))
      | none | some .null => pure none
      | some v => throw (shapeError f listOfRecords v) := by
  rw [contentFrom, h]
  dsimp only
  split <;> simp [*]

theorem contentFrom_entity_of_other {v : Value} (h : f.type = .entity t)
    (found : es.find? f.key = some v) (noRecord : ∀ nested, v ≠ .record nested)
    (notNull : v ≠ .null) :
    env.contentFrom fresh f es = throw (shapeError f nestedRecord v) := by
  rw [contentFrom_entity h, found]
  split
  · rename_i same
    exact absurd (Option.some.inj same) (noRecord _)
  · rename_i none
    cases none
  · rename_i null
    exact absurd (Option.some.inj null) notNull
  · rename_i same
    cases same
    rfl

theorem contentFrom_embeddables_of_other {v : Value} (h : f.type = .embeddables t)
    (found : es.find? f.key = some v) (noList : ∀ items, v ≠ .list items) (notNull : v ≠ .null) :
    env.contentFrom fresh f es = throw (shapeError f listOfRecords v) := by
  rw [contentFrom_embeddables h, found]
  split
  · rename_i same
    exact absurd (Option.some.inj same) (noList _)
  · rename_i none
    cases none
  · rename_i null
    exact absurd (Option.some.inj null) notNull
  · rename_i same
    cases same
    rfl

theorem contentFrom_leaf (h : f.type.element? = none) :
    env.contentFrom fresh f es =
      match es.find? f.key with
      | some v => Loading.ofExcept (env.contentOf f v)
      | none => pure none := by
  rw [contentFrom]
  cases g : f.type with
  | plain T x => rfl
  | converted r x => rfl
  | embedded t => rw [g] at h; cases h
  | entity t => rw [g] at h; cases h
  | embeddables t => rw [g] at h; cases h

/-! ### Filling -/

variable {i j : Instance} {fs : List MappedField} {r s : Registry}

theorem run_fillFrom_nil : (env.fillFrom fresh i es []).run r = ((.ok (), i), r) := by
  rw [fillFrom]
  rfl

theorem run_fillFrom_of_none (h : (env.contentFrom fresh f es).run r = (.ok none, s)) :
    (env.fillFrom fresh i es (f :: fs)).run r = (env.fillFrom fresh i es fs).run s := by
  rw [fillFrom]
  show StateT.run (_ >>= _) r = _
  rw [StateT.run_bind, show StateT.run (ExceptT.run (env.contentFrom fresh f es)) r = _ from h]
  rfl

theorem run_fillFrom_of_some {c : Content}
    (h : (env.contentFrom fresh f es).run r = (.ok (some c), s)) (written : i.write f c = .ok j) :
    (env.fillFrom fresh i es (f :: fs)).run r = (env.fillFrom fresh j es fs).run s := by
  rw [fillFrom]
  show StateT.run (_ >>= _) r = _
  rw [StateT.run_bind, show StateT.run (ExceptT.run (env.contentFrom fresh f es)) r = _ from h]
  dsimp only [pure_bind, bind, Id.run]
  rw [written]

theorem run_fillFrom_of_error {e : MapperError}
    (h : (env.contentFrom fresh f es).run r = (.error e, s)) :
    (env.fillFrom fresh i es (f :: fs)).run r = ((.error e, i), s) := by
  rw [fillFrom]
  show StateT.run (_ >>= _) r = _
  rw [StateT.run_bind, show StateT.run (ExceptT.run (env.contentFrom fresh f es)) r = _ from h]
  rfl

theorem run_fillFrom_of_refused {c : Content} {e : MapperError}
    (h : (env.contentFrom fresh f es).run r = (.ok (some c), s))
    (refused : i.write f c = .error e) :
    (env.fillFrom fresh i es (f :: fs)).run r = ((.error e, i), s) := by
  rw [fillFrom]
  show StateT.run (_ >>= _) r = _
  rw [StateT.run_bind, show StateT.run (ExceptT.run (env.contentFrom fresh f es)) r = _ from h]
  dsimp only [pure_bind, bind, Id.run]
  rw [refused]
  rfl

/-! ### Instances -/

variable {m : Metadata}

/-- The instance that a filling leaves, if it succeeds. -/
def ofFill (x : StateM Registry (Except MapperError Unit × Instance)) : Loading Instance := do
  let (result, i) ← (liftM x : Loading (Except MapperError Unit × Instance))
  match result with
  | .ok () => pure i
  | .error e => throw e

theorem run_ofFill_eq_ok {x : StateM Registry (Except MapperError Unit × Instance)} :
    (ofFill x).run r = (.ok j, s) ↔ x.run r = ((.ok (), j), s) := by
  rw [ofFill, Effect.run_bind, Effect.run_lift]
  rcases x.run r with ⟨⟨e | u, i⟩, t⟩
  · exact ⟨nofun, nofun⟩
  · exact ⟨fun h => by cases h; rfl, fun h => by cases h; rfl⟩

theorem ofFill_nil : ofFill (env.fillFrom fresh i es []) = pure i := by
  rw [fillFrom]
  rfl

/-- A filling takes one attribute after the other. -/
theorem ofFill_cons :
    ofFill (env.fillFrom fresh i es (f :: fs)) = (do
      match ← env.contentFrom fresh f es with
      | none => ofFill (env.fillFrom fresh i es fs)
      | some c =>
        let j ← Loading.ofExcept (i.write f c)
        ofFill (env.fillFrom fresh j es fs)) := by
  refine ExceptT.ext (StateT.ext fun r => ?_)
  show (ofFill _).run r = (_ >>= _ : Loading Instance).run r
  rw [Effect.run_bind, ofFill, Effect.run_bind, Effect.run_lift]
  rcases read : (env.contentFrom fresh f es).run r with ⟨e | _ | c, s⟩
  · rw [run_fillFrom_of_error read]
    rfl
  · rw [run_fillFrom_of_none read]
    rfl
  · cases written : i.write f c with
    | error e =>
      rw [run_fillFrom_of_refused read written]
      dsimp only
      rw [written]
      rfl
    | ok j =>
      rw [run_fillFrom_of_some read written]
      dsimp only
      rw [written]
      rfl

theorem instantiate_concrete (supplied : m.isConstructed = false) (mem : m.type ∈ fresh)
    (concrete : m.polymorphism = none) :
    env.instantiate fresh m es = (do
      let i ← Loading.ofExcept (env.newInstance m)
      ofFill (env.fillFrom (fresh.erase m.type) i es m.fields)) := by
  rw [instantiate, if_neg (by simp [supplied]), dif_pos mem, concrete]
  rfl

theorem run_instantiate_of_filled (supplied : m.isConstructed = false) (mem : m.type ∈ fresh)
    (concrete : m.polymorphism = none) (new : env.newInstance m = .ok i)
    (filled : (env.fillFrom (fresh.erase m.type) i es m.fields).run r = ((.ok (), j), s)) :
    (env.instantiate fresh m es).run r = (.ok j, s) := by
  rw [instantiate_concrete supplied mem concrete, new]
  exact (Effect.run_bind_of_ok (Effect.run_pure i r)).trans (run_ofFill_eq_ok.2 filled)

theorem instantiate_polymorphic {p : Polymorphism} (mem : m.type ∈ fresh)
    (polymorphic : m.polymorphism = some p) :
    env.instantiate fresh m es = (do
      let b ← resolveVariant m p es
      let variant ← Registry.ask (·.known b.entity)
      let i ← env.instantiate (fresh.erase m.type) variant es
      Loading.ofExcept (env.lift b i)) := by
  have supplied : ¬ m.isConstructed = true := by
    simp [Metadata.isConstructed, Metadata.isPolymorphic, polymorphic]
  rw [instantiate, if_neg supplied, dif_pos mem, polymorphic]

/-- Elements name a variant with their discriminator, which it has among the variants of the
type. -/
theorem variantIn_eq_ok_iff {group : Keyed VariantBinding} {p : Polymorphism}
    {b : VariantBinding} : variantIn group m p es = .ok b ↔
      ∃ d, es.find? p.column = some d ∧ group.find? (discriminatorText d) = some b := by
  unfold variantIn
  cases column : es.find? p.column with
  | none => cases group <;> simp
  | some d =>
    cases group with
    | nil => simp [Keyed.find?_nil]
    | cons e rest =>
      cases found : Keyed.find? (discriminatorText d) (e :: rest) with
      | none => simp [found]
      | some c => simp [found]

/-! ### Every reading -/

/-- A property of steps, with one of fillings, that what a reading consists of has and hands on. -/
structure HandedOn (env : Environment) (S : ∀ {α : Type}, Loading α → Prop)
    (F : StateM Registry (Except MapperError Unit × Instance) → Prop) : Prop where
  pure {α : Type} (a : α) : S (Pure.pure a)
  throw {α : Type} (e : MapperError) : S (throw e : Loading α)
  bind {α β : Type} {x : Loading α} {f : α → Loading β} :
    S x → (∀ a, S (f a)) → S (x >>= f)
  load (t : TypeRef) : S (env.load t)
  known (t : TypeRef) : S (Registry.ask (·.known t))
  resolve (m : Metadata) (p : Polymorphism) (es : Elements) : S (resolveVariant m p es)
  fill {x : StateM Registry (Except MapperError Unit × Instance)} : F x → S (ofFill x)
  nil (fresh : List TypeRef) (i : Instance) (es : Elements) : F (env.fillFrom fresh i es [])
  cons {fresh : List TypeRef} {i : Instance} {es : Elements} {f : MappedField}
    {fs : List MappedField} : S (env.contentFrom fresh f es) → F (env.fillFrom fresh i es fs) →
    (∀ j, F (env.fillFrom fresh j es fs)) → F (env.fillFrom fresh i es (f :: fs))

variable {S : ∀ {α : Type}, Loading α → Prop}
  {F : StateM Registry (Except MapperError Unit × Instance) → Prop}

theorem HandedOn.passedOn (h : HandedOn env S F) : PassedOn env S :=
  ⟨h.pure, h.throw, h.bind, h.load, h.known⟩

/-- What is handed on holds of every reading. -/
theorem HandedOn.instantiate (h : HandedOn env S F) :
    (∀ fresh m es, S (env.instantiate fresh m es)) ∧
    (∀ fresh i es fs, F (env.fillFrom fresh i es fs)) ∧
    (∀ fresh f es, S (env.contentFrom fresh f es)) ∧
    (∀ f m vs, S (env.instantiateAll f m vs)) := by
  refine Environment.instantiate.mutual_induct env _ _ _ _ ?constructed ?polymorphic ?concrete
    ?endless ?noFields ?field ?embedded ?entity ?entityAbsent ?entityNull ?entityOther ?embeddables
    ?embeddablesAbsent ?embeddablesNull ?embeddablesOther ?plain ?plainAbsent ?converted
    ?convertedAbsent ?noRecords ?record ?noRecord
  case constructed =>
    intro fresh m es constructed
    rw [Environment.instantiate, if_pos constructed]
    exact h.passedOn.ofExcept _
  case polymorphic =>
    intro fresh m es supplied mem p polymorphic variant
    rw [Environment.instantiate, if_neg supplied, dif_pos mem, polymorphic]
    exact h.bind (h.resolve m p es) fun b => h.bind (h.known _) fun v =>
      h.bind (variant v) fun i => h.passedOn.ofExcept _
  case concrete =>
    intro fresh m es supplied mem concrete fields
    rw [Environment.instantiate, if_neg supplied, dif_pos mem, concrete]
    exact h.bind (h.passedOn.ofExcept _) fun i => h.fill (fields i)
  case endless =>
    intro fresh m es supplied absent
    rw [Environment.instantiate, if_neg supplied, dif_neg absent]
    exact h.throw _
  case noFields =>
    intro fresh i es
    exact h.nil fresh i es
  case field =>
    intro fresh i es f fs own rest filled
    exact h.cons own rest filled
  case embedded =>
    intro fresh f es t type object
    rw [contentFrom_embedded type]
    exact h.bind (h.load t) fun m => h.bind (object m) fun o => h.pure _
  case entity =>
    intro fresh f es t type nested found object
    rw [contentFrom_entity type, found]
    exact h.bind (h.load t) fun m => h.bind (object m) fun o => h.pure _
  case entityAbsent =>
    intro fresh f es t type found
    rw [contentFrom_entity type, found]
    exact h.pure _
  case entityNull =>
    intro fresh f es t type found
    rw [contentFrom_entity type, found]
    exact h.pure _
  case entityOther =>
    intro fresh f es t type v noRecord notNull found
    rw [contentFrom_entity_of_other type found noRecord notNull]
    exact h.throw _
  case embeddables =>
    intro fresh f es t type items found objects
    rw [contentFrom_embeddables type, found]
    exact h.bind (h.load t) fun m => h.bind (objects m) fun os => h.pure _
  case embeddablesAbsent =>
    intro fresh f es t type found
    rw [contentFrom_embeddables type, found]
    exact h.pure _
  case embeddablesNull =>
    intro fresh f es t type found
    rw [contentFrom_embeddables type, found]
    exact h.pure _
  case embeddablesOther =>
    intro fresh f es t type v noList notNull found
    rw [contentFrom_embeddables_of_other type found noList notNull]
    exact h.throw _
  case plain =>
    intro fresh f es T initial type v found
    rw [contentFrom_leaf (by rw [type]; rfl), found]
    exact h.passedOn.ofExcept _
  case plainAbsent =>
    intro fresh f es T initial type found
    rw [contentFrom_leaf (by rw [type]; rfl), found]
    exact h.pure _
  case converted =>
    intro fresh f es r initial type v found
    rw [contentFrom_leaf (by rw [type]; rfl), found]
    exact h.passedOn.ofExcept _
  case convertedAbsent =>
    intro fresh f es r initial type found
    rw [contentFrom_leaf (by rw [type]; rfl), found]
    exact h.pure _
  case noRecords =>
    intro f m
    rw [instantiateAll]
    exact h.pure []
  case record =>
    intro f m nested rest object objects
    rw [instantiateAll]
    exact h.bind object fun o => h.bind objects fun os => h.pure _
  case noRecord =>
    intro f m v rest noRecord
    rw [instantiateAll.eq_3 _ _ _ _ _ noRecord]
    exact h.throw _

end EntityMapping.Environment
