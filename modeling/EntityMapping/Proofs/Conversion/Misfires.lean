import EntityMapping.Proofs.Conversion.Discriminator
import EntityMapping.Proofs.Conversion.Records
import EntityMapping.Proofs.Conversion.Settled
import EntityMapping.Proofs.Instance.Shaped

/-!
How attributes are read and written, converted and filled, is declared in one place and looked up
in others, which all know errors for what does not go together. Here none of these errors comes up:
what is read from an attribute fits its kind, what is written to it fits as well, and an instance
that is read is of the type that was asked for. What can go wrong is in the declarations, the
values, the converters and the listeners.
-/

namespace EntityMapping

open AttributeType Effect Environment Instance Registry Schema

/-- Whether an error says that an instance, an attribute or a value is not what its declaration
makes of it. -/
def MapperError.isMisfire : MapperError → Bool
  | .unreadableShape .. | .noConverter .. | .unwritable .. | .wrongInstance ..
  | .wrongValueType .. => true
  | _ => false

/-- An error that says something else. -/
def MapperError.Proper (e : MapperError) : Prop := e.isMisfire = false

theorem MapperError.proper_of_kind {e : MapperError} (h : e.kind ≠ .mapping) : e.Proper := by
  unfold Proper isMisfire
  split
  case h_6 => rfl
  all_goals exact absurd rfl h

/-- A family of types that have instances without arguments, or are polymorphic, and converters that
write and read the attributes that are declared with them, with errors of their own. -/
structure Wired (env : Environment) (family : List TypeRef) : Prop
    extends Supplied env family where
  inherited : ∀ t ∈ family, ∀ v, env.catalog.Inherits v t → v ∈ family
  converters : ∀ t ∈ family, ∀ f ∈ declared env.catalog env.config t, ∀ (r : ConverterRef)
    (initial : Value) (k : Converter), f.type = .converted r initial →
    env.converters.get r = .ok k → k.ref.attributeType = r.attributeType ∧
      (∀ v, Faults MapperError.Proper (k.write v)) ∧ ∀ v, Faults MapperError.Proper (k.read v)

variable {env : Environment} {family : List TypeRef}

theorem faults_of_mismatches {α : Type} {x : Except MapperError α} (h : Mismatches x) :
    Faults MapperError.Proper x :=
  h.imp fun e kind => MapperError.proper_of_kind (by rw [kind]; nofun)

theorem meets_ofExcept {α : Type} {I : Registry → Prop} {x : Except MapperError α}
    {Q : MapperError → Prop} (h : Faults Q x) : Meets I (Loading.ofExcept x) (x = .ok ·) Q := by
  cases x with
  | error e => exact .throw (h.error_of e rfl)
  | ok a => exact .pure rfl

/-! ### Look-ups -/

theorem meets_load (t : TypeRef) : Meets (Consistent env) (env.load t)
    (fun m => Schema.build env.catalog env.config t = .ok m) MapperError.Proper := by
  refine ⟨yields_load t, fun r e s _ run => ?_⟩
  rcases (kind_of_loadFrom_eq_error env).1 _ _ run with kind | ⟨name, rfl⟩
  · exact MapperError.proper_of_kind (by rw [kind]; nofun)
  · rfl

theorem meets_ask {α : Type} {I : Registry → Prop} {f : Registry → Except MapperError α}
    (h : ∀ r, Faults MapperError.Proper (f r)) :
    Meets I (ask f) (fun a => ∃ r, I r ∧ f r = .ok a) MapperError.Proper := by
  refine ⟨yields_ask f, fun r e s _ run => ?_⟩
  rw [run_ask] at run
  exact (h r).error_of e (Prod.mk.inj run).1

theorem faults_known (r : Registry) (t : TypeRef) : Faults MapperError.Proper (r.known t) := by
  unfold known
  split
  · exact .ok _
  · exact .error rfl

theorem faults_get (cs : Converters) (r : ConverterRef) : Faults MapperError.Proper (cs.get r) := by
  unfold Converters.get
  split
  · exact .ok _
  · exact .error rfl

/-! ### Writing -/

variable {i j : Instance} {t u : TypeRef} {f : MappedField} {c : Content} {m n : Metadata}

theorem Shaped.writtenAs {v : TypeRef} (h : Shaped env.catalog family i)
    (written : WrittenAs env i.type i v j) : v = j.type ∧ Shaped env.catalog family j := by
  rw [WrittenAs] at written
  split at written
  · obtain ⟨held, rfl⟩ := written
    exact ⟨rfl, h.held held⟩
  · obtain ⟨rfl, rfl⟩ := written
    exact ⟨rfl, h⟩

theorem faults_concrete (build : Schema.build env.catalog env.config i.type = .ok m) :
    Faults MapperError.Proper (concrete m i) := by
  unfold concrete
  rw [if_pos (built_of_build build).type.symm]
  split
  · split
    · exact .ok _
    · exact .error rfl
  · exact .ok _

theorem Shaped.meets_concreteMetadata (h : Shaped env.catalog family i)
    (build : Schema.build env.catalog env.config i.type = .ok m) (single : concrete m i = .ok j) :
    Meets (Consistent env) (concreteMetadata m j) (fun n =>
      Schema.build env.catalog env.config j.type = .ok n ∧ Shaped env.catalog family j)
      MapperError.Proper := by
  have yields := yields_concreteMetadata (I := Consistent env) (fun _ h => h) build single
  refine ⟨yields.imp ?_, fun r e s _ run => ?_⟩
  · rintro n ⟨v, written, build⟩
    obtain ⟨rfl, shaped⟩ := h.writtenAs written
    exact ⟨build, shaped⟩
  · unfold concreteMetadata at run
    split at run
    · rw [run_ask] at run
      exact (faults_known r _).error_of e (Prod.mk.inj run).1
    · cases run

/-- Content that is not written by way of objects is that of an attribute without any. -/
theorem Content.Fits.leaf (fits : c.Fits f.type)
    (embedded : ∀ o, f.kind = .embedded → c = .object o → False)
    (entity : ∀ o, f.kind = .entity → c = .object o → False)
    (collection : ∀ os, f.kind = .collection → c = .objects os → False) :
    f.type.element? = none := by
  generalize type : f.type = T at fits
  cases fits with
  | native | «attribute» => rfl
  | embedded => exact absurd rfl (embedded _ (kind_eq_embedded.2 ⟨_, type⟩))
  | entity => exact absurd rfl (entity _ (kind_eq_entity.2 ⟨_, type⟩))
  | embeddables =>
    exact absurd rfl (collection _ (by rw [MappedField.kind, type, FieldType.kind]))

/-- What has no objects in it is written as it is, or by a converter of its type. -/
theorem Wired.faults_leafElements (wired : Wired env family) (ht : t ∈ family)
    (mem : f ∈ declared env.catalog env.config t) (fits : c.Fits f.type)
    (leaf : f.type.element? = none) : Faults MapperError.Proper (env.leafElements f c) := by
  generalize type : f.type = T at fits
  cases fits with
  | native v =>
    rw [leafElements_plain type]
    exact .ok _
  | @«attribute» r initial a same =>
    rw [leafElements_attribute a type]
    cases got : env.converters.get r with
    | error e => exact .error ((faults_get ..).error_of e got)
    | ok k =>
      obtain ⟨-, writes, -⟩ := wired.converters t ht f mem r initial k type got
      show Faults _ (k.toNative a >>= fun v => .ok [(f.key, v)])
      refine .bind ?_ fun v => .ok _
      unfold Converter.toNative
      split
      · exact writes a.content
      · exact .error rfl
  | embedded | entity | embeddables =>
    rw [type] at leaf
    cases leaf

/-- An attribute of an instance can be read, and then its content is written. -/
theorem Shaped.meets_ownElements {I : Registry → Prop} (shaped : Shaped env.catalog family i)
    (mem : f ∈ declared env.catalog env.config i.type)
    (content : ∀ c, i.read f = .ok c → c.Fits f.type →
      (∀ o ∈ c.nested, Shaped env.catalog family o) →
      Meets I (env.contentElements f c) (fun _ => True) MapperError.Proper) :
    Meets I (env.ownElements i f) (fun _ => True) MapperError.Proper := by
  unfold ownElements
  split
  · rename_i e failed
    exact .throw ((faults_of_mismatches (shaped.mismatches_read mem)).error_of e failed)
  · rename_i c read
    obtain ⟨fits, inner⟩ := shaped.fits mem read
    split
    · exact .pure trivial
    · exact (content c read fits inner).bind fun _ _ => .pure trivial

/-- An instance of a type is written without a misfire. -/
theorem Wired.meets_elements (wired : Wired env family) :
    (∀ i t, Shaped env.catalog family i → i.type = t →
      Meets (Consistent env) (env.elements i t) (fun _ => True) MapperError.Proper) ∧
    (∀ i m, Shaped env.catalog family i →
      Schema.build env.catalog env.config i.type = .ok m →
      Meets (Consistent env) (env.elementsWith i m) (fun _ => True) MapperError.Proper) ∧
    (∀ i fs, Shaped env.catalog family i → fs ⊆ declared env.catalog env.config i.type →
      Meets (Consistent env) (env.fieldElements i fs) (fun _ => True) MapperError.Proper) ∧
    (∀ f c, ∀ t ∈ family, f ∈ declared env.catalog env.config t → c.Fits f.type →
      (∀ o ∈ c.nested, Shaped env.catalog family o) →
      Meets (Consistent env) (env.contentElements f c) (fun _ => True) MapperError.Proper) ∧
    (∀ t os, (∀ o ∈ os, o.type = t ∧ Shaped env.catalog family o) →
      Meets (Consistent env) (env.objectRecords t os) (fun _ => True) MapperError.Proper) := by
  refine elements.mutual_induct _ _ _ _ _ ?elements ?refused ?written ?noFields ?field ?embedded
    ?entity ?embeddables ?value ?noRecords ?record
  case elements =>
    rintro i _ written shaped rfl
    rw [elements]
    exact (meets_load i.type).bind fun m build =>
      (written m shaped build).bind fun _ _ => .pure trivial
  case refused =>
    intro i m e failed shaped build
    rw [elementsWith_of_error failed]
    exact .throw ((faults_concrete build).error_of e failed)
  case written =>
    intro i m j single fields shaped build
    rw [elementsWith_of_ok single]
    refine (shaped.meets_concreteMetadata build single).bind fun n known => ?_
    obtain ⟨build', shaped'⟩ := known
    have mapped := (built_of_build build').fields
    exact (fields n shaped' (mapped ▸ List.Subset.refl _)).bind fun _ _ => .pure trivial
  case noFields =>
    intro i _ _
    rw [fieldElements]
    exact .pure trivial
  case field =>
    intro i f fs own rest shaped sub
    rw [fieldElements_cons]
    have mem := sub (List.mem_cons_self ..)
    have first := shaped.meets_ownElements mem fun c read => own c read i.type shaped.mem mem
    exact first.bind fun _ _ =>
      (rest shaped fun g hg => sub (List.mem_cons_of_mem _ hg)).bind fun _ _ => .pure trivial
  case embedded =>
    intro f o kind written t ht mem fits inner
    obtain ⟨u, embeds⟩ := kind_eq_embedded.1 kind
    rw [contentElements_embedded embeds]
    rw [embeds] at fits
    cases fits with
    | embedded type => exact written u (inner o (List.mem_singleton_self o)) type
  case entity =>
    intro f o kind written t ht mem fits inner
    obtain ⟨u, nests⟩ := kind_eq_entity.1 kind
    rw [contentElements_entity nests]
    rw [nests] at fits
    cases fits with
    | entity type =>
      exact (written u (inner o (List.mem_singleton_self o)) type).bind fun _ _ => .pure trivial
  case embeddables =>
    intro f os kind written t ht mem fits inner
    generalize lists : f.type = T at fits
    cases fits with
    | embeddables types =>
      rw [contentElements_embeddables lists]
      exact (written _ fun o ho => ⟨types o ho, inner o ho⟩).bind fun _ _ => .pure trivial
  case value =>
    intro f c embedded entity collection t ht mem fits inner
    rw [contentElements.eq_4 _ _ _ embedded entity collection]
    have leaf := fits.leaf embedded entity collection
    exact (meets_ofExcept (wired.faults_leafElements ht mem fits leaf)).imp fun _ _ => trivial
  case noRecords =>
    intro t _
    rw [objectRecords]
    exact .pure trivial
  case record =>
    intro t o os first rest all
    rw [objectRecords]
    obtain ⟨one, others⟩ := List.forall_mem_cons.1 all
    exact (first one.2 one.1).bind fun _ _ => (rest others).bind fun _ _ => .pure trivial

/-! ### Reading -/

theorem meets_nothing {I : Registry → Prop} {T : FieldType} :
    Meets I (pure none : Loading (Option Content)) (fun c => ∀ d, c = some d → d.Fits T)
      MapperError.Proper :=
  .pure nofun

/-- What a value is converted to fits the attribute that it is for. -/
theorem Wired.meets_contentOf {I : Registry → Prop} (wired : Wired env family) (ht : t ∈ family)
    (mem : f ∈ declared env.catalog env.config t) (leaf : f.type.element? = none) (v : Value) :
    Meets I (Loading.ofExcept (env.contentOf f v)) (fun c => ∀ d, c = some d → d.Fits f.type)
      MapperError.Proper := by
  unfold contentOf MappedField.converter?
  cases type : f.type with
  | embedded | entity | embeddables =>
    rw [type] at leaf
    cases leaf
  | plain T initial =>
    refine .pure fun d hd => ?_
    cases hd
    exact .native v
  | converted r initial =>
    dsimp only [FieldType.converter?]
    split
    · exact meets_nothing
    · cases got : env.converters.get r with
      | error e => exact .throw ((faults_get ..).error_of e got)
      | ok k =>
        obtain ⟨same, -, reads⟩ := wired.converters t ht f mem r initial k type got
        refine (meets_ofExcept (Faults.map (Faults.map (reads v)))).imp fun c hc d hd => ?_
        obtain ⟨a, converted, rfl⟩ := map_eq_ok hc
        cases hd
        exact .attribute ((Converter.typeName_toAttribute converted).trans same)

theorem Wired.isConstructed (wired : Wired env family) (ht : t ∈ family)
    (build : Schema.build env.catalog env.config t = .ok m) : m.isConstructed = false := by
  have built := built_of_build build
  cases polymorphic : (env.catalog.describe t).isPolymorphic with
  | true =>
    rw [Metadata.isConstructed, built.isPolymorphic, polymorphic, Bool.not_true, Bool.false_and]
  | false => exact built.isConstructed_eq_false (wired.supplied t ht polymorphic)

theorem meets_newInstance {I : Registry → Prop} (m : Metadata) :
    Meets I (Loading.ofExcept (env.newInstance m)) (·.type = m.type) MapperError.Proper := by
  unfold newInstance
  split
  · exact .pure (env.catalog.type_blank m.type)
  · exact .throw rfl

theorem meets_lift {I : Registry → Prop} {b : VariantBinding} (same : i.type = b.entity) :
    Meets I (Loading.ofExcept (env.lift b i)) (·.type = b.parent) MapperError.Proper := by
  rw [lift, if_pos same]
  exact .pure (env.catalog.type_blank b.parent)

theorem meets_write {I : Registry → Prop} (fits : c.Fits f.type) (own : i.type = f.owner) :
    Meets I (Loading.ofExcept (i.write f c)) (·.type = i.type) MapperError.Proper :=
  (meets_ofExcept (faults_of_mismatches (fits.mismatches_write own))).imp fun _ => type_write

/-- The variant that elements name inherits from the type that they are read as. -/
theorem meets_resolveVariant (m : Metadata) (p : Polymorphism) (es : Elements) :
    Meets (Consistent env) (resolveVariant m p es)
      (fun b => b.parent = m.type ∧ env.catalog.Inherits b.entity m.type) MapperError.Proper := by
  refine (meets_ask fun r => ?_).imp ?_
  · unfold variantIn
    split
    · exact .error rfl
    · split
      · exact .error rfl
      · split
        · exact .error rfl
        · exact .ok _
  · rintro b ⟨r, consistent, named⟩
    obtain ⟨d, -, found⟩ := variantIn_eq_ok_iff.1 named
    exact ⟨(consistent.group_inv found).1, consistent.inherits_of_group found⟩

/-- A polymorphic type is read as its variant is, which is of the family with it. -/
theorem Wired.meets_polymorphic {fresh : List TypeRef} {p : Polymorphism} {es : Elements}
    (wired : Wired env family) (mem : m.type ∈ fresh) (polymorphic : m.polymorphism = some p)
    (variant : ∀ n, n.type ∈ family → Schema.build env.catalog env.config n.type = .ok n →
      Meets (Consistent env) (env.instantiate (fresh.erase m.type) n es) (·.type = n.type)
        MapperError.Proper)
    (ht : m.type ∈ family) :
    Meets (Consistent env) (env.instantiate fresh m es) (·.type = m.type) MapperError.Proper := by
  rw [instantiate_polymorphic mem polymorphic]
  refine (meets_resolveVariant m p es).bind fun b resolved => ?_
  obtain ⟨parent, inherits⟩ := resolved
  refine (meets_ask fun r => faults_known r b.entity).bind fun n known => ?_
  obtain ⟨r, consistent, known⟩ := known
  have build := consistent.build_find? (known_eq_ok.1 known)
  have type := (built_of_build build).type
  have hn : n.type ∈ family := type ▸ wired.inherited m.type ht b.entity inherits
  refine (variant n hn (type ▸ build)).bind fun i same => ?_
  exact (meets_lift (same.trans type)).imp fun j raised => raised.trans parent

/-- A type with attributes is read by filling a new instance. -/
theorem Wired.meets_concrete {fresh : List TypeRef} {es : Elements} (wired : Wired env family)
    (mem : m.type ∈ fresh) (concrete : m.polymorphism = none)
    (fields : ∀ i : Instance, i.type ∈ family → m.fields ⊆ declared env.catalog env.config i.type →
      Meets (Consistent env) (ofFill (env.fillFrom (fresh.erase m.type) i es m.fields))
        (·.type = i.type) MapperError.Proper)
    (ht : m.type ∈ family) (build : Schema.build env.catalog env.config m.type = .ok m) :
    Meets (Consistent env) (env.instantiate fresh m es) (·.type = m.type) MapperError.Proper := by
  rw [instantiate_concrete (wired.isConstructed ht build) mem concrete]
  refine (meets_newInstance m).bind fun i type => ?_
  have mapped : m.fields ⊆ declared env.catalog env.config i.type := by
    rw [type, (built_of_build build).fields]
    exact List.Subset.refl _
  exact (fields i (type ▸ ht) mapped).imp fun j same => same.trans type

/-- Attributes are filled one after the other. What is read from one fits it and is written to the
instance, which stays of its type. -/
theorem meets_fillFrom_cons {fresh : List TypeRef} {es : Elements} {fs : List MappedField}
    (own : Meets (Consistent env) (env.contentFrom fresh f es)
      (fun c => ∀ d, c = some d → d.Fits f.type) MapperError.Proper)
    (rest : ∀ j : Instance, j.type = i.type →
      Meets (Consistent env) (ofFill (env.fillFrom fresh j es fs)) (·.type = j.type)
        MapperError.Proper)
    (owner : i.type = f.owner) :
    Meets (Consistent env) (ofFill (env.fillFrom fresh i es (f :: fs))) (·.type = i.type)
      MapperError.Proper := by
  rw [ofFill_cons]
  refine own.bind fun c fits => ?_
  cases c with
  | none => exact rest i rfl
  | some c =>
    exact (meets_write (fits c rfl) owner).bind fun j type =>
      (rest j type).imp fun k same => same.trans type

/-- What is read from the parts of an attribute with objects fits it: they are read with the
metadata of the type that it declares, which is of the family. -/
theorem Wired.meets_objects {α : Type} {x : Metadata → Loading α} {P : Metadata → α → Prop}
    {make : α → Content} (wired : Wired env family) (ht : t ∈ family)
    (mem : f ∈ declared env.catalog env.config t) (element : f.type.element? = some u)
    (read : ∀ m, m.type ∈ family → Schema.build env.catalog env.config m.type = .ok m →
      Meets (Consistent env) (x m) (P m) MapperError.Proper)
    (fits : ∀ m a, m.type = u → P m a → (make a).Fits f.type) :
    Meets (Consistent env) (do
        let m ← env.load u
        let a ← x m
        pure (some (make a)))
      (fun c => ∀ d, c = some d → d.Fits f.type) MapperError.Proper := by
  have hu := wired.closed t ht f mem u element
  refine (meets_load u).bind fun m build => ?_
  have type := (built_of_build build).type
  refine (read m (type ▸ hu) (type ▸ build)).bind fun a ha => .pure fun d hd => ?_
  cases hd
  exact fits m a type ha

/-- An instance is read without a misfire, and is of the type that it is read as. -/
theorem Wired.meets_instantiate (wired : Wired env family) :
    (∀ fresh m es, m.type ∈ family → Schema.build env.catalog env.config m.type = .ok m →
      Meets (Consistent env) (env.instantiate fresh m es) (·.type = m.type) MapperError.Proper) ∧
    (∀ fresh i es fs, i.type ∈ family → fs ⊆ declared env.catalog env.config i.type →
      Meets (Consistent env) (ofFill (env.fillFrom fresh i es fs)) (·.type = i.type)
        MapperError.Proper) ∧
    (∀ fresh f es, ∀ t ∈ family, f ∈ declared env.catalog env.config t →
      Meets (Consistent env) (env.contentFrom fresh f es)
        (fun c => ∀ d, c = some d → d.Fits f.type) MapperError.Proper) ∧
    (∀ f m vs, m.type ∈ family → Schema.build env.catalog env.config m.type = .ok m →
      Meets (Consistent env) (env.instantiateAll f m vs) (fun os => ∀ o ∈ os, o.type = m.type)
        MapperError.Proper) := by
  refine Environment.instantiate.mutual_induct env _ _ _ _ ?constructed ?polymorphic ?concrete
    ?endless ?noFields ?field ?embedded ?entity ?entityAbsent ?entityNull ?entityOther ?embeddables
    ?embeddablesAbsent ?embeddablesNull ?embeddablesOther ?plain ?plainAbsent ?converted
    ?convertedAbsent ?noRecords ?record ?noRecord
  case constructed =>
    intro fresh m es constructed ht build
    rw [wired.isConstructed ht build] at constructed
    cases constructed
  case polymorphic =>
    intro fresh m es _ mem p polymorphic variant ht _
    exact wired.meets_polymorphic mem polymorphic variant ht
  case concrete =>
    intro fresh m es _ mem concrete fields ht build
    exact wired.meets_concrete mem concrete fields ht build
  case endless =>
    intro fresh m es supplied absent _ _
    rw [instantiate, if_neg supplied, dif_neg absent]
    exact .throw rfl
  case noFields =>
    intro fresh i es _ _
    rw [ofFill_nil]
    exact .pure rfl
  case field =>
    intro fresh i es f fs own rest filled ht sub
    have mem := sub (List.mem_cons_self ..)
    refine meets_fillFrom_cons (own i.type ht mem) (fun j type => ?_)
      (owner_of_mem_declared mem).symm
    exact filled j (type ▸ ht) (type ▸ fun g hg => sub (List.mem_cons_of_mem f hg))
  case embedded =>
    intro fresh f es u embeds object t ht mem
    rw [contentFrom_embedded embeds]
    exact wired.meets_objects ht mem (by rw [embeds]; rfl) object fun m o type same =>
      embeds ▸ .embedded (same.trans type)
  case entity =>
    intro fresh f es u nests nested found object t ht mem
    rw [contentFrom_entity nests, found]
    exact wired.meets_objects ht mem (by rw [nests]; rfl) object fun m o type same =>
      nests ▸ .entity (same.trans type)
  case entityAbsent | entityNull =>
    intro fresh f es u nests found _ _ _
    rw [contentFrom_entity nests, found]
    exact meets_nothing
  case entityOther =>
    intro fresh f es u nests v noRecord notNull found _ _ _
    rw [contentFrom_entity_of_other nests found noRecord notNull]
    exact .throw rfl
  case embeddables =>
    intro fresh f es u lists items found objects t ht mem
    rw [contentFrom_embeddables lists, found]
    exact wired.meets_objects ht mem (by rw [lists]; rfl) objects fun m os type same =>
      lists ▸ .embeddables fun o ho => (same o ho).trans type
  case embeddablesAbsent | embeddablesNull =>
    intro fresh f es u lists found _ _ _
    rw [contentFrom_embeddables lists, found]
    exact meets_nothing
  case embeddablesOther =>
    intro fresh f es u lists v noList notNull found _ _ _
    rw [contentFrom_embeddables_of_other lists found noList notNull]
    exact .throw rfl
  case plain | converted =>
    intro fresh f es _ _ type v found t ht mem
    have leaf : f.type.element? = none := by rw [type]; rfl
    rw [contentFrom_leaf leaf, found]
    exact wired.meets_contentOf ht mem leaf v
  case plainAbsent | convertedAbsent =>
    intro fresh f es _ _ type found _ _ _
    rw [contentFrom_leaf (by rw [type]; rfl), found]
    exact meets_nothing
  case noRecords =>
    intro f m _ _
    rw [instantiateAll]
    exact .pure fun _ mem => absurd mem List.not_mem_nil
  case record =>
    intro f m nested rest object objects ht build
    rw [instantiateAll]
    refine (object ht build).bind fun o type => (objects ht build).bind fun os types => .pure ?_
    exact List.forall_mem_cons.2 ⟨type, types⟩
  case noRecord =>
    intro f m v rest noRecord _ _
    rw [instantiateAll.eq_3 _ _ _ _ _ noRecord]
    exact .throw rfl

/-! ### Records -/

namespace Mapping

variable {α : Type} {P : α → Prop}

theorem meets_ofLoading {x : Environment → Loading α} {Q : MapperError → Prop}
    (h : Meets (Consistent env) (x env) P Q) (loads : OnlyLoads env (x env).run) :
    Meets (Used env) (ofLoading x) P Q := by
  refine ⟨fun c a c' used run => ?_, fun c e c' used run => ?_⟩
  · have kept : Used env ((ofLoading x).run c).2 := lasting_used.loading loads c used
    rw [run] at kept
    obtain ⟨rfl, reached⟩ := used
    obtain ⟨r, run, -⟩ := run_ofLoading_eq_ok.1 run
    exact ⟨(h.yields _ a r reached.consistent run).1, kept⟩
  · obtain ⟨rfl, reached⟩ := used
    rw [run_ofLoading] at run
    exact h.fails _ e _ reached.consistent (Prod.ext (Prod.mk.inj run).1 rfl)

/-- Listeners may refuse, but with errors of their own. -/
theorem meets_fire (p : Phase) (payload : Payload) :
    Meets (Used env) (fire p payload) (fun _ => True) MapperError.Proper := by
  refine ⟨fun c a c' used run => ?_, fun c e c' _ run => ?_⟩
  · have kept : Used env ((fire p payload).run c).2 := lasting_used.fire p payload c used
    rw [run] at kept
    exact ⟨trivial, kept⟩
  · rw [run_fire] at run
    have kind := (c.events.faults_notify p payload).error_of e (Prod.mk.inj run).1
    exact MapperError.proper_of_kind (by rw [kind]; nofun)

theorem meets_toRecord (wired : Wired env family) (shaped : Shaped env.catalog family i) :
    Meets (Used env) (toRecord i.type i) (fun _ => True) MapperError.Proper := by
  have written : Meets (Used env) (recordWith i.type i) (fun _ => True) MapperError.Proper :=
    (meets_fire _ _).bind fun _ _ =>
      (meets_ofLoading (meets_load i.type) (.load _)).bind fun m build =>
        (meets_ofLoading (wired.meets_elements.2.1 i m shaped build)
          (onlyLoads_elements.2.1 i m)).bind fun _ _ => .pure trivial
  exact written.bind fun _ _ => .pure trivial

theorem meets_toEntity (wired : Wired env family) (ht : t ∈ family) (r : Record) :
    Meets (Used env) (toEntity t r) (·.type = t) MapperError.Proper := by
  refine (meets_ofLoading (meets_load t) (.load t)).bind fun m build => ?_
  have type := (built_of_build build).type
  have read := wired.meets_instantiate.1 env.catalog.types m r.elements (type ▸ ht) (type ▸ build)
  refine (meets_ofLoading read (onlyLoads_instantiate _ m r.elements)).bind fun i same => ?_
  exact (meets_fire _ _).bind fun _ _ => .pure (same.trans type)

end Mapping

/-- The plumbing never misfires. Neither an instance that is as its types declare it nor a record,
whatever is in it, brings up an error about the kind of an attribute or the type of an instance;
and an instance that is read is of the type that was asked for. -/
theorem plumbing_never_misfires (wired : Wired env family) (ht : t ∈ family) {c : Context}
    (used : Mapping.Used env c) :
    (∀ i, Shaped env.catalog family i → i.type = t → ∀ e,
      ((Mapping.toRecord t i).run c).1 = .error e → e.isMisfire = false) ∧
    ∀ r, (∀ e, ((Mapping.toEntity t r).run c).1 = .error e → e.isMisfire = false) ∧
      ∀ i, ((Mapping.toEntity t r).run c).1 = .ok i → i.type = t := by
  refine ⟨?_, fun r => ⟨fun e failed => ?_, fun i read => ?_⟩⟩
  · rintro i shaped rfl e failed
    exact (Mapping.meets_toRecord wired shaped).fails c e _ used (Prod.ext failed rfl)
  · exact (Mapping.meets_toEntity wired ht r).fails c e _ used (Prod.ext failed rfl)
  · exact ((Mapping.meets_toEntity wired ht r).yields c i _ used (Prod.ext read rfl)).1

namespace Household

theorem wired : Wired environment types where
  supplied := faithful.supplied
  closed := faithful.closed
  inherited t ht v inherits := by
    obtain ⟨i, inherits, -⟩ := inherits
    have declared : v ∈ environment.catalog.types := by
      refine Classical.byContradiction fun absent => ?_
      rw [Catalog.describe_of_undeclared absent] at inherits
      cases inherits
    exact declared
  converters t ht f hf r initial k hr there := by
    rcases field_cases ht hf with h | h | h | h | h | h <;> rw [h] at hr <;> cases hr
    cases there
    exact ⟨rfl, fun v => .ok _, fun v => .ok _⟩

theorem accepted {t : TypeRef} (ht : t ∈ types) :
    ∃ m, Schema.build environment.catalog environment.config t = .ok m := by
  have all : (types.all fun t =>
      (Schema.build environment.catalog environment.config t).isOk) = true := by
    cbv
  have one := List.all_eq_true.1 all t ht
  cases build : Schema.build environment.catalog environment.config t with
  | ok m => exact ⟨m, rfl⟩
  | error e =>
    rw [build] at one
    cases one

theorem shaped_ada : Shaped environment.catalog types ada :=
  conforms_ada.shaped faithful.toLossless (fun _ => accepted) (by decide)

end Household

open Household in
/-- A pet that is a text is refused over the shape of the record. -/
theorem plumbing_never_misfires_ada :
    Wired environment types ∧ person ∈ types ∧ Mapping.Used environment ⟨environment, {}, {}⟩ ∧
      Shaped environment.catalog types ada ∧ ada.type = person ∧
      ∃ e, ((Mapping.toEntity person ⟨"Person", [("pet", .text "Rex")]⟩).run
        ⟨environment, {}, {}⟩).1 = .error e ∧ e.isMisfire = false := by
  have mem : person ∈ types := List.mem_cons_self ..
  have used : Mapping.Used environment ⟨environment, {}, {}⟩ := ⟨rfl, .empty⟩
  have refused : ((Mapping.toEntity person ⟨"Person", [("pet", .text "Rex")]⟩).run
      ⟨environment, {}, {}⟩).1 = .error (.wrongShape "pet" nestedRecord "pet" "TEXT") := by
    cbv
  refine ⟨wired, mem, used, shaped_ada, rfl, _, refused, ?_⟩
  exact ((plumbing_never_misfires wired mem used).2 _).1 _ refused

end EntityMapping
