import EntityMapping.Conversion.KeyValue
import EntityMapping.Conversion.Vertex
import EntityMapping.Proofs.Conversion.Order
import EntityMapping.Proofs.Template.ById
import EntityMapping.Proofs.Template.Collection

/-!
Vertices and pairs of an instance. Both carry what its record carries: a vertex has the id apart
from the other elements, a pair has it a second time. On the way back the id goes under the id key
of the type that the other elements are read as. That is the type that the id was taken from: it
has the discriminator still, which is under another key. So what is read is found where it is
found in the record, if in another order.
-/

namespace EntityMapping

open Effect Environment Registry

namespace Mapping

variable {env : Environment} {c c' d : Context} {t : TypeRef} {i : Instance} {m n : Metadata}
  {r : Record} {es : Elements}

/-! ### Records that are read alike -/

/-- Reading a record goes by what is found in it. -/
theorem toEntity_congr {r r' : Record} (h : r.elements.Agree r'.elements) (t : TypeRef) :
    toEntity t r = toEntity t r' := by
  have same : ∀ m, readRecord m r = readRecord m r' := fun m => by
    rw [readRecord, readRecord]
    simp only [h.read m]
  rw [toEntity, toEntity]
  simp only [same]

/-- Where nobody refuses, what is read does not depend on the listeners. -/
theorem run_toEntity_of_loaded (loaded : d.registry.find? t = some m)
    (willing : d.events.Willing) :
    ∃ d', (toEntity t r).run d = (((d.environment.read m r.elements).run d.registry).1, d') ∧
      d'.events.Willing := by
  rw [toEntity, run_bind_of_ok (run_load_of_found loaded), readRecord, run_bind, run_ofLoading]
  rcases (d.environment.read m r.elements).run d.registry with ⟨e | x, R⟩
  · exact ⟨_, rfl, willing⟩
  · obtain ⟨ev, fired, willing'⟩ :=
      run_fire_of_willing d.environment R willing .postEntity (.entity x)
    refine ⟨⟨d.environment, R, ev⟩, ?_, willing'⟩
    dsimp only
    rw [run_bind_of_ok fired]
    rfl

theorem find?_properties (r : Record) (idKey : Option String) (key : String) :
    Keyed.find? key (vertexOf idKey r).properties =
      if some key = idKey then none else r.find? key := by
  rw [vertexOf, Keyed.find?_filter fun k => some k != idKey, Record.find?]
  by_cases same : some key = idKey
  · simp [same]
  · simp [same]

/-- The id of the vertex is the one of the record, unless that is an explicit null. -/
theorem id_vertexOf {id : Option MappedField}
    (nonnull : ∀ f, id = some f → r.find? f.key ≠ some .null) :
    (vertexOf (id.map (·.key)) r).id = id.bind fun f => r.find? f.key := by
  cases id with
  | none => rfl
  | some f =>
    rw [vertexOf, Option.map_some, Option.bind_some, Option.bind_some]
    cases found : r.find? f.key with
    | none => rfl
    | some v =>
      have notNull : v.isNull = false := by
        cases v <;> first | rfl | exact absurd found (nonnull f rfl)
      simp [notNull]

/-- A record agrees with another one if the value that it lacks is added to it. -/
theorem agree_add {r' : Record} {key : String} {v : Value} (own : r.find? key = some v)
    (others : ∀ k, k ≠ key → r'.find? k = r.find? k) :
    (r'.add key v).elements.Agree r.elements := by
  intro k
  show Record.find? _ k = _
  rw [Record.find?_add]
  split
  · rename_i same
    rw [same]
    exact own.symm
  · rename_i other
    exact others k other

/-! ### What was recorded -/

/-- A record was written for an instance of a type, which was written as what some metadata are
about. If the type is polymorphic that is a variant which inherits from it. An id has another key
than the discriminator. -/
structure Recorded (env : Environment) (c : Context) (t : TypeRef) (i : Instance) (n : Metadata)
    (r : Record) (c' : Context) : Prop where
  used : Used env c
  written : ∃ j, WrittenAs env t i n.type j
  build : Schema.build env.catalog env.config n.type = .ok n
  inherits : (env.catalog.describe t).isPolymorphic = true → env.catalog.Inherits n.type t
  apart : ∀ f b, n.id? = some f → n.binding = some b → f.key ≠ b.column
  run : (toRecord t i).run c = (.ok r, c')

/-- A context in which a former one goes on being used. -/
structure Later (env : Environment) (c d : Context) : Prop where
  used : Used env d
  le : Le c.registry d.registry

namespace Recorded

/-- The instance was written by the metadata. -/
theorem run_recordWith (h : Recorded env c t i n r c') :
    (recordWith t i).run c = (.ok (r, n), c') := by
  obtain ⟨⟨r', n'⟩, c₁, run, last⟩ := run_bind_eq_ok.1 h.run
  cases last
  obtain ⟨rfl, reached⟩ := h.used
  obtain ⟨m, s, es, loaded, elements, -⟩ := run_recordWith_eq_ok run
  obtain ⟨build, consistent⟩ := yields_load t _ _ _ reached.consistent loaded
  obtain ⟨j, written⟩ := h.written
  have fields : Yields (Consistent c.environment) (c.environment.fieldElements j n.fields)
      fun _ => True := (yields_keys.2.2.1 j n.fields).imp fun _ _ => trivial
  obtain ⟨⟨same, -⟩, -⟩ :=
    yields_elementsWith build written h.build fields _ _ _ consistent elements
  obtain rfl : n' = n := same
  exact run

/-- Both the type and what its instance was written as are loaded by then. -/
theorem exists_find? (h : Recorded env c t i n r c') :
    Used env c' ∧ c'.registry.find? n.type = some n ∧ ∃ m, c'.registry.find? t = some m := by
  have used : Used env ((toRecord t i).run c).2 := keeps_toRecord t i c h.used
  rw [h.run] at used
  obtain ⟨j, written⟩ := h.written
  obtain ⟨v, k, n', es, written', loaded, -⟩ := exists_metadata_of_toRecord h.used h.run
  obtain ⟨rfl, -⟩ := written'.unique written
  obtain rfl : n' = n :=
    Except.ok.inj ((used.2.consistent.build_find? loaded).symm.trans h.build)
  obtain ⟨environment, reached⟩ := h.used
  obtain ⟨m, s, es, n', first, elements, -⟩ := run_toRecord_eq_ok h.run
  rw [environment] at first elements
  have le : Reachable env ((env.elementsWith i m).run s).2 ∧
      Le s ((env.elementsWith i m).run s).2 := by
    have before := reached.load t
    rw [first] at before
    exact (onlyLoads_elements.2.1 i m).grows s s ⟨before, .refl s⟩
  rw [elements] at le
  have found := (reached.consistent.grown_load first).2 m rfl
  exact ⟨used, loaded, m, used.2.consistent.find?_mono le.2 found⟩

theorem later_refl (h : Recorded env c t i n r c') : Later env c' c' :=
  ⟨h.exists_find?.1, .refl _⟩

theorem later (h : Recorded env c t i n r c') (later : Later env c' d) : Later env c d := by
  have kept : Used env ((toRecord t i).run c).2 ∧
      Le c.registry ((toRecord t i).run c).2.registry :=
    (lasting_above c.registry).toRecord t i c ⟨h.used, .refl _⟩
  rw [h.run] at kept
  exact ⟨later.used, kept.2.trans later.le⟩

theorem elements (h : Recorded env c t i n r c') :
    r.elements.keys.Nodup ∧ ∀ b, n.binding = some b → b.Marks r := by
  obtain ⟨j, written⟩ := h.written
  have fields : Yields (Consistent env) (env.fieldElements j n.fields) fun _ => True :=
    (yields_keys.2.2.1 j n.fields).imp fun _ _ => trivial
  obtain ⟨es, -, rfl⟩ := run_toRecord_of_yields h.used written h.build fields h.run
  exact ⟨Record.nodup_keys_ofElements _ _, fun b bound => n.marks_record bound es⟩

/-- Elements with the same discriminator are read by the metadata that the record follows. -/
theorem run_readingMetadata (h : Recorded env c t i n r c') (later : Later env c' d)
    (loaded : d.registry.find? t = some m)
    (same : ∀ b, n.binding = some b → Keyed.find? b.column es = r.find? b.column) :
    (readingMetadata m es).run d.registry = (.ok n, d.registry) := by
  have consistent := later.used.2.consistent
  have built := consistent.built_find? loaded
  have variant := consistent.find?_mono later.le h.exists_find?.2.1
  cases hp : m.polymorphism with
  | none =>
    have single : (env.catalog.describe t).isPolymorphic = false := by
      rw [← built.isPolymorphic, Metadata.isPolymorphic, hp]
      rfl
    obtain ⟨j, written⟩ := h.written
    rw [WrittenAs, single] at written
    rw [written.1] at variant
    obtain rfl : m = n := Option.some.inj (loaded.symm.trans variant)
    rw [readingMetadata, hp]
    rfl
  | some p =>
    have polymorphic : (env.catalog.describe t).isPolymorphic = true := by
      rw [← built.isPolymorphic, Metadata.isPolymorphic, hp]
      rfl
    obtain ⟨inheritance, inherits, parent⟩ := h.inherits polymorphic
    have bound := consistent.binding_of_inherits loaded hp variant inherits parent
    have marked := h.elements.2 _ bound
    rw [VariantBinding.Marks, ← same _ bound] at marked
    have named := variantIn_eq_ok consistent variant bound built.type.symm rfl marked
    exact run_readingMetadata_of_named hp named variant

/-! ### Vertices -/

/-- From the vertex of a record comes a record in which the same is found, unless the id of the
former is an explicit null. -/
theorem run_recordOfVertex (h : Recorded env c t i n r c') (later : Later env c' d)
    (loaded : d.registry.find? t = some m)
    (nonnull : ∀ f, n.id? = some f → r.find? f.key ≠ some .null) :
    ∃ r', (recordOfVertex m (vertexOf (n.id?.map (·.key)) r)).run d = (.ok r', d) ∧
      r'.elements.Agree r.elements := by
  obtain ⟨nodup, -⟩ := h.elements
  have nodup' : (vertexOf (n.id?.map (·.key)) r).properties.keys.Nodup :=
    nodup.sublist (List.filter_sublist.map _)
  have properties := find?_properties r (n.id?.map (·.key))
  have own := id_vertexOf nonnull
  cases id : n.id? with
  | none =>
    rw [id] at properties nodup'
    refine ⟨_, rfl, fun key => ?_⟩
    rw [Record.elements_ofElements nodup', properties key]
    rfl
  | some f =>
    rw [id] at properties nodup' own
    rw [Option.map_some] at *
    cases found : r.find? f.key with
    | none =>
      have absent : (vertexOf (some f.key) r).id = none := own.trans found
      refine ⟨.ofElements r.name (vertexOf (some f.key) r).properties, ?_, fun key => ?_⟩
      · rw [recordOfVertex, absent]
        rfl
      · rw [Record.elements_ofElements nodup', properties key]
        split
        · rename_i same
          cases same
          exact found.symm
        · rfl
    | some v =>
      have there : (vertexOf (some f.key) r).id = some v := own.trans found
      have concrete : (readingMetadata m (vertexOf (some f.key) r).properties).run d.registry =
          (.ok n, d.registry) := by
        refine h.run_readingMetadata later loaded fun b bound => ?_
        rw [properties, if_neg fun same => h.apart f b id bound (Option.some.inj same).symm]
      refine ⟨(Record.ofElements r.name (vertexOf (some f.key) r).properties).add f.key v, ?_, ?_⟩
      · have step : (ofLoading fun _ => readingMetadata m
            (vertexOf (some f.key) r).properties).run d = (.ok n, d) := by
          rw [run_ofLoading, concrete]
        rw [recordOfVertex, there]
        dsimp only
        rw [Record.elements_ofElements nodup', run_bind_of_ok step, id]
        rfl
      · refine agree_add found fun key other => ?_
        rw [Record.find?, Record.elements_ofElements nodup', properties key,
          if_neg fun same => other (Option.some.inj same)]

theorem run_toVertex (h : Recorded env c t i n r c') :
    (toVertex t i).run c = (.ok (vertexOf (n.id?.map (·.key)) r), c') := by
  rw [toVertex, run_bind_of_ok h.run_recordWith]
  rfl

/-- From the vertex of an instance the same is read as from its record. -/
theorem run_ofVertex (h : Recorded env c t i n r c') (later : Later env c' d)
    (nonnull : ∀ f, n.id? = some f → r.find? f.key ≠ some .null) :
    (ofVertex t (vertexOf (n.id?.map (·.key)) r)).run d = (toEntity t r).run d := by
  obtain ⟨m, found⟩ := h.exists_find?.2.2
  have loaded := later.used.2.consistent.find?_mono later.le found
  obtain ⟨r', run, agree⟩ := h.run_recordOfVertex later loaded nonnull
  rw [ofVertex, run_bind_of_ok (run_load_of_found loaded), run_bind_of_ok run,
    toEntity_congr agree]

theorem run_toEdge {t₂ : TypeRef} {n₂ : Metadata} {r₂ : Record} {c₂ : Context}
    {e : Edge Instance Instance} (h : Recorded env c t e.outgoing n r c')
    (h₂ : Recorded env c' t₂ e.incoming n₂ r₂ c₂) :
    (toEdge t t₂ e).run c = (.ok { e with
      outgoing := vertexOf (n.id?.map (·.key)) r
      incoming := vertexOf (n₂.id?.map (·.key)) r₂ }, c₂) := by
  rw [toEdge, run_bind_of_ok h.run_toVertex, run_bind_of_ok h₂.run_toVertex]
  rfl

/-- From the ends of an edge the same is read, one after the other, as from their records. -/
theorem run_ofEdge {t₂ : TypeRef} {n₂ : Metadata} {r₂ : Record} {c₂ : Context}
    {e : Edge Instance Instance} (h : Recorded env c t e.outgoing n r c')
    (h₂ : Recorded env c' t₂ e.incoming n₂ r₂ c₂) (later : Later env c₂ d)
    (nonnull : ∀ f, n.id? = some f → r.find? f.key ≠ some .null)
    (nonnull₂ : ∀ f, n₂.id? = some f → r₂.find? f.key ≠ some .null) :
    (ofEdge t t₂ { e with
      outgoing := vertexOf (n.id?.map (·.key)) r
      incoming := vertexOf (n₂.id?.map (·.key)) r₂ }).run d = (do
        let j ← toEntity t r
        let k ← toEntity t₂ r₂
        pure { e with outgoing := j, incoming := k } :
          Mapping (Edge Instance Instance)).run d := by
  rw [ofEdge, run_bind, run_bind]
  dsimp only
  rw [h.run_ofVertex (h₂.later later) nonnull]
  rcases run : (toEntity t r).run d with ⟨e | j, d₁⟩
  · rfl
  · -- the first end may have loaded more types
    have kept : Used env ((toEntity t r).run d).2 ∧
        Le c₂.registry ((toEntity t r).run d).2.registry :=
      (lasting_above c₂.registry).toEntity t r d ⟨later.used, later.le⟩
    rw [run] at kept
    dsimp only
    rw [run_bind, run_bind, h₂.run_ofVertex ⟨kept.1, kept.2⟩ nonnull₂]

/-! ### Pairs -/

theorem find?_of_idIn {v : Value} {key : String} (h : idIn m key r = .ok v) :
    r.find? key = some v := by
  rw [idIn] at h
  split at h
  · cases h
  · cases h
  · rename_i there
    cases h
    exact there

/-- The pair of an instance has its id and its whole record. -/
theorem run_toPair_eq_ok (h : Recorded env c t i n r c') {pair : KeyValue} {c₁ : Context}
    (run : (toPair t i).run c = (.ok pair, c₁)) :
    pair.value = .record r.elements ∧ ∃ f, n.id? = some f ∧ r.find? f.key = some pair.key := by
  obtain ⟨u, c₂, fired, keyed⟩ := run_bind_eq_ok.1 run
  rw [run_fire] at fired
  obtain ⟨-, rfl⟩ := Prod.mk.inj fired
  obtain ⟨⟨r', n'⟩, c₃, recorded, keyed⟩ := run_bind_eq_ok.1 keyed
  -- what the first listener has done does not matter to what is written
  obtain ⟨m, s, es, loaded, elements, rfl⟩ := run_recordWith_eq_ok h.run_recordWith
  obtain ⟨m', s', es', loaded', elements', rfl⟩ := run_recordWith_eq_ok recorded
  dsimp only at loaded' elements'
  rw [loaded] at loaded'
  cases loaded'
  rw [elements] at elements'
  obtain ⟨rfl, rfl⟩ := Prod.mk.inj (Except.ok.inj (congrArg Prod.fst elements'))
  obtain ⟨f, c₄, id, named⟩ := run_bind_eq_ok.1 keyed
  obtain ⟨id, -⟩ := run_ofExcept_eq_ok.1 id
  obtain ⟨v, c₅, key, paired⟩ := run_bind_eq_ok.1 named
  obtain ⟨key, -⟩ := run_ofExcept_eq_ok.1 key
  obtain ⟨-, c₆, -, last⟩ := run_bind_eq_ok.1 paired
  cases last
  exact ⟨rfl, f, Metadata.id_eq_ok.1 id, find?_of_idIn key⟩

/-- From the pair of an instance the same is read as from its record. -/
theorem run_ofPair (h : Recorded env c t i n r c') (later : Later env c' d)
    (willing : d.events.Willing) {f : MappedField} {pair : KeyValue}
    (value : pair.value = .record r.elements) (id : n.id? = some f)
    (key : r.find? f.key = some pair.key) :
    ((ofPair t pair).run d).1 = ((toEntity t r).run d).1 := by
  obtain ⟨m, found⟩ := h.exists_find?.2.2
  have loaded := later.used.2.consistent.find?_mono later.le found
  obtain ⟨nodup, -⟩ := h.elements
  have taken : (Record.ofElements m.name r.elements).elements = r.elements :=
    Record.elements_ofElements nodup m.name
  have agree : ((Record.ofElements m.name r.elements).add f.key pair.key).elements.Agree
      r.elements := by
    refine agree_add key fun k _ => ?_
    rw [Record.find?, taken, Record.find?]
  have elements : elementsOfPair pair = .ok r.elements := by rw [elementsOfPair, value]
  have identified : n.id = .ok f := Metadata.id_eq_ok.2 id
  obtain ⟨ev, fired, willing'⟩ :=
    run_fire_of_willing d.environment d.registry willing .postKeyValue (.keyValue pair)
  have concrete : (ofLoading fun _ => readingMetadata m r.elements).run
      ⟨d.environment, d.registry, ev⟩ = (.ok n, ⟨d.environment, d.registry, ev⟩) := by
    rw [run_ofLoading]
    dsimp only
    rw [h.run_readingMetadata later loaded fun _ _ => rfl]
  obtain ⟨d', direct, -⟩ := run_toEntity_of_loaded (r := r) loaded willing
  obtain ⟨d₁, read, willing₁⟩ :=
    run_toEntity_of_loaded (d := ⟨d.environment, d.registry, ev⟩) (r := r) loaded willing'
  have again : (load t).run ⟨d.environment, d.registry, ev⟩ =
      (.ok m, ⟨d.environment, d.registry, ev⟩) := run_load_of_found loaded
  rw [ofPair, run_bind_of_ok fired, run_bind_of_ok (run_ofExcept_eq_ok.2 ⟨elements, rfl⟩),
    run_bind_of_ok again]
  dsimp only
  rw [taken, run_bind_of_ok concrete, run_bind_of_ok (run_ofExcept_eq_ok.2 ⟨identified, rfl⟩),
    toEntity_congr agree, run_bind, read, direct]
  dsimp only
  rcases ((d.environment.read m r.elements).run d.registry).1 with e | x
  · rfl
  · obtain ⟨ev', shown, -⟩ := run_fire_of_willing d₁.environment d₁.registry willing₁
      .postKeyValueEntity (.entity x)
    dsimp only
    rw [run_bind_of_ok shown]
    rfl

end Recorded

/-! ### Both forms -/

/-- Whatever was recorded for an instance, its other forms have, and are read as the record is. The
vertex has the name and the id of the record, and its properties are the other elements in their
order; but an explicit null for an id is lost on it. So are the ends of an edge. A pair has the
whole record. -/
theorem forms_read_as_record (h : Recorded env c t i n r c') :
    ((∀ f, n.id? = some f → r.find? f.key ≠ some .null) →
      (∃ x, (toVertex t i).run c = (.ok x, c') ∧ x.label = r.name ∧
        x.id = (n.id?.bind fun f => r.find? f.key) ∧
        x.properties = (r.elements.filter fun e => some e.1 != n.id?.map (·.key)) ∧
        ∀ d, Later env c' d → (ofVertex t x).run d = (toEntity t r).run d) ∧
      ∀ t₂ i₂ n₂ r₂ c₂, Recorded env c' t₂ i₂ n₂ r₂ c₂ →
        (∀ f, n₂.id? = some f → r₂.find? f.key ≠ some .null) →
        ∀ e : Edge Instance Instance, e.outgoing = i → e.incoming = i₂ →
          ∃ g, (toEdge t t₂ e).run c = (.ok g, c₂) ∧ ∀ d, Later env c₂ d →
            (ofEdge t t₂ g).run d = (do
              let j ← toEntity t r
              let k ← toEntity t₂ r₂
              pure { e with outgoing := j, incoming := k } :
                Mapping (Edge Instance Instance)).run d) ∧
    ∀ pair c₁, (toPair t i).run c = (.ok pair, c₁) →
      pair.value = .record r.elements ∧
      ∀ d, Later env c' d → d.events.Willing →
        ((ofPair t pair).run d).1 = ((toEntity t r).run d).1 := by
  refine ⟨fun nonnull => ⟨⟨_, h.run_toVertex, rfl, id_vertexOf nonnull, rfl, ?_⟩, ?_⟩, ?_⟩
  · exact fun d later => h.run_ofVertex later nonnull
  · rintro t₂ i₂ n₂ r₂ c₂ h₂ nonnull₂ e rfl rfl
    exact ⟨_, h.run_toEdge h₂, fun d later => h.run_ofEdge h₂ later nonnull nonnull₂⟩
  · intro pair c₁ run
    obtain ⟨value, f, id, key⟩ := h.run_toPair_eq_ok run
    exact ⟨value, fun d later willing => h.run_ofPair later willing value id key⟩

end Mapping

/-! ### A car as a vehicle -/

namespace Fleet

def carRecord : Record := ⟨"Vehicle", [("_id", .integer 1), ("dtype", .text "car")]⟩

/-- The id of a car is under another key than its discriminator, and not null. -/
theorem exists_recorded_held : ∃ n c',
    Mapping.Recorded environment { environment } vehicle held n carRecord c' ∧
      c'.events.Willing ∧ ∃ f, n.id? = some f ∧ f.key = "_id" := by
  have known : (Schema.build environment.catalog environment.config car).map (fun n =>
      (n.id?.map (·.key), n.binding.map (·.column))) = .ok (some "_id", some "dtype") := by
    cbv
  have writes : ((Mapping.toRecord vehicle held).run { environment }).1 = .ok carRecord := by cbv
  obtain ⟨n, build, same⟩ := Schema.map_eq_ok known
  obtain ⟨key, column⟩ := Prod.mk.inj same
  obtain ⟨f, id, key⟩ := Option.map_eq_some_iff.1 key
  have type : n.type = car := (Schema.built_of_build build).type
  refine ⟨n, _, ⟨⟨rfl, .empty⟩, ⟨numbered car 1, rfl, type⟩, type ▸ build, ?_, ?_,
    Prod.ext writes rfl⟩, ?_, f, id, key⟩
  · rw [type]
    exact fun _ => ⟨⟨vehicle, "car"⟩, rfl, rfl⟩
  · intro g b isId bound same
    obtain rfl : f = g := Option.some.inj (id.symm.trans isId)
    rw [bound] at column
    have keys : "_id" = "dtype" := key.symm.trans (same.trans (Option.some.inj column))
    exact absurd keys (by decide)
  · exact (Mapping.lasting_willing environment).toRecord vehicle held _ Events.willing_empty

end Fleet

open Fleet in
theorem Mapping.forms_read_as_record_car :
    ∃ c' x pair c₁, (toVertex vehicle held).run { environment } = (.ok x, c') ∧
      x.label = "Vehicle" ∧ x.id = some (.integer 1) ∧ x.properties = [("dtype", .text "car")] ∧
      (ofVertex vehicle x).run c' = (toEntity vehicle carRecord).run c' ∧
      (toPair vehicle held).run { environment } = (.ok pair, c₁) ∧
      pair.value = .record carRecord.elements ∧
      ((ofPair vehicle pair).run c').1 = ((toEntity vehicle carRecord).run c').1 := by
  obtain ⟨n, c', recorded, willing, f, id, key⟩ := exists_recorded_held
  have pairs : ((toPair vehicle held).run { environment }).1.isOk = true := by cbv
  obtain ⟨pair, c₁, paired⟩ := exists_of_isOk pairs
  obtain ⟨vertices, keyed⟩ := forms_read_as_record recorded
  have nonnull : ∀ g, n.id? = some g → carRecord.find? g.key ≠ some .null := by
    intro g isId
    rw [← Option.some.inj (id.symm.trans isId), key]
    exact fun null => by cases null
  obtain ⟨⟨x, run, label, identified, properties, read⟩, -⟩ := vertices nonnull
  obtain ⟨value, same⟩ := keyed pair c₁ paired
  rw [id, Option.bind_some, key] at identified
  rw [id, Option.map_some, key] at properties
  have later := recorded.later_refl
  exact ⟨c', x, pair, c₁, run, label, identified, properties, read c' later, paired, value,
    same c' later willing⟩

end EntityMapping
