import EntityMapping.Proofs.Conversion.Discriminator
import EntityMapping.Proofs.Store.Deletion

/-!
The collection of a polymorphic type. Its variants write their records into one collection, each
with its mark. A write puts its record there and no other, a delete only takes records out, and the
registry keeps the variants that it has. So in a run of operations, whether they succeed or not, the
collection holds nothing but records that are marked as those of registered variants.
-/

namespace EntityMapping

open Effect Environment Registry Schema

variable {env : Environment}

/-! ### Stores -/

namespace Store

variable {s s' : Store} {r stored x : Record} {t : TypeRef} {mode : WriteMode} {name : String}

def numberKey (s : Store) : Option String := s.numbering.map (·.key)

/-- A record that a store takes is the only new one. Numbering changes it under one key. -/
structure Adds (s : Store) (r stored : Record) (s' : Store) : Prop where
  numberKey : s'.numberKey = s.numberKey
  name : stored.name = r.name
  find? : ∀ key, s.numberKey ≠ some key → stored.find? key = r.find? key
  records : ∀ name, ∀ x ∈ s'.records name, x ∈ s.records name ∨ name = r.name ∧ x = stored

theorem adds_insert (h : s.insert r = (.ok stored, s')) : s.Adds r stored s' := by
  rw [insert] at h
  split at h
  · cases h
  · cases numbering : s.numbering with
    | none =>
      simp only [numbered, numbering] at h
      cases h
      refine ⟨rfl, rfl, fun _ _ => rfl, fun name x mem => ?_⟩
      rw [records_setRecords] at mem
      split at mem
      · rename_i same
        exact (List.mem_append.1 mem).imp (same ▸ ·) fun new => ⟨same, List.mem_singleton.1 new⟩
      · exact .inl mem
    | some n =>
      simp only [numbered, numbering] at h
      cases h
      refine ⟨?_, rfl, fun key other => ?_, fun name x mem => ?_⟩
      · rw [numberKey, numberKey, numbering]
        rfl
      · have apart : key ≠ n.key := by
          rintro rfl
          exact other (by rw [numberKey, numbering]; rfl)
        rw [Record.find?_add, if_neg apart]
      · rw [records_setRecords] at mem
        split at mem
        · rename_i same
          exact (List.mem_append.1 mem).imp (same ▸ ·) fun new => ⟨same, List.mem_singleton.1 new⟩
        · exact .inl mem

theorem adds_taking (h : s.taking t r mode = (.ok stored, s')) : s.Adds r stored s' := by
  cases mode with
  | insert => exact adds_insert h
  | update key =>
    obtain ⟨rfl, id, -, rfl⟩ := taking_update_eq_ok h
    refine ⟨rfl, rfl, fun _ _ => rfl, fun name x mem => ?_⟩
    rw [records_setRecords] at mem
    split at mem
    · rename_i same
      exact (mem_upsert mem).symm.imp (same ▸ ·) fun new => ⟨same, new⟩
    · exact .inl mem

theorem numberKey_delete (s : Store) (q : DeleteQuery) :
    (s.delete q).2.numberKey = s.numberKey := by
  rw [delete]
  split
  · rfl
  · split <;> rfl

end Store

/-! ### Records -/

theorem run_concreteMetadata_eq_ok {s s' : Registry} {m n : Metadata} {j : Instance}
    (h : (concreteMetadata m j).run s = (.ok n, s')) :
    s' = s ∧ (n = m ∨ s.find? j.type = some n) := by
  unfold concreteMetadata at h
  split at h
  · obtain ⟨known, rfl⟩ := run_ask_eq_ok.1 h
    exact ⟨rfl, .inr (known_eq_ok.1 known)⟩
  · cases h
    exact ⟨rfl, .inl rfl⟩

/-- What a record was written by: the metadata of what its instance is written as, which is loaded
by then. -/
theorem Mapping.exists_metadata_of_toRecord {c c' : Context} {t : TypeRef} {i : Instance}
    {r : Record} (used : Used env c) (written : (toRecord t i).run c = (.ok r, c')) :
    ∃ v j n es, WrittenAs env t i v j ∧ c'.registry.find? v = some n ∧
      r = .ofElements n.name (es ++ n.marks) := by
  obtain ⟨rfl, reached⟩ := used
  obtain ⟨m, s, es, n, loaded, elements, rfl⟩ := run_toRecord_eq_ok written
  obtain ⟨grown, found⟩ := reached.consistent.grown_load loaded
  cases one : concrete m i with
  | error e =>
    rw [elementsWith_of_error one] at elements
    cases elements
  | ok j =>
    rw [elementsWith_of_ok one] at elements
    obtain ⟨k, s₁, metadata, elements⟩ := run_bind_eq_ok.1 elements
    obtain ⟨fs, s₂, fields, last⟩ := run_bind_eq_ok.1 elements
    cases last
    have build := grown.consistent.build_find? (found m rfl)
    obtain ⟨⟨v, single, build'⟩, -⟩ :=
      yields_concreteMetadata (fun _ h => h) build one _ _ _ grown.consistent metadata
    obtain ⟨rfl, origin⟩ := run_concreteMetadata_eq_ok metadata
    have there : n ∈ s₁.loaded := by
      rcases origin with rfl | known
      · exact (find?_of_some (found n rfl)).1
      · exact (find?_of_some known).1
    have reached₁ : Reachable c.environment s₁ := by
      have after := reached.load t
      rwa [loaded] at after
    have after : Reachable c.environment ((c.environment.fieldElements j n.fields).run s₁).2 ∧
        Le s₁ ((c.environment.fieldElements j n.fields).run s₁).2 :=
      (onlyLoads_elements.2.2.1 j n.fields).grows s₁ s₁ ⟨reached₁, .refl s₁⟩
    rw [fields] at after
    have found' : c'.registry.find? v = some n :=
      after.1.consistent.find?_eq_some.2 ⟨after.2.loaded there, (built_of_build build').type⟩
    exact ⟨v, j, n, fs, single, found', rfl⟩

/-! ### Queries -/

namespace Mapping

theorem keeps_converters {P : Context → Prop} : Keeps P converters.run :=
  Keeps.get.bind fun _ => .ok _

theorem Lasting.deleteQuery {P : Context → Prop} (h : Lasting env P) (t : TypeRef)
    (clauses : List Clause) : Keeps P (Persisting.deleteQuery t clauses).run :=
  (h.loading (.load t)).bind fun _ => keeps_converters.bind fun _ => keeps_ofExcept _

theorem Lasting.variantId {P : Context → Prop} (h : Lasting env P) (vs : List TypeRef) :
    Keeps P (Persisting.variantId vs).run := by
  induction vs with
  | nil => exact .ok none
  | cons v vs ih =>
    refine (h.loading (.load v)).bind fun m => ?_
    cases m.id? with
    | some f => exact .ok _
    | none => exact ih

theorem Lasting.idClause {P : Context → Prop} (h : Lasting env P) (t : TypeRef)
    (a : QueryArgument) : Keeps P (Persisting.idClause t a).run := by
  have looked : Keeps P (Persisting.idLookup t a).run := by
    refine (h.loading (.load t)).bind fun m => ?_
    cases m.id? with
    | some f => exact .ok _
    | none =>
      refine (h.variantId _).bind fun f => ?_
      cases f with
      | some f => exact keeps_converters.bind fun _ => (keeps_ofExcept _).bind fun _ => .ok _
      | none => exact .throw _
  exact looked.bind fun _ => .ok _

end Mapping

/-! ### Operations -/

/-- An operation of a template that changes the store. -/
inductive Operation where
  | insert (t : TypeRef) (i : Instance)
  | update (t : TypeRef) (i : Instance)
  | delete (t : TypeRef) (clauses : List Clause)
  | deleteById (t : TypeRef) (a : QueryArgument)

namespace Operation

def perform (tp : Template) : Operation → Template
  | .insert t i => ((Persisting.insert t i).run tp).2
  | .update t i => ((Persisting.update t i).run tp).2
  | .delete t clauses => ((Persisting.delete t clauses).run tp).2
  | .deleteById t a => ((Persisting.deleteById t a).run tp).2

def written? : Operation → Option Instance
  | .insert _ i | .update _ i => some i
  | .delete .. | .deleteById .. => none

end Operation

/-- The records of the name of a type are those of its variants: no other type has the name. -/
def Sole (env : Environment) (parent : TypeRef) : Prop :=
  ∀ v n, Schema.build env.catalog env.config v = .ok n →
    n.name = (env.catalog.describe parent).name → v = parent ∨ env.catalog.Inherits v parent

/-- A template in whose collection of a polymorphic type every record is marked as one of a loaded
variant, and no numbers are put in the place of the marks. -/
structure Partitioned (env : Environment) (parent : TypeRef) (declared : Option String)
    (tp : Template) : Prop where
  used : Mapping.Used env tp.context
  free : tp.store.numberKey ≠ some (discriminatorColumn env.config declared)
  marked : ∀ r ∈ tp.store.records (env.catalog.describe parent).name,
    ∃ b ∈ tp.context.registry.bindings, b.parent = parent ∧
      b.column = discriminatorColumn env.config declared ∧ b.Marks r

namespace Partitioned

variable {parent : TypeRef} {declared : Option String} {tp tp' : Template}

theorem of_le (h : Partitioned env parent declared tp)
    (above : Mapping.Used env tp'.context ∧ Le tp.context.registry tp'.context.registry)
    (numberKey : tp'.store.numberKey = tp.store.numberKey)
    (records : ∀ r ∈ tp'.store.records (env.catalog.describe parent).name,
      r ∈ tp.store.records (env.catalog.describe parent).name) :
    Partitioned env parent declared tp' := by
  refine ⟨above.1, numberKey ▸ h.free, fun r mem => ?_⟩
  obtain ⟨b, there, marked⟩ := h.marked r (records r mem)
  exact ⟨b, above.2.bindings there, marked⟩

theorem keeps_ofMapping {α : Type} {x : Mapping α}
    (h : ∀ {P : Context → Prop}, Mapping.Lasting env P →
      Keeps (fun tp : Template => P tp.context) (Persisting.ofMapping x).run) :
    Keeps (Partitioned env parent declared) (Persisting.ofMapping x).run := by
  intro tp parted
  have store : ((Persisting.ofMapping x).run tp).2.store = tp.store :=
    Persisting.store_ofMapping rfl
  exact parted.of_le (h (Mapping.lasting_above _) tp ⟨parted.used, .refl _⟩)
    (congrArg Store.numberKey store) fun _ mem => store ▸ mem

theorem keeps_delete (q : DeleteQuery) :
    Keeps (Partitioned env parent declared) (Persisting.runDelete q).run := by
  refine (keeps_ofMapping fun h => Persisting.keeps_ofMapping (h.fire _ _)).bind fun _ => ?_
  intro tp parted
  show Partitioned env parent declared ((Persisting.ofStore (·.delete q)).run tp).2
  rw [Persisting.run_ofStore]
  exact parted.of_le ⟨parted.used, .refl _⟩ (Store.numberKey_delete ..)
    fun _ mem => Store.mem_records_of_delete mem

/-- A record that comes into the collection is marked. -/
theorem exists_marks {c c' : Context} {t : TypeRef} {i : Instance} {r : Record}
    (used : Mapping.Used env c) (sole : Sole env parent)
    (declares : (env.catalog.describe parent).polymorphism = some declared)
    (proper : ∀ j, i.held = some j → j.type ≠ parent)
    (written : (Mapping.toRecord t i).run c = (.ok r, c'))
    (own : r.name = (env.catalog.describe parent).name) :
    ∃ b ∈ c'.registry.bindings, b.parent = parent ∧
      b.column = discriminatorColumn env.config declared ∧ b.Marks r := by
  have after : Mapping.Used env ((Mapping.toRecord t i).run c).2 :=
    Mapping.keeps_toRecord t i c used
  rw [written] at after
  obtain ⟨v, j, n, es, single, found, rfl⟩ := Mapping.exists_metadata_of_toRecord used written
  have consistent := after.2.consistent
  have variant : v ≠ parent := by
    rw [WrittenAs] at single
    split at single
    · exact single.2 ▸ proper j single.1
    · rename_i concrete
      rintro rfl
      rw [single.1] at declares
      simp [Descriptor.isPolymorphic, declares] at concrete
  obtain ⟨h, inherits, rfl⟩ :=
    (sole v n (consistent.build_find? found) own).resolve_left variant
  have bound : n.binding =
      some ⟨discriminatorColumn env.config declared, h.discriminator, h.parent, v⟩ := by
    rw [(consistent.built_find? found).binding_eq, declaredBinding, inherits, Option.bind_some,
      declares]
    rfl
  exact ⟨_, consistent.bound n (find?_of_some found).1 _ bound, rfl, rfl,
    Metadata.marks_record bound es⟩

theorem keeps_persist {t : TypeRef} {i : Instance} {mode : WriteMode} (sole : Sole env parent)
    (declares : (env.catalog.describe parent).polymorphism = some declared)
    (proper : ∀ j, i.held = some j → j.type ≠ parent) :
    Keeps (Partitioned env parent declared) (Persisting.persist t i mode).run := by
  intro tp parted
  have above : Mapping.Used env ((Persisting.persist t i mode).run tp).2.context ∧
      Le tp.context.registry ((Persisting.persist t i mode).run tp).2.context.registry :=
    Persisting.keeps_persist (Mapping.lasting_above _) t i mode tp ⟨parted.used, .refl _⟩
  show Partitioned env parent declared ((Persisting.persist t i mode).run tp).2
  rcases run : (Persisting.persist t i mode).run tp with ⟨answer, tp'⟩
  rw [run] at above
  obtain ⟨-, same⟩ | ⟨r, c, events, stored, s, recorded, taken, rfl, confirmed⟩ :=
    Persisting.run_persist run
  · exact parted.of_le above (congrArg Store.numberKey same) fun _ mem => same ▸ mem
  · have adds := Store.adds_taking taken
    have used : Mapping.Used env ((Mapping.toRecord t i).run tp.context).2 :=
      Mapping.keeps_toRecord t i _ parted.used
    rw [recorded] at used
    have le : Le c.registry
        ((Persisting.confirm t stored).run ⟨{ c with events }, tp'.store⟩).2.context.registry :=
      (Persisting.keeps_confirm (Mapping.lasting_above c.registry) t stored
        ⟨{ c with events }, tp'.store⟩ ⟨used, .refl _⟩).2
    rw [confirmed] at le
    refine ⟨above.1, adds.numberKey ▸ parted.free, fun x mem => ?_⟩
    rcases adds.records _ x mem with old | ⟨own, rfl⟩
    · obtain ⟨b, there, marked⟩ := parted.marked x old
      exact ⟨b, above.2.bindings there, marked⟩
    · obtain ⟨b, there, parent, column, marks⟩ :=
        exists_marks parted.used sole declares proper recorded own.symm
      refine ⟨b, le.bindings there, parent, column, ?_⟩
      rw [VariantBinding.Marks, adds.find? _ (column ▸ parted.free)]
      exact marks

/-- The records are marked after every operation, -/
theorem perform {o : Operation} (sole : Sole env parent)
    (declares : (env.catalog.describe parent).polymorphism = some declared)
    (proper : ∀ i, o.written? = some i → ∀ j, i.held = some j → j.type ≠ parent)
    (parted : Partitioned env parent declared tp) :
    Partitioned env parent declared (o.perform tp) := by
  cases o with
  | insert t i => exact keeps_persist sole declares (proper i rfl) tp parted
  | update t i =>
    have updated : Keeps (Partitioned env parent declared) (Persisting.update t i).run :=
      (keeps_ofMapping fun h => Persisting.keeps_idKey h t i).bind fun key =>
        keeps_persist sole declares (proper i rfl)
    exact updated tp parted
  | delete t clauses =>
    have deleted : Keeps (Partitioned env parent declared) (Persisting.delete t clauses).run :=
      (keeps_ofMapping fun h => Persisting.keeps_ofMapping (h.deleteQuery t clauses)).bind
        keeps_delete
    exact deleted tp parted
  | deleteById t a =>
    have deleted : Keeps (Partitioned env parent declared) (Persisting.deleteById t a).run :=
      (keeps_ofMapping fun h => Persisting.keeps_ofMapping (h.idClause t a)).bind fun c =>
        (keeps_ofMapping fun h => Persisting.keeps_ofMapping (h.deleteQuery t [c])).bind
          keeps_delete
    exact deleted tp parted

/-- and so they are after a run of operations. -/
theorem performAll {ops : List Operation} (sole : Sole env parent)
    (declares : (env.catalog.describe parent).polymorphism = some declared)
    (proper : ∀ o ∈ ops, ∀ i, o.written? = some i → ∀ j, i.held = some j → j.type ≠ parent)
    (parted : Partitioned env parent declared tp) :
    Partitioned env parent declared (ops.foldl Operation.perform tp) := by
  induction ops generalizing tp with
  | nil => exact parted
  | cons o ops ih =>
    refine ih (fun o' mem => proper o' (List.mem_cons_of_mem _ mem)) ?_
    exact parted.perform sole declares (proper o (List.mem_cons_self ..))

end Partitioned

end EntityMapping
