import EntityMapping.Proofs.Conversion.Lookup
import EntityMapping.Proofs.Template.Runs

/-!
Updates of instances without an id. A pair refuses an id that is missing or null, an update only one
that is missing from the record; so where nulls are written, an instance without an id is stored,
and takes the place of every record whose id is null. The guard also passes where something else
has written the key of the id: an attribute whose keys were not compared with it, or the
discriminator.
-/

namespace EntityMapping

open Effect Environment Registry Schema

variable {env : Environment} {i : Instance} {f : MappedField}

/-- An attribute of an instance has no native value: it is empty, or it holds what its converter
turns into null, if into anything. -/
def Valueless (env : Environment) (i : Instance) (f : MappedField) : Prop :=
  ∀ c, i.read f = .ok c → c = .native .null ∨
    ∃ a, c = .attribute a ∧ ∀ v, NativeOf env f (.attribute a) v → v = .null

/-- Without a native value nothing but null is written under the key, and that only where nulls are
written. -/
theorem Valueless.yields_ownElements (h : Valueless env i f) :
    Yields (Consistent env) (env.ownElements i f) fun es =>
      ∀ v ∈ Keyed.under f.key es, v = .null ∧ env.config.materializeNulls = true := by
  have single : ∀ v ∈ Keyed.under f.key ([(f.key, Value.null)].filter fun e => env.keeps e.2),
      v = .null ∧ env.config.materializeNulls = true := by
    intro v mem
    obtain ⟨mem, kept⟩ := List.mem_filter.1 (Keyed.mem_under.1 mem)
    cases List.mem_singleton.1 mem
    exact ⟨rfl, by simpa [keeps, Value.isNull] using kept⟩
  refine yields_own (fun _ _ _ none => absurd none List.not_mem_nil) fun c read => ?_
  rcases h c read with rfl | ⟨a, rfl, null⟩
  · rw [contentElements_native]
    refine (yields_ofExcept _).imp fun es written => ?_
    rw [leafElements_native_eq_ok written]
    exact single
  · rw [contentElements_attribute]
    refine (yields_ofExcept _).imp fun es written => ?_
    obtain ⟨v, native, rfl⟩ := leafElements_attribute_eq_ok written
    rw [null v native]
    exact single

/-- The update of an instance whose id has no native value fails with the store as it was, unless
the record has something under the key of the id: a null, where nulls are written, or what another
attribute or the discriminator has put there. It then takes the place of all records that have the
same there. -/
theorem update_without_id_replaces (env : Environment) (tp tp' : Template)
    (used : Mapping.Used env tp.context) (t v : TypeRef) (i j : Instance) (n : Metadata)
    (written : WrittenAs env t i v j) (build : Schema.build env.catalog env.config v = .ok n)
    (f : MappedField) (isId : n.id? = some f) (valueless : Valueless env j f)
    (answer : Except MapperError Instance)
    (run : (Persisting.update t i).run tp = (answer, tp')) :
    ((∃ e, answer = .error e) ∧ tp'.store = tp.store) ∨
      ∃ r id, r.find? f.key = some id ∧
        tp'.store = tp.store.setRecords n.name
          (Store.upsert f.key id r (tp.store.records n.name)) ∧
        (id = .null ∧ env.config.materializeNulls = true ∨
          (∃ g ∈ declared env.catalog env.config v, g ≠ f ∧ Writes env j g f.key) ∨
          ∃ b, n.binding = some b ∧ b.column = f.key) := by
  have built := built_of_build build
  by_cases other : ∃ g ∈ declared env.catalog env.config v, g ≠ f ∧ Writes env j g f.key
  · have fields : Yields (Consistent env) (env.fieldElements j n.fields) fun _ => True :=
      (yields_keys.2.2.1 j n.fields).imp fun _ _ => trivial
    obtain failed | ⟨g, r, id, isId', -, found, upserted, -⟩ :=
      Persisting.run_update used written build fields run
    · exact .inl failed
    · cases isId.symm.trans isId'
      exact .inr ⟨r, id, found, upserted, .inr (.inl other)⟩
  · have others : ∀ g ∈ n.fields, g ≠ f →
        Yields (Consistent env) (env.ownElements j g) fun es => f.key ∉ es.keys := by
      intro g mem distinct r es s consistent run
      rw [built.fields] at mem
      refine ⟨fun key => other ⟨g, mem, distinct, r, es, s, consistent, run, key⟩, ?_⟩
      exact (yields_ownElements j g r es s consistent run).2
    have fields := yields_under built.pairwise_ne (List.mem_of_find?_eq_some isId)
      valueless.yields_ownElements others
    obtain failed | ⟨g, r, id, isId', ⟨es, ⟨own, null, under⟩, rfl⟩, found, upserted, -⟩ :=
      Persisting.run_update used written build fields run
    · exact .inl failed
    · cases isId.symm.trans isId'
      refine .inr ⟨_, id, found, upserted, ?_⟩
      rw [Record.find?_ofElements, Keyed.under_append, under] at found
      rcases List.mem_append.1 (List.mem_of_getLast? found) with mem | mem
      · exact .inl (null id mem)
      · obtain ⟨b, bound, same⟩ :=
          built.mem_keys_marks (Keyed.mem_keys.2 ⟨id, Keyed.mem_under.1 mem⟩)
        exact .inr (.inr ⟨b, built.binding_eq.trans bound, same⟩)

/-! ### A guest list -/

namespace GuestList

def guest : TypeRef := ⟨0, "Guest"⟩

/-- Guests may have a number; nulls are written. -/
def environment : Environment where
  catalog := {
    valueName := "Value"
    descriptors := [
      { name := "Guest", type := guest, suppliesInstances := true
        fields := [⟨(Column.of "number").id, .plain (.option .int64) none⟩,
          ⟨.of "name", .plain .string ""⟩] }] }
  config := { materializeNulls := true }

def unnumbered (name : String) : Instance :=
  .mk guest [("number", .plain (.option .int64) none), ("name", .plain .string name)] none

def expected : Template :=
  ((do
    let _ ← Persisting.insert guest (unnumbered "Ada")
    Persisting.insert guest (unnumbered "Bob") : Persisting Instance).run ⟨{ environment }, {}⟩).2

theorem used_expected : Mapping.Used environment expected.context := by
  have kept : Keeps (fun tp : Template => Mapping.Used environment tp.context)
      (do
        let _ ← Persisting.insert guest (unnumbered "Ada")
        Persisting.insert guest (unnumbered "Bob") : Persisting Instance).run :=
    (Persisting.keeps_persist Mapping.lasting_used _ _ _).bind fun _ =>
      Persisting.keeps_persist Mapping.lasting_used _ _ _
  exact kept ⟨{ environment }, {}⟩ ⟨rfl, .empty⟩

def numberField : MappedField where
  key := "_id"
  field := "number"
  isId := true
  type := .plain (.option .int64) none
  owner := guest

theorem exists_built : ∃ n, Schema.build environment.catalog environment.config guest = .ok n ∧
    n.id? = some numberField := by
  have known : (Schema.build environment.catalog environment.config guest).map (·.id?) =
      .ok (some numberField) := by
    cbv
  exact map_eq_ok known

theorem valueless_unnumbered (name : String) :
    Valueless environment (unnumbered name) numberField := by
  intro c read
  cases read
  exact .inl rfl

theorem run_update_unnumbered :
    ((Persisting.update guest (unnumbered "Eve")).run expected).1.isOk = true ∧
      (expected.store.records "Guest").map (·.find? "name") =
        [some (.text "Ada"), some (.text "Bob")] ∧
      (((Persisting.update guest (unnumbered "Eve")).run expected).2.store.records "Guest").map
        (·.find? "name") = [some (.text "Eve"), some (.text "Eve")] := by
  refine ⟨?_, ?_, ?_⟩ <;> cbv

end GuestList

open GuestList in
theorem update_without_id_replaces_guests :
    ∃ n answer tp', Mapping.Used environment expected.context ∧
      WrittenAs environment guest (unnumbered "Eve") guest (unnumbered "Eve") ∧
      Schema.build environment.catalog environment.config guest = .ok n ∧
      n.id? = some numberField ∧ Valueless environment (unnumbered "Eve") numberField ∧
      (Persisting.update guest (unnumbered "Eve")).run expected = (answer, tp') ∧
      ∃ r id, r.find? "_id" = some id ∧
        tp'.store = expected.store.setRecords n.name
          (Store.upsert "_id" id r (expected.store.records n.name)) := by
  obtain ⟨n, build, isId⟩ := exists_built
  obtain ⟨answers, -⟩ := run_update_unnumbered
  have valueless := valueless_unnumbered "Eve"
  rcases updated : (Persisting.update guest (unnumbered "Eve")).run expected with ⟨answer, tp'⟩
  rw [updated] at answers
  refine ⟨n, answer, tp', used_expected, ⟨rfl, rfl⟩, build, isId, valueless, rfl, ?_⟩
  obtain ⟨⟨e, rfl⟩, -⟩ | ⟨r, id, found, upserted, -⟩ :=
    update_without_id_replaces environment expected tp' used_expected guest guest _ _ n ⟨rfl, rfl⟩
      build numberField isId valueless answer updated
  · cases answers
  · exact ⟨r, id, found, upserted⟩

open GuestList in
/-- Not every update of an instance without an id fails and leaves the store as it was. -/
theorem update_without_id_succeeds :
    ¬ ∀ (env : Environment) (tp tp' : Template) (t v : TypeRef) (i j : Instance) (n : Metadata)
      (f : MappedField) (answer : Except MapperError Instance), Mapping.Used env tp.context →
      WrittenAs env t i v j → Schema.build env.catalog env.config v = .ok n → n.id? = some f →
      Valueless env j f → (Persisting.update t i).run tp = (answer, tp') →
      (∃ e, answer = .error e) ∧ tp'.store = tp.store := by
  intro refused
  obtain ⟨n, build, isId⟩ := exists_built
  obtain ⟨-, before, after⟩ := run_update_unnumbered
  rcases updated : (Persisting.update guest (unnumbered "Eve")).run expected with ⟨answer, tp'⟩
  obtain ⟨-, same⟩ := refused environment expected tp' guest guest _ _ n numberField answer
    used_expected ⟨rfl, rfl⟩ build isId (valueless_unnumbered "Eve") updated
  rw [updated, same, before] at after
  simp at after

end EntityMapping
