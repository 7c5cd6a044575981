import EntityMapping.Proofs.AttributeType.Storage
import EntityMapping.Proofs.Conversion.Lookup
import EntityMapping.Proofs.Conversion.Repeatable
import EntityMapping.Proofs.Event.Willing
import EntityMapping.Proofs.Schema.Names
import EntityMapping.Proofs.Store.Identity
import EntityMapping.Proofs.Template.Runs
import EntityMapping.Proofs.Value.Equality

/-!
Ids in queries and in records. The id of an instance goes four ways: into the record under a key,
to the store as that key, into a query as a path of attributes and an argument, and from there to
the native path and the native value that the store compares. Where the path leads to the key, the
key is a path, and the argument is compared as it is, a query for an id means the records that
answer to it under the key.
-/

namespace EntityMapping

open Effect Environment Registry Schema

variable {env : Environment} {R : Registry} {ev : Events} {s : Store} {t : TypeRef} {m : Metadata}
  {f : MappedField} {v : Value} {x : Instance} {r : Record}

/-! ### Queries for an id -/

/-- The clause that asks for a value of an id. -/
def idClauseOf (f : MappedField) (v : Value) : Clause :=
  { join := .both, path := f.field, operator := .equals, arguments := [.native v] }

/-- Looking for a native value of the id of a loaded type means looking for it under the native key
of the id. -/
structure Identifies (env : Environment) (R : Registry) (t : TypeRef) (m : Metadata)
    (f : MappedField) (v : Value) : Prop where
  loaded : R.find? t = some m
  unbound : m.binding = none
  isId : m.id? = some f
  entry : m.findNative? f.field = some ⟨f.key, f⟩
  plain : '.' ∉ f.key.toList
  native : QueryArgument.toNative env.converters f (.native v) = .ok v

namespace Identifies

theorem run_idClause (h : Identifies env R t m f v) :
    (Persisting.idClause t (.native v)).run ⟨env, R, ev⟩ =
      (.ok (idClauseOf f v), ⟨env, R, ev⟩) := by
  have looked : (Persisting.idLookup t (.native v)).run ⟨env, R, ev⟩ =
      (.ok (f.field, .native v), ⟨env, R, ev⟩) := by
    rw [Persisting.idLookup, run_bind_of_ok (Mapping.run_load_of_found h.loaded), h.isId]
    rfl
  rw [Persisting.idClause, run_bind_of_ok looked]
  rfl

theorem condition_eq (h : Identifies env R t m f v) :
    Condition.ofClauses m env.converters [idClauseOf f v] =
      .ok (some (.compare .equals f.key v)) := by
  have argument : (idClauseOf f v).argument m env.converters (.native v) = .ok v := by
    unfold Clause.argument
    simp only [idClauseOf, h.entry]
    exact h.native
  have comparison : (idClauseOf f v).comparison m env.converters =
      .ok (.compare .equals f.key v) := by
    have native : m.nativePath (idClauseOf f v).path = f.key := by
      rw [Metadata.nativePath, show m.findNative? (idClauseOf f v).path = _ from h.entry]
    rw [Clause.comparison, native]
    show ([QueryArgument.native v].mapM _ >>= _) = _
    rw [List.mapM_cons, argument]
    rfl
  have condition : (idClauseOf f v).condition m env.converters =
      .ok (.compare .equals f.key v) := by
    rw [Clause.condition, comparison]
    rfl
  rw [Condition.ofClauses, Condition.ofClausesAfter, condition]
  show Except.ok (Condition.marked m _) = _
  rw [Condition.marked, h.unbound]
  rfl

theorem run_selectQuery (h : Identifies env R t m f v) :
    (Persisting.selectQuery t [.filter (idClauseOf f v)]).run ⟨env, R, ev⟩ =
      (.ok { name := m.name, condition := some (.compare .equals f.key v) }, ⟨env, R, ev⟩) := by
  have query : SelectQuery.ofCalls m env.converters [.filter (idClauseOf f v)] =
      .ok { name := m.name, condition := some (.compare .equals f.key v) } := by
    rw [SelectQuery.ofCalls]
    show (Condition.ofClauses m env.converters [idClauseOf f v] >>= _) = _
    rw [h.condition_eq]
    rfl
  rw [Persisting.selectQuery, run_bind_of_ok (Mapping.run_load_of_found h.loaded)]
  show (Mapping.ofExcept (SelectQuery.ofCalls m env.converters _)).run _ = _
  rw [query]
  rfl

theorem run_deleteQuery (h : Identifies env R t m f v) :
    (Persisting.deleteQuery t [idClauseOf f v]).run ⟨env, R, ev⟩ =
      (.ok { name := m.name, condition := some (.compare .equals f.key v) }, ⟨env, R, ev⟩) := by
  have query : DeleteQuery.ofClauses m env.converters [idClauseOf f v] =
      .ok { name := m.name, condition := some (.compare .equals f.key v) } := by
    rw [DeleteQuery.ofClauses, h.condition_eq]
    rfl
  rw [Persisting.deleteQuery, run_bind_of_ok (Mapping.run_load_of_found h.loaded)]
  show (Mapping.ofExcept (DeleteQuery.ofClauses m env.converters _)).run _ = _
  rw [query]
  rfl

end Identifies

/-! ### Looking up and deleting -/

theorem Mapping.run_fire_of_willing (env : Environment) (R : Registry) (willing : ev.Willing)
    (p : Phase) (payload : Payload) :
    ∃ ev', (fire p payload).run ⟨env, R, ev⟩ = (.ok (), ⟨env, R, ev'⟩) ∧ ev'.Willing := by
  obtain ⟨ev', run, willing'⟩ := willing.notify p payload
  refine ⟨ev', ?_, willing'⟩
  rw [run_fire, run]

/-- A record that is read without loading anything is read again where nobody refuses. -/
theorem Mapping.run_toEntity_of_willing (loaded : R.find? t = some m)
    (read : (env.read m r.elements).run R = (.ok x, R)) (willing : ev.Willing) :
    ∃ ev', (toEntity t r).run ⟨env, R, ev⟩ = (.ok x, ⟨env, R, ev'⟩) ∧ ev'.Willing := by
  have instantiated : (ofLoading fun env => env.read m r.elements).run ⟨env, R, ev⟩ =
      (.ok x, ⟨env, R, ev⟩) := by
    rw [run_ofLoading, read]
  obtain ⟨ev', fired, willing'⟩ := run_fire_of_willing env R willing .postEntity (.entity x)
  refine ⟨ev', ?_, willing'⟩
  rw [toEntity, run_bind_of_ok (run_load_of_found loaded), readRecord, run_bind_of_ok instantiated,
    run_bind_of_ok fired]
  rfl

namespace Persisting

theorem run_askStore_of_ok {α : Type} {g : Store → Except MapperError α} {a : α} {c : Context}
    (h : g s = .ok a) : (askStore g).run ⟨c, s⟩ = (.ok a, ⟨c, s⟩) := by
  rw [askStore, run_ofStore, h]

/-- What an id is looked for by, and the records that answer to it. -/
theorem run_result_byId (h : Identifies env R t m f v) (willing : ev.Willing) :
    ∃ ev', ev'.Willing ∧
      (result t [.filter (idClauseOf f v)]).run ⟨⟨env, R, ev⟩, s⟩ =
        (((s.records m.name).filter (Store.answersTo f.key v)).mapM fun r =>
          ofMapping (Mapping.toEntity t r) : Persisting (List Instance)).run
          ⟨⟨env, R, ev'⟩, s⟩ := by
  obtain ⟨ev', fired, willing'⟩ := Mapping.run_fire_of_willing env R willing .preQuery
    (.query { name := m.name, condition := some (.compare .equals f.key v) })
  have selected : s.select { name := m.name, condition := some (.compare .equals f.key v) } =
      .ok ((s.records m.name).filter (Store.answersTo f.key v)) :=
    Store.select_eq_filter fun r _ => Store.selects_equals h.plain _ r
  refine ⟨ev', willing', ?_⟩
  rw [result, run_bind_of_ok (run_ofMapping_of_ok h.run_selectQuery s), runSelect,
    run_bind_of_ok (run_ofMapping_of_ok fired s), run_bind_of_ok (run_askStore_of_ok selected)]

theorem run_findById_of_none (h : Identifies env R t m f v) (willing : ev.Willing)
    (absent : (s.records m.name).filter (Store.answersTo f.key v) = []) :
    ∃ ev', (findById t (.native v)).run ⟨⟨env, R, ev⟩, s⟩ = (.ok none, ⟨⟨env, R, ev'⟩, s⟩) ∧
      ev'.Willing := by
  obtain ⟨ev', willing', run⟩ := run_result_byId (s := s) h willing
  rw [absent] at run
  refine ⟨ev', ?_, willing'⟩
  rw [findById, run_bind_of_ok (run_ofMapping_of_ok h.run_idClause s), single]
  rw [run_bind_of_ok run]
  rfl

theorem run_findById_of_one (h : Identifies env R t m f v) (willing : ev.Willing)
    (one : (s.records m.name).filter (Store.answersTo f.key v) = [r])
    (read : (env.read m r.elements).run R = (.ok x, R)) :
    ∃ ev', (findById t (.native v)).run ⟨⟨env, R, ev⟩, s⟩ = (.ok (some x), ⟨⟨env, R, ev'⟩, s⟩) ∧
      ev'.Willing := by
  obtain ⟨ev₁, willing₁, run⟩ := run_result_byId (s := s) h willing
  obtain ⟨ev₂, again, willing₂⟩ := Mapping.run_toEntity_of_willing h.loaded read willing₁
  have reads : ([r].mapM fun r => ofMapping (Mapping.toEntity t r) :
      Persisting (List Instance)).run ⟨⟨env, R, ev₁⟩, s⟩ = (.ok [x], ⟨⟨env, R, ev₂⟩, s⟩) := by
    rw [List.mapM_cons, run_bind_of_ok (run_ofMapping_of_ok again s), List.mapM_nil]
    rfl
  rw [one, reads] at run
  refine ⟨ev₂, ?_, willing₂⟩
  rw [findById, run_bind_of_ok (run_ofMapping_of_ok h.run_idClause s), single, run_bind_of_ok run]
  rfl

theorem run_deleteById (h : Identifies env R t m f v) (willing : ev.Willing) :
    ∃ ev' s', (deleteById t (.native v)).run ⟨⟨env, R, ev⟩, s⟩ =
        (.ok ((s.records m.name).filter (Store.answersTo f.key v)).length, ⟨⟨env, R, ev'⟩, s'⟩) ∧
      ev'.Willing ∧
      s'.records m.name = (s.records m.name).filter fun r => !Store.answersTo f.key v r := by
  obtain ⟨ev', fired, willing'⟩ := Mapping.run_fire_of_willing env R willing .preDeleteQuery
    (.deleteQuery { name := m.name, condition := some (.compare .equals f.key v) })
  have decided : ∀ r ∈ s.records m.name, Condition.selects s.likeMode r
      (some (.compare .equals f.key v)) = .ok (Store.answersTo f.key v r) :=
    fun r _ => Store.selects_equals h.plain _ r
  obtain ⟨count, left⟩ := Store.delete_eq_filter decided
  refine ⟨ev', _, ?_, willing', left⟩
  rw [deleteById, run_bind_of_ok (run_ofMapping_of_ok h.run_idClause s), delete,
    run_bind_of_ok (run_ofMapping_of_ok h.run_deleteQuery s), runDelete,
    run_bind_of_ok (run_ofMapping_of_ok fired s), run_ofStore, count]

end Persisting

/-! ### Writing -/

theorem Mapping.lasting_willing (env : Environment) :
    Lasting env fun c => c.events.Willing where
  loading _ c willing := by
    show Events.Willing (((ofLoading _).run c).2.events)
    rw [run_ofLoading]
    exact willing
  fire p payload c willing := by
    obtain ⟨ev', run, willing'⟩ := run_fire_of_willing c.environment c.registry willing p payload
    show Events.Willing (((Mapping.fire p payload).run c).2.events)
    rw [run]
    exact willing'

namespace Persisting

/-- What a write has answered with is what its record is read as from then on. -/
theorem confirm_eq_ok {c : Context} {tp' : Template} (used : Mapping.Used env c)
    (run : (confirm t r).run ⟨c, s⟩ = (.ok x, tp')) :
    ∃ m R ev, tp' = ⟨⟨env, R, ev⟩, s⟩ ∧ Consistent env R ∧ R.find? t = some m ∧
      (env.read m r.elements).run R = (.ok x, R) := by
  obtain ⟨rfl, reached⟩ := used
  obtain ⟨u, tp₁, first, run⟩ := run_bind_eq_ok.1 run
  obtain ⟨ev₁, rfl⟩ := run_fire_eq_ok first
  obtain ⟨j, tp₂, second, run⟩ := run_bind_eq_ok.1 run
  obtain ⟨u, tp₃, third, last⟩ := run_bind_eq_ok.1 run
  cases last
  obtain ⟨ev₃, rfl⟩ := run_fire_eq_ok third
  obtain ⟨c₂, entity, rfl⟩ := run_ofMapping_eq_ok.1 second
  obtain ⟨m, d, load, rest⟩ := run_bind_eq_ok.1 entity
  obtain ⟨R₁, loaded, rfl⟩ := Mapping.run_ofLoading_eq_ok.1 load
  obtain ⟨grown, found⟩ := reached.consistent.grown_load loaded
  obtain ⟨k, d, reading, rest⟩ := run_bind_eq_ok.1 rest
  obtain ⟨R₂, read, rfl⟩ := Mapping.run_ofLoading_eq_ok.1 reading
  obtain ⟨further, again⟩ := steady_instantiate _ m r.elements _ _ _ grown.consistent read
  obtain ⟨u, d, fired, last⟩ := run_bind_eq_ok.1 rest
  cases last
  rw [Mapping.run_fire] at fired
  obtain ⟨-, rfl⟩ := Prod.mk.inj fired
  exact ⟨m, R₂, ev₃, rfl, further.consistent,
    further.consistent.find?_mono further.le (found m rfl), again R₂ further.consistent (.refl R₂)⟩

end Persisting

/-- The record of an instance has the value of its id under the key. -/
theorem yields_id {valid : Attribute → Prop} {i : Instance}
    (build : Schema.build env.catalog env.config t = .ok m)
    (single : (env.catalog.describe t).isPolymorphic = false) (conforms : Conforms env valid t i)
    (mem : f ∈ m.fields) (leaf : f.type.element? = none) (value : ValueAt env i [f] v)
    (notNull : v ≠ .null) (clear : ¬ Hidden env i [f]) :
    Yields (Consistent env) (env.fieldElements i m.fields) fun es =>
      Keyed.under f.key es = [v] := by
  rw [(built_of_build build).fields] at mem
  refine (yields_finds (.last mem leaf) build single conforms clear).imp ?_
  rintro es ⟨w, value', k, rest, found, keys, under, follow⟩
  rw [levelKeys_single (not_embedded_of_leaf leaf), levelKeys] at keys
  cases keys
  cases value.unique value'
  have kept : shown env v = some v := by
    cases kept : env.keeps v with
    | false => exact absurd (eq_null_of_not_keeps kept) notNull
    | true => rw [shown, if_pos kept]
  rw [kept] at follow
  cases found with
  | none => cases follow
  | some w =>
    cases follow
    exact under

/-- The value of an id is looked for as it is written. -/
theorem toNative_of_valueAt {valid : Attribute → Prop} {i : Instance}
    (built : Built env.catalog env.config t m)
    (single : (env.catalog.describe t).isPolymorphic = false) (conforms : Conforms env valid t i)
    (mem : f ∈ m.fields) (value : ValueAt env i [f] v) (notNull : v ≠ .null) :
    QueryArgument.toNative env.converters f (.native v) = .ok v := by
  rw [built.fields] at mem
  obtain ⟨slot, read, conforms⟩ := conforms.exists_slot single built mem
  cases value with
  | step read rest => cases rest
  | @last _ _ c _ there native =>
    have slotted : Instance.ofSlot slot = .ok c := read.symm.trans there
    cases native with
    | native =>
      obtain ⟨T, initial, x, rfl, type, written⟩ := conforms.native_inv slotted
      have converter : f.converter? = none := by rw [MappedField.converter?, type]; rfl
      have coerce : f.coerce v = T.coerce v := by rw [MappedField.coerce, type]
      have kind : f.kind = .ofShape T.shape := by rw [MappedField.kind, type]; rfl
      unfold QueryArgument.toNative
      simp only [converter, coerce, kind]
      cases shape : T.shape with
      | scalar => exact AttributeType.coerce_of_toValue shape written notNull
      | collection => rfl
      | map => rfl
    | converted reference =>
      unfold QueryArgument.toNative
      simp only [reference]

end EntityMapping
