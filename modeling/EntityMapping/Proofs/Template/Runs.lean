import EntityMapping.Proofs.Conversion.Keys
import EntityMapping.Proofs.Registry.Reachable
import EntityMapping.Proofs.Store.Updating
import EntityMapping.Template

/-!
Runs of a template. The steps on the context leave the store alone, and those on the store leave the
context alone; between them a write touches the store once, so a write that fails before has
changed no record. Whatever a template does, its registry comes about by loading.
-/

namespace EntityMapping

open Effect

/-- What a store makes of a record that is written for a type. -/
def Store.taking (s : Store) (t : TypeRef) (r : Record) :
    WriteMode → Except MapperError Record × Store
  | .insert => s.insert r
  | .update key =>
    if r.contains key then s.update r key else (.error (.missingUpdateKey t.name key), s)

theorem Store.taking_eq_error {s s' : Store} {t : TypeRef} {r : Record} {mode : WriteMode}
    {e : MapperError} (h : s.taking t r mode = (.error e, s')) : s' = s := by
  cases mode with
  | insert =>
    rw [taking, insert] at h
    split at h
    · cases h
      rfl
    · cases h
  | update key =>
    rw [taking] at h
    split at h
    · exact update_eq_error h
    · cases h
      rfl

/-- A record that was taken for an update has a value under the key, and stands now where the
records with that value stood. -/
theorem Store.taking_update_eq_ok {s s' : Store} {t : TypeRef} {r stored : Record} {key : String}
    (h : s.taking t r (.update key) = (.ok stored, s')) :
    stored = r ∧ ∃ id, r.find? key = some id ∧
      s' = s.setRecords r.name (upsert key id r (s.records r.name)) := by
  rw [taking] at h
  split at h
  · exact update_eq_ok h
  · cases h

/-- The record of an instance has the elements of what the instance is written as, and its mark. -/
theorem Mapping.run_toRecord_of_yields {env : Environment} {c c' : Context} {t v : TypeRef}
    {i j : Instance} {n : Metadata} {r : Record} {P : Elements → Prop} (used : Used env c)
    (written : WrittenAs env t i v j) (build : Schema.build env.catalog env.config v = .ok n)
    (fields : Yields (Registry.Consistent env) (env.fieldElements j n.fields) P)
    (run : (toRecord t i).run c = (.ok r, c')) :
    ∃ es, P es ∧ r = .ofElements n.name (es ++ n.marks) := by
  obtain ⟨rfl, reached⟩ := used
  obtain ⟨m, s, es, n', loaded, elements, rfl⟩ := run_toRecord_eq_ok run
  obtain ⟨build', consistent⟩ := yields_load t _ _ _ reached.consistent loaded
  obtain ⟨⟨same, es, h, rfl⟩, -⟩ :=
    yields_elementsWith build' written build fields _ _ _ consistent elements
  have same : n' = n := same
  subst same
  exact ⟨es, h, rfl⟩

namespace Persisting

variable {env : Environment} {α β : Type} {tp tp' : Template} {t : TypeRef} {i x : Instance}
  {mode : WriteMode}

/-! ### Steps -/

theorem run_ofMapping (f : Mapping α) (tp : Template) :
    (ofMapping f).run tp = ((f.run tp.context).1, { tp with context := (f.run tp.context).2 }) := by
  rw [ofMapping, run_bind_of_ok (run_get tp)]
  rcases f.run tp.context with ⟨e | a, c⟩ <;> rfl

theorem run_ofStore (f : Store → Except MapperError α × Store) (tp : Template) :
    (ofStore f).run tp = ((f tp.store).1, { tp with store := (f tp.store).2 }) := by
  rw [ofStore, run_bind_of_ok (run_get tp)]
  rcases f tp.store with ⟨e | a, s⟩ <;> rfl

theorem run_ofMapping_eq_ok {f : Mapping α} {a : α} :
    (ofMapping f).run tp = (.ok a, tp') ↔
      ∃ c, f.run tp.context = (.ok a, c) ∧ tp' = { tp with context := c } := by
  rw [run_ofMapping]
  constructor
  · intro h
    obtain ⟨answer, rfl⟩ := Prod.mk.inj h
    exact ⟨_, Prod.ext answer rfl, rfl⟩
  · rintro ⟨c, run, rfl⟩
    rw [run]

theorem run_ofMapping_of_ok {f : Mapping α} {a : α} {c c' : Context} (h : f.run c = (.ok a, c'))
    (s : Store) : (ofMapping f).run ⟨c, s⟩ = (.ok a, ⟨c', s⟩) := run_ofMapping_eq_ok.2 ⟨c', h, rfl⟩

theorem run_write (r : Record) (tp : Template) :
    (write t r mode).run tp =
      ((tp.store.taking t r mode).1, { tp with store := (tp.store.taking t r mode).2 }) := by
  cases mode with
  | insert => exact run_ofStore (·.insert r) tp
  | update key =>
    rw [write, Store.taking]
    split
    · exact run_ofStore (·.update r key) tp
    · rfl

theorem run_fire_eq_ok {p : Phase} {payload : Payload} {u : Unit}
    (h : (ofMapping (Mapping.fire p payload)).run tp = (.ok u, tp')) :
    ∃ events, tp' = { tp with context := { tp.context with events } } := by
  obtain ⟨c, fired, rfl⟩ := run_ofMapping_eq_ok.1 h
  rw [Mapping.run_fire] at fired
  obtain ⟨-, rfl⟩ := Prod.mk.inj fired
  exact ⟨_, rfl⟩

/-! ### What is kept -/

theorem keeps_ofMapping {P : Context → Prop} {f : Mapping α} (h : Keeps P f.run) :
    Keeps (fun tp : Template => P tp.context) (ofMapping f).run := by
  intro tp used
  show P ((ofMapping f).run tp).2.context
  rw [run_ofMapping]
  exact h _ used

theorem keeps_write {P : Context → Prop} (r : Record) :
    Keeps (fun tp : Template => P tp.context) (write t r mode).run := by
  intro tp used
  show P ((write t r mode).run tp).2.context
  rw [run_write]
  exact used

theorem store_ofMapping {f : Mapping α} {answer : Except MapperError α}
    (run : (ofMapping f).run tp = (answer, tp')) : tp'.store = tp.store := by
  rw [run_ofMapping] at run
  obtain ⟨-, rfl⟩ := Prod.mk.inj run
  rfl

/-! ### Writes -/

/-- What follows the taking of a record, up to the answer. -/
def confirm (t : TypeRef) (stored : Record) : Persisting Instance := do
  ofMapping (Mapping.fire .postRecord (.record stored))
  let j ← ofMapping (Mapping.toEntity t stored)
  ofMapping (Mapping.fire .postMappedEntity (.entity j))
  pure j

theorem store_confirm {stored : Record} {answer : Except MapperError Instance}
    (run : (confirm t stored).run tp = (answer, tp')) : tp'.store = tp.store := by
  obtain ⟨e, -, failed⟩ | ⟨u, tp₁, fired, run⟩ := run_bind_eq run
  · exact store_ofMapping failed
  obtain ⟨e, -, failed⟩ | ⟨j, tp₂, read, run⟩ := run_bind_eq run
  · exact (store_ofMapping failed).trans (store_ofMapping fired)
  obtain ⟨e, -, failed⟩ | ⟨u, tp₃, shown, run⟩ := run_bind_eq run
  · exact (store_ofMapping failed).trans ((store_ofMapping read).trans (store_ofMapping fired))
  cases run
  exact (store_ofMapping shown).trans ((store_ofMapping read).trans (store_ofMapping fired))

/-- A write either fails with the store as it was, or gives the record of the instance to the store,
which keeps it whatever comes afterwards. -/
theorem run_persist {answer : Except MapperError Instance}
    (run : (persist t i mode).run tp = (answer, tp')) :
    ((∃ e, answer = .error e) ∧ tp'.store = tp.store) ∨
      ∃ r c events stored s, (Mapping.toRecord t i).run tp.context = (.ok r, c) ∧
        tp.store.taking t r mode = (.ok stored, s) ∧ tp'.store = s ∧
        (confirm t stored).run { context := { c with events }, store := s } = (answer, tp') := by
  obtain ⟨e, rfl, failed⟩ | ⟨r, tp₁, written, run⟩ := run_bind_eq run
  · exact .inl ⟨⟨e, rfl⟩, (store_ofMapping failed :)⟩
  obtain ⟨c, recorded, rfl⟩ := run_ofMapping_eq_ok.1 written
  obtain ⟨e, rfl, failed⟩ | ⟨u, tp₁, fired, run⟩ := run_bind_eq run
  · exact .inl ⟨⟨e, rfl⟩, (store_ofMapping failed :)⟩
  obtain ⟨events, rfl⟩ := run_fire_eq_ok fired
  obtain ⟨e, rfl, failed⟩ | ⟨u, tp₁, fired, run⟩ := run_bind_eq run
  · exact .inl ⟨⟨e, rfl⟩, (store_ofMapping failed :)⟩
  obtain ⟨events, rfl⟩ := run_fire_eq_ok fired
  obtain ⟨e, rfl, failed⟩ | ⟨stored, tp₁, taken, run⟩ := run_bind_eq run
  · rw [run_write] at failed
    obtain ⟨refused, rfl⟩ := Prod.mk.inj failed
    exact .inl ⟨⟨e, rfl⟩, Store.taking_eq_error (Prod.ext refused rfl)⟩
  rw [run_write] at taken
  obtain ⟨accepted, rfl⟩ := Prod.mk.inj taken
  exact .inr ⟨r, c, events, stored, _, recorded, Prod.ext accepted rfl, store_confirm run, run⟩

theorem keeps_confirm {P : Context → Prop} (h : Mapping.Lasting env P) (t : TypeRef)
    (stored : Record) : Keeps (fun tp : Template => P tp.context) (confirm t stored).run :=
  (keeps_ofMapping (h.fire _ _)).bind fun _ =>
    (keeps_ofMapping (h.toEntity t stored)).bind fun j =>
      (keeps_ofMapping (h.fire _ _)).bind fun _ => .ok j

theorem keeps_persist {P : Context → Prop} (h : Mapping.Lasting env P) (t : TypeRef) (i : Instance)
    (mode : WriteMode) : Keeps (fun tp : Template => P tp.context) (persist t i mode).run :=
  (keeps_ofMapping (h.toRecord t i)).bind fun r =>
    (keeps_ofMapping (h.fire _ _)).bind fun _ => (keeps_ofMapping (h.fire _ _)).bind fun _ =>
      (keeps_write r).bind (keeps_confirm h t)

/-! ### Updates -/

/-- The key of an id is that of what the instance is written as. -/
theorem run_idKey_eq_ok {v : TypeRef} {j : Instance} {n : Metadata} {key : String}
    (used : Mapping.Used env tp.context) (written : WrittenAs env t i v j)
    (build : Schema.build env.catalog env.config v = .ok n)
    (run : (idKey t i).run tp = (.ok key, tp')) :
    ∃ f, n.id? = some f ∧ key = f.key := by
  obtain ⟨environment, reached⟩ := used
  obtain ⟨c, run, -⟩ := run_ofMapping_eq_ok.1 run
  obtain ⟨m, c₁, first, run⟩ := run_bind_eq_ok.1 run
  obtain ⟨r, loaded, rfl⟩ := Mapping.run_ofLoading_eq_ok.1 first
  rw [environment] at loaded
  obtain ⟨build', consistent⟩ := yields_load t _ _ _ reached.consistent loaded
  obtain ⟨k, c₂, second, run⟩ := run_bind_eq_ok.1 run
  obtain ⟨single, rfl⟩ := Mapping.run_ofExcept_eq_ok.1 second
  obtain ⟨n', c₃, third, run⟩ := run_bind_eq_ok.1 run
  obtain ⟨r', asked, rfl⟩ := Mapping.run_ofLoading_eq_ok.1 third
  obtain ⟨⟨u, written', build''⟩, -⟩ :=
    yields_concreteMetadata (fun _ h => h) build' single _ _ _ consistent asked
  obtain ⟨rfl, rfl⟩ := written.unique written'
  have same : n = n' := Except.ok.inj (build.symm.trans build'')
  subst same
  obtain ⟨f, c₄, fourth, last⟩ := run_bind_eq_ok.1 run
  cases last
  obtain ⟨id, -⟩ := Mapping.run_ofExcept_eq_ok.1 fourth
  exact ⟨f, Metadata.id_eq_ok.1 id, rfl⟩

theorem keeps_idKey {P : Context → Prop} (h : Mapping.Lasting env P) (t : TypeRef) (i : Instance) :
    Keeps (fun tp : Template => P tp.context) (idKey t i).run :=
  keeps_ofMapping <| (h.loading (.load t)).bind fun m =>
    (Mapping.keeps_ofExcept _).bind fun j =>
      (h.loading (Environment.passedOn_onlyLoads.concreteMetadata m j)).bind fun _ =>
        (Mapping.keeps_ofExcept _).bind fun f => .ok f.key

theorem keeps_update {P : Context → Prop} (h : Mapping.Lasting env P) (t : TypeRef) (i : Instance) :
    Keeps (fun tp : Template => P tp.context) (update t i).run :=
  (keeps_idKey h t i).bind fun key => keeps_persist h t i (.update key)

/-- An update either fails with the store as it was, or it upserts the record of the instance under
the key of its id, whatever value the record has there. -/
theorem run_update {v : TypeRef} {j : Instance} {n : Metadata} {P : Elements → Prop}
    {answer : Except MapperError Instance} (used : Mapping.Used env tp.context)
    (written : WrittenAs env t i v j) (build : Schema.build env.catalog env.config v = .ok n)
    (fields : Yields (Registry.Consistent env) (env.fieldElements j n.fields) P)
    (run : (update t i).run tp = (answer, tp')) :
    ((∃ e, answer = .error e) ∧ tp'.store = tp.store) ∨
      ∃ f r id, n.id? = some f ∧ (∃ es, P es ∧ r = .ofElements n.name (es ++ n.marks)) ∧
        r.find? f.key = some id ∧
        tp'.store = tp.store.setRecords n.name
          (Store.upsert f.key id r (tp.store.records n.name)) ∧
        ∃ c, Mapping.Used env c ∧ (confirm t r).run ⟨c, tp'.store⟩ = (answer, tp') := by
  obtain ⟨e, rfl, failed⟩ | ⟨key, tp₁, keyed, run⟩ := run_bind_eq run
  · exact .inl ⟨⟨e, rfl⟩, store_ofMapping failed⟩
  obtain ⟨f, id, rfl⟩ := run_idKey_eq_ok used written build keyed
  have store := store_ofMapping keyed
  have used₁ : Mapping.Used env tp₁.context := by
    have kept : Mapping.Used env ((idKey t i).run tp).2.context :=
      keeps_idKey Mapping.lasting_used t i tp used
    rwa [keyed] at kept
  obtain ⟨error, same⟩ | ⟨r, c, events, stored, s, recorded, taken, rfl, confirmed⟩ :=
    run_persist run
  · exact .inl ⟨error, same.trans store⟩
  obtain ⟨rfl, x, found, upserted⟩ := Store.taking_update_eq_ok taken
  obtain ⟨es, h, rfl⟩ := Mapping.run_toRecord_of_yields used₁ written build fields recorded
  refine .inr ⟨f, _, x, id, ⟨es, h, rfl⟩, found, ?_, _, ?_, confirmed⟩
  · rw [upserted, store]
    rfl
  · have kept : Mapping.Used env ((Mapping.toRecord t i).run tp₁.context).2 :=
      Mapping.keeps_toRecord t i _ used₁
    rwa [recorded] at kept

end Persisting

end EntityMapping
