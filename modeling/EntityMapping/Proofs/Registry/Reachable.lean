import EntityMapping.Conversion.Entity
import EntityMapping.Proofs.Conversion.Steps
import EntityMapping.Proofs.Registry.Loading
import Mathlib

/-!
Registries that come about by use. Loading is the only thing that changes a registry, so what
writing and reading leave behind could have been loaded as well, and has everything that was there
before. Every registry that comes about is consistent.

Fixed runs in such contexts are evaluated by the equations of the state monads, for which the
library is imported as a whole.
-/

namespace EntityMapping

open Effect

variable {env : Environment}

/-- A registry that comes about by loading types one after the other, with or without success. -/
inductive Registry.Reachable (env : Environment) : Registry → Prop where
  | empty : Reachable env {}
  | load {r : Registry} (before : Reachable env r) (t : TypeRef) :
      Reachable env ((env.load t).run r).2

theorem Registry.Reachable.consistent {r : Registry} (h : Reachable env r) : Consistent env r := by
  induction h with
  | empty => exact consistent_empty
  | load before t ih => exact (ih.grown_load rfl).1.consistent

namespace Environment

open Registry (Reachable)

/-- A step changes a registry only by loading: it keeps whatever all loads keep. -/
def OnlyLoads (env : Environment) {α : Type} (x : StateM Registry α) : Prop :=
  ∀ P : Registry → Prop, (∀ t, Keeps P (env.load t).run) → Keeps P x

namespace OnlyLoads

variable {α β : Type}

theorem load (t : TypeRef) : OnlyLoads env (env.load t).run := fun _ h => h t

theorem pure (a : α) : OnlyLoads env (pure a : StateM Registry α) := fun _ _ => .pure a

theorem seq {x : StateM Registry α} {f : α → StateM Registry β} (hx : OnlyLoads env x)
    (hf : ∀ a, OnlyLoads env (f a)) : OnlyLoads env (x >>= f) :=
  fun P h => (hx P h).seq fun a => hf a P h

theorem ok (a : α) : OnlyLoads env (Pure.pure a : Loading α).run := fun _ _ => .ok a

theorem throw (e : MapperError) : OnlyLoads env (throw e : Loading α).run := fun _ _ => .throw e

theorem lift {x : StateM Registry α} (hx : OnlyLoads env x) :
    OnlyLoads env (liftM x : Loading α).run := hx

theorem bind {x : Loading α} {f : α → Loading β} (hx : OnlyLoads env x.run)
    (hf : ∀ a, OnlyLoads env (f a).run) : OnlyLoads env (x >>= f).run :=
  fun P h => (hx P h).bind fun a => hf a P h

theorem ask (f : Registry → Except MapperError α) : OnlyLoads env (Registry.ask f).run := by
  refine fun P _ => Keeps.get.bind fun r => ?_
  cases f r with
  | error e => exact .throw e
  | ok a => exact .ok a

theorem ofExcept (x : Except MapperError α) : OnlyLoads env (Loading.ofExcept x).run := by
  cases x with
  | error e => exact throw e
  | ok a => exact ok a

theorem grows {x : StateM Registry α} (h : OnlyLoads env x) (R : Registry) :
    Keeps (fun r => Reachable env r ∧ Registry.Le R r) x :=
  h _ fun t _ ⟨before, le⟩ =>
    ⟨.load before t, le.trans (before.consistent.grown_load rfl).1.le⟩

end OnlyLoads

/-! ### Writing -/

theorem passedOn_onlyLoads : PassedOn env fun x => OnlyLoads env x.run where
  pure := .ok
  throw := .throw
  bind := .bind
  load := .load
  known _ := .ask _

theorem onlyLoads_elements :
    (∀ i t, OnlyLoads env (env.elements i t).run) ∧
    (∀ i m, OnlyLoads env (env.elementsWith i m).run) ∧
    (∀ i fs, OnlyLoads env (env.fieldElements i fs).run) ∧
    (∀ f c, OnlyLoads env (env.contentElements f c).run) ∧
    (∀ t os, OnlyLoads env (env.objectRecords t os).run) :=
  passedOn_onlyLoads.elements

/-! ### Reading -/

theorem handedOn_onlyLoads :
    HandedOn env (fun x => OnlyLoads env x.run) (OnlyLoads env) where
  pure := .ok
  throw := .throw
  bind := .bind
  load := .load
  known _ := .ask _
  resolve _ _ _ := .ask _
  fill hx := by
    refine hx.lift.bind fun filled => ?_
    rcases filled with ⟨e | done, i⟩
    · exact .throw e
    · exact .ok i
  nil fresh i es := by
    rw [fillFrom]
    exact .pure _
  cons own rest filled := by
    rw [fillFrom]
    refine own.seq fun answer => ?_
    split
    · exact .pure _
    · exact rest
    · split
      · exact .pure _
      · exact filled _

theorem onlyLoads_instantiate (fresh : List TypeRef) (m : Metadata) (es : Elements) :
    OnlyLoads env (env.instantiate fresh m es).run :=
  handedOn_onlyLoads.instantiate.1 fresh m es

end Environment

/-! ### Contexts -/

namespace Mapping

open Environment

/-- A step on the registry answers as on the registry alone, and touches nothing else. -/
theorem run_ofLoading {α : Type} (f : Environment → Loading α) (c : Context) :
    (ofLoading f).run c =
      (((f c.environment).run c.registry).1,
        { c with registry := ((f c.environment).run c.registry).2 }) := by
  rw [ofLoading, run_bind_of_ok (run_get c)]
  rcases (f c.environment).run c.registry with ⟨e | a, r⟩ <;> rfl

theorem run_ofLoading_eq_ok {α : Type} {f : Environment → Loading α} {c c' : Context} {a : α} :
    (ofLoading f).run c = (.ok a, c') ↔
      ∃ r, (f c.environment).run c.registry = (.ok a, r) ∧ c' = { c with registry := r } := by
  rw [run_ofLoading]
  constructor
  · intro h
    obtain ⟨answer, rfl⟩ := Prod.mk.inj h
    exact ⟨_, Prod.ext answer rfl, rfl⟩
  · rintro ⟨r, run, rfl⟩
    rw [run]

theorem run_load_of_found {c : Context} {t : TypeRef} {m : Metadata}
    (loaded : c.registry.find? t = some m) : (load t).run c = (.ok m, c) := by
  have run : (c.environment.load t).run c.registry = (.ok m, c.registry) := by
    rw [Environment.load, Registry.run_loadFrom, loaded]
  rw [load, run_ofLoading, run]

theorem run_ofExcept_eq_ok {α : Type} {x : Except MapperError α} {c c' : Context} {a : α} :
    (ofExcept x).run c = (.ok a, c') ↔ x = .ok a ∧ c' = c := by
  cases x with
  | error e => exact ⟨nofun, nofun⟩
  | ok b =>
    constructor
    · intro h
      cases h
      exact ⟨rfl, rfl⟩
    · rintro ⟨same, rfl⟩
      cases same
      rfl

theorem run_fire (p : Phase) (payload : Payload) (c : Context) :
    (fire p payload).run c =
      ((c.events.notify p payload).1, { c with events := (c.events.notify p payload).2 }) := by
  rw [fire, run_bind_of_ok (run_get c)]
  rcases c.events.notify p payload with ⟨e | a, events⟩ <;> rfl

/-- A context of an environment whose registry came about by use. -/
def Used (env : Environment) (c : Context) : Prop :=
  c.environment = env ∧ Registry.Reachable env c.registry

/-- A property of contexts outlasts the steps that mappings are made of: those on the registry,
which change it by loading only, and showing something to the listeners. -/
structure Lasting (env : Environment) (P : Context → Prop) : Prop where
  loading : ∀ {α : Type} {f : Environment → Loading α},
    OnlyLoads env (f env).run → Keeps P (ofLoading f).run
  fire : ∀ (p : Phase) (payload : Payload), Keeps P (fire p payload).run

/-- The context stays one of its environment, and its registry keeps what it has. -/
theorem lasting_above (R : Registry) :
    Lasting env fun c => Used env c ∧ Registry.Le R c.registry where
  loading h := by
    rintro c ⟨⟨rfl, reached⟩, le⟩
    show Used c.environment ((ofLoading _).run c).2 ∧ Registry.Le R ((ofLoading _).run c).2.registry
    rw [run_ofLoading]
    obtain ⟨reached, le⟩ := h.grows R _ ⟨reached, le⟩
    exact ⟨⟨rfl, reached⟩, le⟩
  fire p payload c above := by
    show Used env ((Mapping.fire p payload).run c).2 ∧
      Registry.Le R ((Mapping.fire p payload).run c).2.registry
    rw [run_fire]
    exact above

theorem lasting_used : Lasting env (Used env) where
  loading h := fun c used => ((lasting_above c.registry).loading h c ⟨used, .refl _⟩).1
  fire p payload := fun c used => ((lasting_above c.registry).fire p payload c ⟨used, .refl _⟩).1

theorem keeps_ofExcept {α : Type} {P : Context → Prop} (x : Except MapperError α) :
    Keeps P (ofExcept x).run := by
  cases x with
  | error e => exact .throw e
  | ok a => exact .ok a

theorem Lasting.toRecord {P : Context → Prop} (h : Lasting env P) (t : TypeRef) (i : Instance) :
    Keeps P (toRecord t i).run := by
  have written : Keeps P (recordWith t i).run :=
    (h.fire _ _).bind fun _ => (h.loading (.load t)).bind fun m =>
      (h.loading (onlyLoads_elements.2.1 i m)).bind fun _ => .ok _
  exact written.bind fun _ => .ok _

theorem Lasting.toEntity {P : Context → Prop} (h : Lasting env P) (t : TypeRef) (r : Record) :
    Keeps P (toEntity t r).run := by
  have read : ∀ m, Keeps P (readRecord m r).run := fun m =>
    (h.loading (onlyLoads_instantiate _ m r.elements)).bind fun _ =>
      (h.fire _ _).bind fun _ => .ok _
  exact (h.loading (.load t)).bind read

theorem keeps_toRecord (t : TypeRef) (i : Instance) : Keeps (Used env) (toRecord t i).run :=
  lasting_used.toRecord t i

/-! ### Records -/

/-- What a record that was written has in it, the metadata that it follows, and the registry that
writing leaves. -/
theorem run_recordWith_eq_ok {c c' : Context} {t : TypeRef} {i : Instance} {r : Record}
    {n : Metadata} (h : (recordWith t i).run c = (.ok (r, n), c')) :
    ∃ m s es, (c.environment.load t).run c.registry = (.ok m, s) ∧
      (c.environment.elementsWith i m).run s = (.ok (es, n), c'.registry) ∧
      r = .ofElements n.name es := by
  obtain ⟨x, c₁, fired, rest⟩ := run_bind_eq_ok.1 h
  rw [run_fire] at fired
  obtain ⟨-, rfl⟩ := Prod.mk.inj fired
  obtain ⟨m, c₂, loaded, rest⟩ := run_bind_eq_ok.1 rest
  rw [load, run_ofLoading] at loaded
  obtain ⟨answer, rfl⟩ := Prod.mk.inj loaded
  obtain ⟨⟨es, n⟩, c₄, elements, last⟩ := run_bind_eq_ok.1 rest
  cases last
  rw [run_ofLoading] at elements
  obtain ⟨answer', rfl⟩ := Prod.mk.inj elements
  exact ⟨m, _, es, Prod.ext answer rfl, Prod.ext answer' rfl, rfl⟩

theorem run_toRecord_eq_ok {c c' : Context} {t : TypeRef} {i : Instance} {r : Record}
    (h : (toRecord t i).run c = (.ok r, c')) :
    ∃ m s es n, (c.environment.load t).run c.registry = (.ok m, s) ∧
      (c.environment.elementsWith i m).run s = (.ok (es, n), c'.registry) ∧
      r = .ofElements n.name es := by
  obtain ⟨⟨r', n⟩, c₃, written, last⟩ := run_bind_eq_ok.1 h
  cases last
  obtain ⟨m, s, es, loaded, elements, same⟩ := run_recordWith_eq_ok written
  exact ⟨m, s, es, n, loaded, elements, same⟩

/-- Where the elements of a record are read as an instance, the listeners have the last word. -/
theorem run_toEntity_of_read {d : Context} {t : TypeRef} {r : Record} {m : Metadata}
    {s u : Registry} {i : Instance} (loaded : (d.environment.load t).run d.registry = (.ok m, s))
    (read : (d.environment.read m r.elements).run s = (.ok i, u)) :
    ((toEntity t r).run d).1 = (d.events.notify .postEntity (.entity i)).1.map fun _ => i := by
  have first : (load t).run d = (.ok m, { d with registry := s }) := by
    rw [load, run_ofLoading, loaded]
  have second : (ofLoading fun env => env.read m r.elements).run { d with registry := s } =
      (.ok i, { d with registry := u }) := by
    rw [run_ofLoading]
    dsimp only
    rw [read]
  rw [toEntity, run_bind_of_ok first, readRecord, run_bind_of_ok second, run_bind, run_fire]
  dsimp only
  rcases (d.events.notify .postEntity (.entity i)).1 with e | x <;> rfl

end Mapping

end EntityMapping
