import EntityMapping.Proofs.Registry.Consistency

/-!
What loading does to a registry. Whatever is asked for, the registry stays consistent and only
grows, also when a load fails; a type that was loaded is found afterwards. A type that has been
loaded once can be loaded again from every registry on the way.
-/

namespace EntityMapping.Registry

open Effect

variable {env : Environment} {r s R : Registry} {m : Metadata} {t : TypeRef}
  {fresh : List TypeRef}

/-! ### Entering -/

theorem run_enter (m : Metadata) (r : Registry) :
    (enter m).run r =
      match r.tie m with
      | .error e => (.error e, r)
      | .ok s => (.ok (((s.keep m).find? m.type).getD m), s.keep m) := by
  rw [enter, run_bind_of_ok (run_get r)]
  cases r.tie m <;> rfl

/-- What a step of loading leaves behind, if it may only add to a registry. -/
structure Grown (env : Environment) (r s : Registry) : Prop where
  consistent : Consistent env s
  le : Le r s

theorem Consistent.grown (h : Consistent env r) : Grown env r r := ⟨h, .refl r⟩

theorem Grown.trans {u : Registry} (h : Grown env r s) (g : Grown env s u) : Grown env r u :=
  ⟨g.consistent, h.le.trans g.le⟩

theorem Consistent.grown_enter (h : Consistent env r)
    (build : Schema.build env.catalog env.config m.type = .ok m)
    (variants : ∀ v ∈ m.variants, v ∈ r.loaded.map (·.type)) {answer : Except MapperError Metadata}
    (run : (enter m).run r = (answer, s)) :
    Grown env r s ∧ ∀ n, answer = .ok n → n = m ∧ s.find? m.type = some m := by
  rw [run_enter] at run
  cases tie : r.tie m with
  | error e =>
    rw [tie] at run
    cases run
    exact ⟨h.grown, nofun⟩
  | ok u =>
    obtain ⟨consistent, le, found⟩ := h.keep build variants (h.tied build tie)
    simp only [tie, found, Option.getD_some] at run
    cases run
    exact ⟨⟨consistent, le⟩, fun n hn => ⟨(Except.ok.inj hn).symm, found⟩⟩

/-! ### Loading -/

theorem run_loadFrom (env : Environment) (fresh : List TypeRef) (t : TypeRef) (r : Registry) :
    (env.loadFrom fresh t).run r =
      match r.find? t with
      | some m => (.ok m, r)
      | none =>
        if t ∈ fresh then
          match Schema.build env.catalog env.config t with
          | .error e => (.error e, r)
          | .ok m =>
            (env.loadAllFrom (fresh.erase t) m.variants >>= fun _ => enter m).run r
        else (.error (.endless t.name), r) := by
  rw [Environment.loadFrom, run_bind_of_ok (run_get r)]
  cases r.find? t with
  | some m => rfl
  | none =>
    by_cases mem : t ∈ fresh
    · simp only [dif_pos mem, if_pos mem]
      cases Schema.build env.catalog env.config t <;> rfl
    · simp only [dif_neg mem, if_neg mem, run_throw]

theorem run_loadAllFrom_cons (env : Environment) (fresh ts : List TypeRef) (t : TypeRef)
    (r : Registry) :
    (env.loadAllFrom fresh (t :: ts)).run r =
      (env.loadFrom fresh t >>= fun _ => env.loadAllFrom fresh ts).run r := by
  rw [Environment.loadAllFrom]

/-- What the load of a type comes to: the type is there, or it is refused, or the load of a variant
fails, or the type is entered behind its variants. -/
inductive LoadRun (env : Environment) (fresh : List TypeRef) (t : TypeRef) (r : Registry) :
    Except MapperError Metadata → Registry → Prop where
  | known {m : Metadata} (found : r.find? t = some m) : LoadRun env fresh t r (.ok m) r
  | endless (new : r.find? t = none) (begun : t ∉ fresh) :
      LoadRun env fresh t r (.error (.endless t.name)) r
  | refused {e : MapperError} (new : r.find? t = none) (mem : t ∈ fresh)
      (build : Schema.build env.catalog env.config t = .error e) :
      LoadRun env fresh t r (.error e) r
  | failed {m : Metadata} {e : MapperError} {s : Registry} (new : r.find? t = none)
      (mem : t ∈ fresh) (build : Schema.build env.catalog env.config t = .ok m)
      (below : (env.loadAllFrom (fresh.erase t) m.variants).run r = (.error e, s)) :
      LoadRun env fresh t r (.error e) s
  | entered {m : Metadata} {u s : Registry} {answer : Except MapperError Metadata}
      (new : r.find? t = none) (mem : t ∈ fresh)
      (build : Schema.build env.catalog env.config t = .ok m)
      (below : (env.loadAllFrom (fresh.erase t) m.variants).run r = (.ok (), u))
      (last : (enter m).run u = (answer, s)) : LoadRun env fresh t r answer s

theorem loadRun {answer : Except MapperError Metadata}
    (run : (env.loadFrom fresh t).run r = (answer, s)) : LoadRun env fresh t r answer s := by
  rw [run_loadFrom] at run
  cases new : r.find? t with
  | some m =>
    rw [new] at run
    cases run
    exact .known new
  | none =>
    simp only [new] at run
    split at run
    · rename_i mem
      cases build : Schema.build env.catalog env.config t with
      | error e =>
        rw [build] at run
        cases run
        exact .refused new mem build
      | ok m =>
        simp only [build] at run
        obtain ⟨e, rfl, below⟩ | ⟨_, u, below, last⟩ := run_bind_eq run
        · exact .failed new mem build below
        · exact .entered new mem build below last
    · rename_i begun
      cases run
      exact .endless new begun

/-- Loading keeps a registry consistent and everything that is in it, and a type that it answers
for is found afterwards. -/
theorem grown_loadFrom (env : Environment) :
    (∀ (fresh : List TypeRef) (t : TypeRef) {r s : Registry} {answer}, Consistent env r →
      (env.loadFrom fresh t).run r = (answer, s) →
        Grown env r s ∧ ∀ m, answer = .ok m → s.find? t = some m) ∧
    (∀ (fresh ts : List TypeRef) {r s : Registry} {answer}, Consistent env r →
      (env.loadAllFrom fresh ts).run r = (answer, s) →
        Grown env r s ∧ ∀ x, answer = .ok x → ∀ t ∈ ts, t ∈ s.loaded.map (·.type)) := by
  refine Environment.loadFrom.mutual_induct _ _ ?_ ?_ ?_
  · intro fresh t variants r s answer h run
    cases loadRun run with
    | known found => exact ⟨h.grown, fun n hn => Except.ok.inj hn ▸ found⟩
    | endless | refused => exact ⟨h.grown, fun n hn => by cases hn⟩
    | failed _ mem _ below => exact ⟨(variants mem _ h below).1, fun n hn => by cases hn⟩
    | entered _ mem build below last =>
      have type := (Schema.built_of_build build).type
      obtain ⟨grown, there⟩ := variants mem _ h below
      obtain ⟨entered, same⟩ := grown.consistent.grown_enter (type.symm ▸ build) (there _ rfl) last
      refine ⟨grown.trans entered, fun n hn => ?_⟩
      obtain ⟨rfl, found⟩ := same n hn
      exact type ▸ found
  · intro fresh r s answer h run
    rw [Environment.loadAllFrom] at run
    cases run
    exact ⟨h.grown, fun _ _ v hv => by cases hv⟩
  · intro fresh t ts first rest r s answer h run
    rw [run_loadAllFrom_cons, run_bind] at run
    rcases one : (env.loadFrom fresh t).run r with ⟨e | m, u⟩
    · rw [one] at run
      cases run
      exact ⟨(first h one).1, fun _ hx => by cases hx⟩
    · rw [one] at run
      obtain ⟨grown, found⟩ := first h one
      obtain ⟨further, there⟩ := rest grown.consistent run
      refine ⟨grown.trans further, fun x hx v hv => ?_⟩
      rcases List.mem_cons.1 hv with rfl | hv
      · exact List.map_subset _ further.le.loaded (mem_types_of_find? (found m rfl))
      · exact there x hx v hv

theorem Consistent.grown_load (h : Consistent env r) {answer : Except MapperError Metadata}
    (run : (env.load t).run r = (answer, s)) :
    Grown env r s ∧ ∀ m, answer = .ok m → s.find? t = some m :=
  (grown_loadFrom env).1 _ _ h run

/-! ### Loading again -/

/-- A step of loading answers, and leaves a registry with nothing that `R` does not have. -/
def Answers {α : Type} (env : Environment) (R r : Registry) (x : Loading α) (a : α) : Prop :=
  ∃ s, x.run r = (.ok a, s) ∧ Grown env r s ∧ Le s R

theorem Answers.pure {α : Type} (h : Consistent env r) (le : Le r R) (a : α) :
    Answers env R r (Pure.pure a) a := ⟨r, rfl, h.grown, le⟩

theorem Answers.bind {α β : Type} {x : Loading α} {f : α → Loading β} {a : α} {b : β}
    (hx : Answers env R r x a)
    (hf : ∀ s, x.run r = (.ok a, s) → Grown env r s → Le s R → Answers env R s (f a) b) :
    Answers env R r (x >>= f) b := by
  obtain ⟨s, run, grown, le⟩ := hx
  obtain ⟨u, run', grown', le'⟩ := hf s run grown le
  exact ⟨u, (run_bind_of_ok run).trans run', grown.trans grown', le'⟩

/-- A type of a registry can be entered into every smaller one that has its variants. -/
theorem Consistent.answers_enter (hR : Consistent env R) (hm : m ∈ R.loaded)
    (h : Consistent env r) (le : Le r R) (variants : ∀ v ∈ m.variants, v ∈ r.loaded.map (·.type)) :
    Answers env R r (enter m) m := by
  have build := hR.built m hm
  have free : ∀ b, m.binding = some b → ∀ c ∈ r.bindings, rivals b c = true →
      c.entity = m.type := by
    intro b hb c hc rival
    rw [← hR.apart b (hR.bound m hm b hb) c (le.bindings hc) rival]
    exact (hR.builtOf hm).entity_eq hb
  obtain ⟨u, tie⟩ := tie_of_no_rival free
  have tied := h.tied build tie
  obtain ⟨consistent, grown, found⟩ := h.keep build variants tied
  have run : (enter m).run r = (.ok m, u.keep m) := by
    rw [run_enter]
    simp only [tie, found, Option.getD_some]
  refine ⟨_, run, ⟨consistent, grown⟩, ⟨?_, ?_⟩⟩
  · intro n hn
    cases there : u.find? m.type with
    | some k =>
      rw [loaded_keep_of_found there, tied.loaded] at hn
      exact le.loaded hn
    | none =>
      rw [keep_of_new there, tied.loaded] at hn
      rcases List.mem_append.1 hn with hn | hn
      · exact le.loaded hn
      · exact List.mem_singleton.1 hn ▸ hm
  · intro b hb
    have hb : b ∈ u.bindings := by
      unfold Registry.keep at hb
      split at hb <;> exact hb
    rcases (tied.mem b).1 hb with hb | hb
    · exact le.bindings hb
    · exact hR.bound m hm b hb

theorem answers_loadAllFrom {ts : List TypeRef} (h : Consistent env r) (le : Le r R)
    (each : ∀ t ∈ ts, ∀ r, Consistent env r → Le r R →
      ∃ m, Answers env R r (env.loadFrom fresh t) m) :
    Answers env R r (env.loadAllFrom fresh ts) () := by
  induction ts generalizing r with
  | nil =>
    rw [Environment.loadAllFrom]
    exact .pure h le ()
  | cons t ts ih =>
    obtain ⟨m, one⟩ := each t (List.mem_cons_self ..) r h le
    rw [Environment.loadAllFrom]
    exact one.bind fun s _ grown le =>
      ih grown.consistent le fun v hv => each v (List.mem_cons_of_mem _ hv)

/-- The types that stand below a place in a registry can be loaded from every smaller one. -/
theorem Consistent.answers_loadFrom (hR : Consistent env R) {ms : List Metadata}
    (stacked : Stacked ms) (sub : ms ⊆ R.loaded) {fresh : List TypeRef}
    (enough : ∀ n ∈ ms, n.type ∈ fresh) (hm : m ∈ ms) (h : Consistent env r) (le : Le r R) :
    Answers env R r (env.loadFrom fresh m.type) m := by
  induction stacked generalizing fresh m r with
  | nil => cases hm
  | @snoc ms n below new variants ih =>
    have sub' : ms ⊆ R.loaded := fun k hk => sub (List.mem_append_left _ hk)
    rcases List.mem_append.1 hm with hm | hm
    · exact ih sub' (fun k hk => enough k (List.mem_append_left _ hk)) hm h le
    · obtain rfl := List.mem_singleton.1 hm
      have there := sub (List.mem_append_right ms (List.mem_singleton_self m))
      have mem := enough m (List.mem_append_right ms (List.mem_singleton_self m))
      cases found : r.find? m.type with
      | some k =>
        have same := hR.find?_mono le found
        rw [hR.find?_eq_some.2 ⟨there, rfl⟩] at same
        cases same
        refine ⟨r, ?_, h.grown, le⟩
        rw [run_loadFrom, found]
      | none =>
        have each : ∀ v ∈ m.variants, ∀ r, Consistent env r → Le r R →
            ∃ k, Answers env R r (env.loadFrom (fresh.erase m.type) v) k := by
          intro v hv r h le
          obtain ⟨k, hk, rfl⟩ := List.mem_map.1 (variants v hv)
          refine ⟨k, ih sub' (fun j hj => ?_) hk h le⟩
          have other : j.type ≠ m.type := fun same => new (same ▸ List.mem_map.2 ⟨j, hj, rfl⟩)
          exact (List.mem_erase_of_ne other).2 (enough j (List.mem_append_left _ hj))
        have step : Answers env R r
            (env.loadAllFrom (fresh.erase m.type) m.variants >>= fun _ => enter m) m := by
          refine (answers_loadAllFrom h le each).bind fun s run grown le => ?_
          have loaded := ((grown_loadFrom env).2 _ _ h run).2 () rfl
          exact hR.answers_enter there grown.consistent le loaded
        obtain ⟨s, run, rest⟩ := step
        refine ⟨s, ?_, rest⟩
        rw [run_loadFrom, found]
        simp only [if_pos mem, hR.built m there]
        exact run

theorem Consistent.answers_load (hR : Consistent env R) (found : R.find? t = some m)
    (h : Consistent env r) (le : Le r R) : Answers env R r (env.load t) m := by
  obtain ⟨hm, rfl⟩ := find?_of_some found
  exact hR.answers_loadFrom hR.stacked (fun k hk => hk)
    (fun k hk => (hR.builtOf hk).mem_types) hm h le

/-! ### What is answered -/

theorem run_ask {α : Type} (f : Registry → Except MapperError α) (r : Registry) :
    (ask f).run r = (f r, r) := by
  rw [ask, run_bind_of_ok (run_get r)]
  cases f r <;> rfl

theorem run_ask_of_ok {α : Type} {f : Registry → Except MapperError α} {a : α} (h : f r = .ok a) :
    (ask f).run r = (.ok a, r) := by
  rw [run_ask, h]

theorem run_ask_eq_ok {α : Type} {f : Registry → Except MapperError α} {a : α} :
    (ask f).run r = (.ok a, s) ↔ f r = .ok a ∧ s = r := by
  rw [run_ask, Prod.mk.injEq, eq_comm (b := s)]

theorem yields_ask {α : Type} {I : Registry → Prop} (f : Registry → Except MapperError α) :
    Yields I (ask f) fun a => ∃ r, I r ∧ f r = .ok a := by
  intro r a s hr run
  obtain ⟨answer, rfl⟩ := run_ask_eq_ok.1 run
  exact ⟨⟨s, hr, answer⟩, hr⟩

/-- The registries that loading brings about on the way to `R`. -/
def Within (env : Environment) (R : Registry) (r : Registry) : Prop := Consistent env r ∧ Le r R

theorem yields_load_within (hR : Consistent env R) (found : R.find? t = some m) :
    Yields (Within env R) (env.load t) (· = m) := by
  intro r a s within run
  obtain ⟨u, run', grown, le⟩ := hR.answers_load found within.1 within.2
  rw [run'] at run
  cases run
  exact ⟨rfl, grown.consistent, le⟩

theorem Answers.ask {α : Type} {f : Registry → Except MapperError α} {a : α}
    (h : Consistent env r) (le : Le r R) (answer : f r = .ok a) : Answers env R r (ask f) a :=
  ⟨r, run_ask_of_ok answer, h.grown, le⟩

theorem known_eq_ok : r.known t = .ok m ↔ r.find? t = some m := by
  rw [known]
  cases r.find? t with
  | none => exact ⟨nofun, nofun⟩
  | some n => exact ⟨fun h => by cases h; rfl, fun h => by cases h; rfl⟩

end EntityMapping.Registry
