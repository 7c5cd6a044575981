import EntityMapping.Proofs.Descent
import EntityMapping.Proofs.Registry.Reachable
import Mathlib.Logic.Relation

/-!
How registries grow. Whatever is loaded, and whether the load succeeds, a registry changes in one
way only: types are entered into it one after the other, each of them new and behind its variants.
So what entering one type does is all that has to be known about any sequence of loads. That an
entered type is new rests on the variants of loaded types: they never lead back to the type.
-/

namespace EntityMapping

open Effect Relation

variable {env : Environment} {t : TypeRef} {m : Metadata}

/-- The declaration of a type is accepted and has another type among its variants. -/
def Environment.Lists (env : Environment) (t v : TypeRef) : Prop :=
  ∃ m, Schema.build env.catalog env.config t = .ok m ∧ v ∈ m.variants

namespace Registry

variable {r s u : Registry} {ms ns : List Metadata}

/-! ### Variants of what is loaded -/

/-- From a loaded type one can descend to variants only so often. -/
theorem Consistent.acc_lists (h : Consistent env r) (stacked : Stacked ms) (sub : ms ⊆ r.loaded)
    (hm : m ∈ ms) : Acc (Function.swap env.Lists) m.type := by
  induction stacked generalizing m with
  | nil => cases hm
  | @snoc ms n below new variants ih =>
    have earlier : ∀ k ∈ ms, Acc (Function.swap env.Lists) k.type :=
      fun k hk => ih (fun l hl => sub (List.mem_append_left _ hl)) hk
    rcases List.mem_append.1 hm with hm | hm
    · exact earlier m hm
    · obtain rfl := List.mem_singleton.1 hm
      refine ⟨_, fun v listed => ?_⟩
      obtain ⟨n, build, hv⟩ := listed
      have same := (h.built m (sub (List.mem_append_right _ hm))).symm.trans build
      cases same
      obtain ⟨k, hk, rfl⟩ := List.mem_map.1 (variants v hv)
      exact earlier k hk

/-- A type that is a variant of itself, directly or through others, is never loaded. -/
theorem Consistent.find?_eq_none_of_cycle (h : Consistent env r) (cycle : TransGen env.Lists t t) :
    r.find? t = none := by
  cases found : r.find? t with
  | none => rfl
  | some m =>
    obtain ⟨hm, rfl⟩ := find?_of_some found
    exact absurd cycle (not_transGen_self_of_acc (h.acc_lists h.stacked (fun _ hk => hk) hm))

/-! ### Entering one type -/

theorem loaded_of_tie (tie : r.tie m = .ok s) : s.loaded = r.loaded := by
  obtain ⟨-, rfl⟩ | ⟨b, -, rfl, -⟩ := tie_eq_ok tie <;> rfl

theorem names_of_tie (tie : r.tie m = .ok s) :
    s.names = if m.binding.isNone then r.names.put m.name m.type else r.names := by
  obtain ⟨unbound, rfl⟩ | ⟨b, bound, rfl, -⟩ := tie_eq_ok tie
  · rw [unbound]
    rfl
  · rw [bound]
    rfl

theorem keep_of_tie (tie : r.tie m = .ok s) (new : r.find? m.type = none) :
    s.keep m = { s with loaded := r.loaded ++ [m] } := by
  have loaded := loaded_of_tie tie
  have new' : s.find? m.type = none := by rw [find?, loaded]; exact new
  rw [keep_of_new new', loaded]

/-- A registry comes from another one by entering types one after the other. Each of them is
accepted and new, and stands behind its variants. -/
inductive Entered (env : Environment) (r : Registry) : List Metadata → Registry → Prop where
  | nil : Entered env r [] r
  | snoc {ms : List Metadata} {m : Metadata} {s u : Registry} (before : Entered env r ms s)
      (build : Schema.build env.catalog env.config m.type = .ok m)
      (variants : ∀ v ∈ m.variants, v ∈ s.loaded.map (·.type)) (new : s.find? m.type = none)
      (tie : s.tie m = .ok u) : Entered env r (ms ++ [m]) (u.keep m)

namespace Entered

theorem trans (h : Entered env r ms s) (g : Entered env s ns u) : Entered env r (ms ++ ns) u := by
  induction g with
  | nil => rwa [List.append_nil]
  | snoc _ build variants new tie ih =>
    rw [← List.append_assoc]
    exact .snoc ih build variants new tie

theorem loaded (h : Entered env r ms s) : s.loaded = r.loaded ++ ms := by
  induction h with
  | nil => rw [List.append_nil]
  | snoc _ _ _ new tie ih => rw [keep_of_tie tie new, ih, List.append_assoc]

theorem grown (h : Entered env r ms s) (consistent : Consistent env r) : Grown env r s := by
  induction h with
  | nil => exact consistent.grown
  | snoc _ build variants _ tie ih =>
    obtain ⟨consistent', le, -⟩ := ih.consistent.keep build variants (ih.consistent.tied build tie)
    exact ih.trans ⟨consistent', le⟩

end Entered

/-! ### Loading -/

/-- Some of a list of types lead, through their variants, to everything that is entered. -/
def Below (env : Environment) (ts : List TypeRef) (ms : List Metadata) : Prop :=
  ∀ k ∈ ms, ∃ t ∈ ts, ReflTransGen env.Lists t k.type

theorem Below.nil (ts : List TypeRef) : Below env ts [] := fun _ hk => absurd hk List.not_mem_nil

theorem Below.single (leads : ∀ k ∈ ms, ReflTransGen env.Lists t k.type) : Below env [t] ms :=
  fun k hk => ⟨t, List.mem_singleton_self t, leads k hk⟩

theorem Below.append {ts us : List TypeRef} (h : Below env ts ms) (g : Below env us ns) :
    Below env (ts ++ us) (ms ++ ns) := by
  intro k hk
  rcases List.mem_append.1 hk with hk | hk
  · obtain ⟨t, ht, leads⟩ := h k hk
    exact ⟨t, List.mem_append_left us ht, leads⟩
  · obtain ⟨t, ht, leads⟩ := g k hk
    exact ⟨t, List.mem_append_right ts ht, leads⟩

theorem Below.of_variants (build : Schema.build env.catalog env.config t = .ok m)
    (h : Below env m.variants ms) : ∀ k ∈ ms, TransGen env.Lists t k.type := by
  intro k hk
  obtain ⟨v, hv, leads⟩ := h k hk
  exact .head' ⟨m, build, hv⟩ leads

/-- Loading the variants of a type does not enter the type: they would lead back to it. -/
theorem Entered.find?_eq_none (h : Entered env r ms s) (consistent : Consistent env s)
    (new : r.find? t = none) (build : Schema.build env.catalog env.config t = .ok m)
    (below : Below env m.variants ms) : s.find? t = none := by
  cases found : s.find? t with
  | none => rfl
  | some k =>
    obtain ⟨hk, type⟩ := find?_of_some found
    rw [h.loaded] at hk
    rcases List.mem_append.1 hk with hk | hk
    · obtain ⟨n, there⟩ := exists_find? (List.mem_map.2 ⟨k, hk, type⟩)
      rw [there] at new
      cases new
    · have cycle : TransGen env.Lists t t := by
        simpa only [type] using below.of_variants build k hk
      rw [consistent.find?_eq_none_of_cycle cycle] at found
      cases found

/-- Entering a type that has been built and whose variants are there either fails and changes
nothing, or enters it. -/
theorem entered_enter (build : Schema.build env.catalog env.config m.type = .ok m)
    (variants : ∀ v ∈ m.variants, v ∈ r.loaded.map (·.type)) (new : r.find? m.type = none)
    {answer : Except MapperError Metadata} (run : (enter m).run r = (answer, s)) :
    ∃ ms, Entered env r ms s ∧ ∀ k ∈ ms, k = m := by
  rw [run_enter] at run
  cases tie : r.tie m with
  | error e =>
    rw [tie] at run
    cases run
    exact ⟨[], .nil, nofun⟩
  | ok u =>
    rw [tie] at run
    cases run
    exact ⟨[m], .snoc .nil build variants new tie, fun k hk => List.mem_singleton.1 hk⟩

/-- Loading enters types to which the type leads through its variants, and does nothing else. -/
theorem entered_loadFrom (env : Environment) :
    (∀ (fresh : List TypeRef) (t : TypeRef) {r s : Registry} {answer}, Consistent env r →
      (env.loadFrom fresh t).run r = (answer, s) → ∃ ms, Entered env r ms s ∧ Below env [t] ms) ∧
    (∀ (fresh ts : List TypeRef) {r s : Registry} {answer}, Consistent env r →
      (env.loadAllFrom fresh ts).run r = (answer, s) →
        ∃ ms, Entered env r ms s ∧ Below env ts ms) := by
  refine Environment.loadFrom.mutual_induct _ _ ?_ ?_ ?_
  · intro fresh t variants r s answer h run
    cases loadRun run with
    | known | endless | refused => exact ⟨[], .nil, .nil _⟩
    | failed _ mem build below =>
      obtain ⟨ms, entered, reached⟩ := variants mem _ h below
      exact ⟨ms, entered, .single fun k hk => (reached.of_variants build k hk).to_reflTransGen⟩
    | entered new mem build below last =>
      obtain rfl := (Schema.built_of_build build).type
      obtain ⟨ms, entered, reached⟩ := variants mem _ h below
      obtain ⟨grown, there⟩ := (grown_loadFrom env).2 _ _ h below
      have new := entered.find?_eq_none grown.consistent new build reached
      obtain ⟨ns, further, self⟩ := entered_enter build (there _ rfl) new last
      refine ⟨ms ++ ns, entered.trans further, .single fun k hk => ?_⟩
      rcases List.mem_append.1 hk with hk | hk
      · exact (reached.of_variants build k hk).to_reflTransGen
      · rw [self k hk]
  · intro fresh r s answer h run
    rw [Environment.loadAllFrom] at run
    cases run
    exact ⟨[], .nil, .nil _⟩
  · intro fresh t ts first rest r s answer h run
    rw [run_loadAllFrom_cons] at run
    obtain ⟨e, -, one⟩ | ⟨m, u, one, more⟩ := run_bind_eq run
    · obtain ⟨ms, entered, reached⟩ := first h one
      have all := reached.append (.nil ts)
      rw [List.append_nil] at all
      exact ⟨ms, entered, all⟩
    · obtain ⟨ms, entered, reached⟩ := first h one
      obtain ⟨ns, further, beyond⟩ := rest ((grown_loadFrom env).1 _ _ h one).1.consistent more
      exact ⟨ms ++ ns, entered.trans further, reached.append beyond⟩

theorem Consistent.entered_load (h : Consistent env r) {answer : Except MapperError Metadata}
    (run : (env.load t).run r = (answer, s)) : ∃ ms, Entered env r ms s := by
  obtain ⟨ms, entered, -⟩ := (entered_loadFrom env).1 _ _ h run
  exact ⟨ms, entered⟩

/-- A registry that came about by loading was entered type by type. -/
theorem Reachable.entered (h : Reachable env r) : Entered env {} r.loaded r := by
  induction h with
  | empty => exact .nil
  | @load r before t ih =>
    rcases run : (env.load t).run r with ⟨answer, s⟩
    obtain ⟨ms, entered⟩ := before.consistent.entered_load run
    have whole := ih.trans entered
    rwa [← entered.loaded] at whole

end Registry

end EntityMapping
