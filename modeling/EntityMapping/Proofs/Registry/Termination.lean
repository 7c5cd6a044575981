import EntityMapping.Proofs.Registry.Entering
import EntityMapping.Proofs.Schema.Refusal
import Mathlib.Logic.Relation

/-!
When loading ends. Checking a declaration does: no type is entered twice on a way down through the
objects in its attributes. But a polymorphic type is entered behind its variants, and their loads
may ask for the type again, which is as unknown as before. Loading carries the types whose load has
not begun, to answer `endless` there instead of going round forever. Here the loads that a load asks
for are described without these types: a load ends if it asks for others only so often, and it ends
unless it comes back to a type on its way.
-/

namespace EntityMapping

open Effect Relation

def Catalog.Closed (c : Catalog) : Prop := ∀ t ∈ c.types, ∀ v ∈ (c.describe t).variants, v ∈ c.types

namespace Registry

variable {env : Environment} {r s : Registry} {t v : TypeRef} {m : Metadata}
  {fresh : List TypeRef} {ts : List TypeRef}

/-- The load of a type that is not there asks for the load of a variant, once the variants listed
before it are loaded. -/
inductive Nested (env : Environment) : Registry × TypeRef → Registry × TypeRef → Prop where
  | variant {r s : Registry} {t v : TypeRef} {m : Metadata} {before after : List TypeRef}
      (new : r.find? t = none) (build : Schema.build env.catalog env.config t = .ok m)
      (listed : m.variants = before ++ v :: after)
      (loaded : (env.loadAllFrom env.catalog.types before).run r = (.ok (), s)) :
      Nested env (r, t) (s, v)

/-- The load of a type ends: it asks for loads, and these for others, only so often. -/
def Ends (env : Environment) (r : Registry) (t : TypeRef) : Prop :=
  Acc (Function.swap (Nested env)) (r, t)

/-- Among the loads that a load asks for is one that asks for its own type again. -/
def ComesBack (env : Environment) (r : Registry) (t : TypeRef) : Prop :=
  ∃ a s, ReflTransGen (Nested env) (r, t) a ∧ TransGen (Nested env) a (s, a.2)

/-! ### Answers -/

/-- A search came back to a type on its way. -/
def Endless {α : Type} (x : Except MapperError α) : Prop := ∃ name, x = .error (.endless name)

theorem not_endless_ok {α : Type} (a : α) : ¬ Endless (.ok a) := nofun

theorem not_endless_of_blames {α : Type} {e : MapperError} (h : e.kind = .configuration) :
    ¬ Endless (.error e : Except MapperError α) := by
  rintro ⟨name, same⟩
  cases same
  cases h

theorem kind_of_enter_eq_error {e : MapperError} (run : (enter m).run r = (.error e, s)) :
    e.kind = .configuration := by
  rw [run_enter] at run
  cases tie : r.tie m with
  | ok u =>
    rw [tie] at run
    cases run
  | error d =>
    rw [tie] at run
    cases run
    unfold Registry.tie at tie
    split at tie
    · cases tie
    · split at tie
      · split at tie
        · cases tie
        · cases tie
          rfl
      · cases tie

theorem not_endless_enter : ¬ Endless ((enter m).run r).1 := by
  rcases run : (enter m).run r with ⟨e | n, s⟩
  · exact not_endless_of_blames (kind_of_enter_eq_error run)
  · exact not_endless_ok n

/-- The load of a type fails with an error of the configuration, unless it is endless. -/
theorem kind_of_loadFrom_eq_error (env : Environment) :
    (∀ (fresh : List TypeRef) (t : TypeRef) {r s : Registry} {e : MapperError},
      (env.loadFrom fresh t).run r = (.error e, s) →
        e.kind = .configuration ∨ ∃ name, e = .endless name) ∧
    (∀ (fresh ts : List TypeRef) {r s : Registry} {e : MapperError},
      (env.loadAllFrom fresh ts).run r = (.error e, s) →
        e.kind = .configuration ∨ ∃ name, e = .endless name) := by
  refine Environment.loadFrom.mutual_induct _ _ ?_ ?_ ?_
  · intro fresh t variants r s e run
    cases loadRun run with
    | endless => exact .inr ⟨t.name, rfl⟩
    | refused _ _ build => exact .inl (Schema.blames_build _ _ _ _ build)
    | failed _ mem _ below => exact variants mem _ below
    | entered _ _ _ _ last => exact .inl (kind_of_enter_eq_error last)
  · intro fresh r s e run
    rw [Environment.loadAllFrom] at run
    cases run
  · intro fresh t ts first rest r s e run
    rw [run_loadAllFrom_cons] at run
    obtain ⟨d, same, one⟩ | ⟨m, u, -, more⟩ := run_bind_eq run
    · cases same
      exact first one
    · exact rest more

/-- Two steps are endless if the first one is, or the second one after it. -/
theorem endless_bind {σ α β : Type} {x : Step σ α} {f : α → Step σ β} {c : σ} :
    Endless ((x >>= f).run c).1 ↔
      Endless (x.run c).1 ∨ ∃ a s, x.run c = (.ok a, s) ∧ Endless ((f a).run s).1 := by
  rw [run_bind]
  rcases x.run c with ⟨e | a, s⟩
  · constructor
    · rintro ⟨name, endless⟩
      cases endless
      exact .inl ⟨name, rfl⟩
    · rintro (⟨name, endless⟩ | ⟨a, s, answer, -⟩)
      · cases endless
        exact ⟨name, rfl⟩
      · cases answer
  · constructor
    · exact fun endless => .inr ⟨a, s, rfl, endless⟩
    · rintro (⟨name, endless⟩ | ⟨b, u, answer, endless⟩)
      · cases endless
      · cases answer
        exact endless

theorem not_endless_of_bind {α β : Type} {x : Loading α} {f : α → Loading β}
    (ends : ¬ Endless ((x >>= f).run r).1) : ¬ Endless (x.run r).1 :=
  fun endless => ends (endless_bind.2 (.inl endless))

/-- Where a search is not endless, it does not matter whose load has begun. -/
theorem run_loadFrom_of_sublist (env : Environment) :
    (∀ (fresh : List TypeRef) (t : TypeRef) {r : Registry} {more : List TypeRef},
      fresh.Sublist more → ¬ Endless ((env.loadFrom fresh t).run r).1 →
        (env.loadFrom more t).run r = (env.loadFrom fresh t).run r) ∧
    (∀ (fresh ts : List TypeRef) {r : Registry} {more : List TypeRef},
      fresh.Sublist more → ¬ Endless ((env.loadAllFrom fresh ts).run r).1 →
        (env.loadAllFrom more ts).run r = (env.loadAllFrom fresh ts).run r) := by
  refine Environment.loadFrom.mutual_induct _ _ ?_ ?_ ?_
  · intro fresh t variants r more sub ends
    rw [run_loadFrom] at ends
    rw [run_loadFrom, run_loadFrom]
    cases found : r.find? t with
    | some m => rfl
    | none =>
      simp only [found] at ends ⊢
      by_cases mem : t ∈ fresh
      · simp only [if_pos mem, if_pos (sub.subset mem)] at ends ⊢
        cases build : Schema.build env.catalog env.config t with
        | error d => rfl
        | ok m =>
          simp only [build] at ends ⊢
          have same : (env.loadAllFrom (more.erase t) m.variants).run r =
              (env.loadAllFrom (fresh.erase t) m.variants).run r :=
            variants mem m (sub.erase t) (not_endless_of_bind ends)
          rw [run_bind, run_bind, same]
      · rw [if_neg mem] at ends
        exact absurd ⟨t.name, rfl⟩ ends
  · intro fresh r more _ _
    rw [Environment.loadAllFrom, Environment.loadAllFrom]
  · intro fresh t ts first rest r more sub ends
    rw [run_loadAllFrom_cons] at ends
    rw [run_loadAllFrom_cons, run_loadAllFrom_cons, run_bind, run_bind,
      first sub (not_endless_of_bind ends)]
    rcases one : (env.loadFrom fresh t).run r with ⟨e | m, u⟩
    · rfl
    · rw [run_bind_of_ok one] at ends
      exact rest sub ends

/-! ### Nested loads -/

theorem run_loadAllFrom_of_loaded (there : ∀ v ∈ ts, v ∈ r.loaded.map (·.type)) :
    (env.loadAllFrom fresh ts).run r = (.ok (), r) := by
  induction ts with
  | nil =>
    rw [Environment.loadAllFrom]
    rfl
  | cons v ts ih =>
    obtain ⟨m, found⟩ := exists_find? (there v (List.mem_cons_self ..))
    have one : (env.loadFrom fresh v).run r = (.ok m, r) := by rw [run_loadFrom, found]
    rw [run_loadAllFrom_cons, run_bind_of_ok one]
    exact ih fun w hw => there w (List.mem_cons_of_mem v hw)

/-- A type is not there before its variants. -/
theorem Consistent.find?_eq_none_of_lists (h : Consistent env r) (listed : env.Lists t v)
    (new : r.find? v = none) : r.find? t = none := by
  cases found : r.find? t with
  | none => rfl
  | some m =>
    obtain ⟨n, build, hv⟩ := listed
    obtain ⟨hm, rfl⟩ := find?_of_some found
    have same := (h.built m hm).symm.trans build
    cases same
    obtain ⟨k, there⟩ := exists_find? (h.stacked.variants_loaded hm v hv)
    rw [there] at new
    cases new

variable {a b : Registry × TypeRef}

theorem Nested.lists (h : Nested env a b) : env.Lists a.2 b.2 := by
  cases h with
  | variant _ build listed _ =>
    exact ⟨_, build, listed ▸ List.mem_append_right _ (List.mem_cons_self ..)⟩

theorem Nested.grown (h : Nested env a b) (consistent : Consistent env a.1) :
    Grown env a.1 b.1 := by
  cases h with
  | variant _ _ _ loaded => exact ((grown_loadFrom env).2 _ _ consistent loaded).1

/-- A load asks for the same loads as ever, where the variants listed before them are there. -/
theorem Nested.again (h : Nested env a b) (consistent : Consistent env a.1) (le : Le b.1 s)
    (new : s.find? a.2 = none) : Nested env (s, a.2) (s, b.2) := by
  cases h with
  | variant _ build listed loaded =>
    have there := ((grown_loadFrom env).2 _ _ consistent loaded).2 () rfl
    exact .variant new build listed
      (run_loadAllFrom_of_loaded fun v hv => List.map_subset _ le.loaded (there v hv))

/-- Loads that lead to a type that is not there lead to it again from where it was asked for. -/
theorem again_of_transGen (h : TransGen (Nested env) a (s, t)) (consistent : Consistent env a.1)
    (new : s.find? t = none) :
    Grown env a.1 s ∧ s.find? a.2 = none ∧ TransGen (Nested env) (s, a.2) (s, t) := by
  induction h using TransGen.head_induction_on with
  | single asked =>
    have grown := asked.grown consistent
    have unknown := grown.consistent.find?_eq_none_of_lists asked.lists new
    exact ⟨grown, unknown, .single (asked.again consistent (.refl _) unknown)⟩
  | head asked _ ih =>
    have grown := asked.grown consistent
    obtain ⟨further, unknown, loop⟩ := ih grown.consistent
    have unknown := further.consistent.find?_eq_none_of_lists asked.lists unknown
    exact ⟨grown.trans further, unknown, .head (asked.again consistent further.le unknown) loop⟩

/-- What a load asks for, directly or not, ends if the load does, and happens in a registry that
loading brings about. -/
theorem Ends.of_reflTransGen (ends : Ends env a.1 a.2) (consistent : Consistent env a.1)
    (way : ReflTransGen (Nested env) a b) : Ends env b.1 b.2 ∧ Consistent env b.1 := by
  induction way with
  | refl => exact ⟨ends, consistent⟩
  | tail _ asked ih => exact ⟨ih.1.inv asked, (asked.grown ih.2).consistent⟩

/-- A load that comes back to a type never ends: the type is asked for again and again. -/
theorem Ends.not_comesBack (ends : Ends env r t) (consistent : Consistent env r) :
    ¬ ComesBack env r t := by
  rintro ⟨⟨u, v⟩, s, way, loop⟩
  obtain ⟨endsAt, start⟩ := ends.of_reflTransGen consistent way
  obtain ⟨endsAgain, again⟩ := endsAt.of_reflTransGen start loop.to_reflTransGen
  have cycle : TransGen env.Lists v v := loop.lift Prod.snd fun _ _ asked => asked.lists
  have new : s.find? v = none := again.find?_eq_none_of_cycle cycle
  exact not_transGen_self_of_acc endsAgain (again_of_transGen loop start new).2.2

/-- A load that answers otherwise than that it is endless ends. -/
theorem ends_of_not_endless (env : Environment) :
    (∀ (fresh : List TypeRef) (t : TypeRef) {r : Registry}, fresh.Sublist env.catalog.types →
      ¬ Endless ((env.loadFrom fresh t).run r).1 → Ends env r t) ∧
    (∀ (fresh ts : List TypeRef) {r : Registry}, fresh.Sublist env.catalog.types →
      ¬ Endless ((env.loadAllFrom fresh ts).run r).1 →
        ∀ before v after s, ts = before ++ v :: after →
          (env.loadAllFrom env.catalog.types before).run r = (.ok (), s) → Ends env s v) := by
  refine Environment.loadFrom.mutual_induct _ _ ?_ ?_ ?_
  · intro fresh t variants r sub ends
    refine ⟨_, fun b asked => ?_⟩
    cases asked with
    | @variant _ s _ v m before after new build listed loaded =>
      rw [run_loadFrom, new] at ends
      dsimp only at ends
      split at ends
      · rename_i mem
        simp only [build] at ends
        exact variants mem m ((List.erase_sublist ..).trans sub) (not_endless_of_bind ends)
          before v after s listed loaded
      · exact absurd ⟨t.name, rfl⟩ ends
  · intro fresh r _ _ before v after s split
    cases before <;> cases split
  · intro fresh t ts first rest r sub ends before v after s split loaded
    rw [run_loadAllFrom_cons] at ends
    have one := not_endless_of_bind ends
    cases before with
    | nil =>
      cases split
      rw [Environment.loadAllFrom] at loaded
      cases loaded
      exact first sub one
    | cons w before =>
      cases split
      rw [run_loadAllFrom_cons] at loaded
      obtain ⟨m, u, found, loaded⟩ := run_bind_eq_ok.1 loaded
      rw [(run_loadFrom_of_sublist env).1 fresh t sub one] at found
      rw [run_bind_of_ok found] at ends
      exact rest sub ends before v after s rfl loaded

/-- A load that answers that it is endless asks for the load of a type that is not among those whose
load has not begun, or comes back to a type. -/
theorem exists_nested_of_endless (env : Environment) :
    (∀ (fresh : List TypeRef) (t : TypeRef) {r : Registry}, fresh.Sublist env.catalog.types →
      Endless ((env.loadFrom fresh t).run r).1 →
        ∃ a, ReflTransGen (Nested env) (r, t) a ∧
          (a.2 ∉ fresh ∨ ∃ s, TransGen (Nested env) a (s, a.2))) ∧
    (∀ (fresh ts : List TypeRef) {r : Registry}, fresh.Sublist env.catalog.types →
      Endless ((env.loadAllFrom fresh ts).run r).1 →
        ∃ before v after s, ts = before ++ v :: after ∧
          (env.loadAllFrom env.catalog.types before).run r = (.ok (), s) ∧
          ∃ a, ReflTransGen (Nested env) (s, v) a ∧
            (a.2 ∉ fresh ∨ ∃ s, TransGen (Nested env) a (s, a.2))) := by
  refine Environment.loadFrom.mutual_induct _ _ ?_ ?_ ?_
  · intro fresh t variants r sub endless
    obtain ⟨name, answer⟩ := endless
    obtain ⟨u, run⟩ : ∃ u, (env.loadFrom fresh t).run r = (.error (.endless name), u) :=
      ⟨_, Prod.ext answer rfl⟩
    cases loadRun run with
    | endless _ begun => exact ⟨(r, t), .refl, .inl begun⟩
    | refused _ _ build => cases Schema.blames_build _ _ _ _ build
    | @failed m _ _ new mem build below =>
      obtain ⟨before, v, after, s, listed, loaded, a, way, stop⟩ :=
        variants mem m ((List.erase_sublist ..).trans sub) ⟨name, congrArg Prod.fst below⟩
      have asked : Nested env (r, t) (s, v) := .variant new build listed loaded
      rcases stop with begun | loop
      · by_cases own : a.2 = t
        · -- the search has come back to `t`, whose load has begun
          refine ⟨(r, t), .refl, .inr ⟨a.1, ?_⟩⟩
          obtain rfl := own
          exact .head' asked way
        · exact ⟨a, .head asked way, .inl (mt (List.mem_erase_of_ne own).2 begun)⟩
      · exact ⟨a, .head asked way, .inr loop⟩
    | entered _ _ _ _ last => exact absurd ⟨name, congrArg Prod.fst last⟩ not_endless_enter
  · intro fresh r sub endless
    rw [Environment.loadAllFrom] at endless
    exact absurd endless (not_endless_ok ())
  · intro fresh t ts first rest r sub endless
    rw [run_loadAllFrom_cons] at endless
    rcases endless_bind.1 endless with one | ⟨m, u, found, more⟩
    · refine ⟨[], t, ts, r, rfl, ?_, first sub one⟩
      rw [Environment.loadAllFrom]
      rfl
    · obtain ⟨before, v, after, s, rfl, loaded, below⟩ := rest sub more
      refine ⟨t :: before, v, after, s, rfl, ?_, below⟩
      have one : ¬ Endless ((env.loadFrom fresh t).run r).1 := by
        rw [found]
        exact not_endless_ok m
      have found' := ((run_loadFrom_of_sublist env).1 fresh t sub one).trans found
      rw [run_loadAllFrom_cons, run_bind_of_ok found', loaded]

/-! ### Declared types -/

theorem mem_types_of_lists (closed : env.catalog.Closed) (declared : t ∈ env.catalog.types)
    (listed : env.Lists t v) : v ∈ env.catalog.types := by
  obtain ⟨m, build, hv⟩ := listed
  refine closed t declared v ?_
  rw [Metadata.variants, (Schema.built_of_build build).polymorphism] at hv
  cases polymorphic : (env.catalog.describe t).polymorphism with
  | none =>
    rw [polymorphic] at hv
    cases hv
  | some column =>
    rw [polymorphic] at hv
    exact hv

theorem mem_types_of_reflTransGen (closed : env.catalog.Closed) (declared : a.2 ∈ env.catalog.types)
    (way : ReflTransGen (Nested env) a b) : b.2 ∈ env.catalog.types := by
  induction way with
  | refl => exact declared
  | tail _ asked ih => exact mem_types_of_lists closed ih asked.lists

/-- Among declared types, a load that answers that it is endless has come back to a type. -/
theorem comesBack_of_endless (closed : env.catalog.Closed) (declared : t ∈ env.catalog.types)
    (endless : Endless ((env.load t).run r).1) : ComesBack env r t := by
  obtain ⟨a, way, absent | ⟨s, loop⟩⟩ :=
    (exists_nested_of_endless env).1 env.catalog.types t (.refl _) endless
  · exact absurd (mem_types_of_reflTransGen closed declared way) absent
  · exact ⟨a, s, way, loop⟩

/-- The load of a declared type ends exactly if it does not come back to a type, that is exactly if
it answers with metadata or with an error of the configuration. It always ends if no type to which
the type leads is, through others, a variant of itself. -/
theorem load_ends_iff_not_comesBack (closed : env.catalog.Closed)
    (declared : t ∈ env.catalog.types) (reached : Reachable env r) :
    (Ends env r t ↔ ¬ ComesBack env r t) ∧
      (Ends env r t ↔ ∀ e, ((env.load t).run r).1 = .error e → e.kind = .configuration) ∧
      ((∀ u, ReflTransGen env.Lists t u → ¬ TransGen env.Lists u u) → Ends env r t) := by
  have answered : ¬ Endless ((env.load t).run r).1 → Ends env r t :=
    (ends_of_not_endless env).1 _ t (.refl _)
  have back : ¬ ComesBack env r t → ¬ Endless ((env.load t).run r).1 :=
    mt (comesBack_of_endless closed declared)
  have straight : Ends env r t → ¬ ComesBack env r t :=
    fun ends => ends.not_comesBack reached.consistent
  refine ⟨⟨straight, fun h => answered (back h)⟩, ⟨fun ends e failed => ?_, fun h => ?_⟩, ?_⟩
  · have run : (env.load t).run r = (.error e, ((env.load t).run r).2) := Prod.ext failed rfl
    rcases (kind_of_loadFrom_eq_error env).1 _ _ run with kind | ⟨name, rfl⟩
    · exact kind
    · exact absurd ⟨name, failed⟩ (back (straight ends))
  · refine answered fun ⟨name, endless⟩ => ?_
    cases h _ endless
  · intro acyclic
    refine answered (back fun ⟨a, s, way, loop⟩ => ?_)
    exact acyclic a.2 (way.lift Prod.snd fun _ _ asked => asked.lists)
      (loop.lift Prod.snd fun _ _ asked => asked.lists)

/-! ### Shelves -/

namespace Shelves

def item : TypeRef := ⟨0, "Item"⟩

def book : TypeRef := ⟨1, "Book"⟩

def box : TypeRef := ⟨2, "Box"⟩

def mirror : TypeRef := ⟨3, "Mirror"⟩

/-- Items are books and boxes; a box has items, and an item that lies on top. A mirror has itself
for a variant. -/
def environment : Environment where
  catalog := {
    valueName := "Value"
    descriptors := [
      { name := "Item", type := item, polymorphism := some none, variants := [book, box] },
      { name := "Book", type := book, suppliesInstances := true
        inheritance := some ⟨item, "book"⟩ },
      { name := "Box", type := box, suppliesInstances := true
        fields := [⟨.of "items", .embeddables item⟩, ⟨.of "top", .entity box⟩]
        inheritance := some ⟨item, "box"⟩ },
      { name := "Mirror", type := mirror, polymorphism := some none, variants := [mirror] }] }
  config := {}

theorem closed : environment.catalog.Closed := by
  unfold Catalog.Closed
  decide

theorem nested_mirror : Nested environment ({}, mirror) ({}, mirror) := by
  have variants : (Schema.build environment.catalog environment.config mirror).map (·.variants) =
      .ok [mirror] := by
    cbv
  obtain ⟨m, build, listed⟩ := Schema.map_eq_ok variants
  refine .variant rfl build (listed.trans (List.nil_append [mirror]).symm) ?_
  rw [Environment.loadAllFrom]
  rfl

end Shelves

open Shelves in
theorem load_ends_iff_not_comesBack_item :
    environment.catalog.Closed ∧ item ∈ environment.catalog.types ∧
      Reachable environment {} ∧ Ends environment {} item ∧ ¬ ComesBack environment {} item := by
  have declared : item ∈ environment.catalog.types := by decide
  have answered : ((environment.load item).run {}).1.isOk = true := by cbv
  obtain ⟨back, answer, -⟩ := load_ends_iff_not_comesBack closed declared .empty
  have ends : Ends environment {} item := by
    refine answer.2 fun e failed => ?_
    rw [failed] at answered
    cases answered
  exact ⟨closed, declared, .empty, ends, back.1 ends⟩

open Shelves in
/-- Not every load ends. -/
theorem load_of_mirror_never_ends :
    ¬ ∀ (env : Environment) (r : Registry) (t : TypeRef), env.catalog.Closed →
      t ∈ env.catalog.types → Reachable env r → Ends env r t := by
  intro allEnd
  have ends := allEnd environment {} mirror closed (by decide) .empty
  exact not_transGen_self_of_acc ends (.single nested_mirror)

end Registry

end EntityMapping
