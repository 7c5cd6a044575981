import EntityMapping.Proofs.Store.Identity
import EntityMapping.Proofs.Template.Collection
import Mathlib.Algebra.BigOperators.Group.List.Basic
import Mathlib.Algebra.GroupWithZero.Nat
import Mathlib.Data.List.Nodup

/-!
Variants as parts of a collection. A count of the instances of a type asks for all records of its
name, a count of those of a variant for the records with its discriminator. The discriminators of
the variants that are registered for one parent differ, so where every record has one of them, the
parts add up to the whole and no two of them overlap.
-/

namespace EntityMapping

open Effect Environment Registry Schema

variable {env : Environment}

/-! ### Counting -/

/-- Where each item falls into one of some classes, their sizes add up. -/
theorem sum_length_filter {α β : Type} [DecidableEq β] {p : β → α → Bool} {xs : List α}
    {classes : List β} (nodup : classes.Nodup)
    (one : ∀ x ∈ xs, ∃ c ∈ classes, ∀ d ∈ classes, p d x = decide (d = c)) :
    (classes.map fun c => (xs.filter (p c)).length).sum = xs.length := by
  induction xs with
  | nil => simp
  | cons x xs ih =>
    obtain ⟨c, mem, own⟩ := one x (List.mem_cons_self ..)
    have single : ∀ ds : List β, (ds.map fun d => if d = c then 1 else 0).sum = ds.count c := by
      intro ds
      induction ds with
      | nil => rfl
      | cons d ds ih => simp [List.count_cons, ih, Nat.add_comm]
    have first : (classes.map fun d => if p d x then 1 else 0).sum = 1 := by
      have indicator : classes.map (fun d => if p d x then 1 else 0) =
          classes.map fun d => if d = c then 1 else 0 :=
        List.map_congr_left fun d there => by simp [own d there]
      rw [indicator, single, List.count_eq_one_of_mem nodup mem]
    have step : (fun d => ((x :: xs).filter (p d)).length) =
        fun d => (if p d x then 1 else 0) + (xs.filter (p d)).length := by
      funext d
      rw [List.filter_cons]
      split <;> simp [Nat.add_comm]
    rw [step, List.sum_map_add, first, ih fun y there => one y (List.mem_cons_of_mem _ there),
      List.length_cons, Nat.add_comm]

theorem VariantBinding.Marks.answersTo {b : VariantBinding} {r : Record} (marks : b.Marks r)
    (d : String) : Store.answersTo b.column (.text d) r = decide (b.discriminator = d) := by
  rw [Store.answersTo, marks]
  show (Value.text b.discriminator == Value.text d) = _
  rw [Bool.eq_iff_iff]
  simp [Value.beq_eq_equals, Value.equals, Value.scalarEquals]

def Registry.variants (r : Registry) (parent : TypeRef) : List TypeRef :=
  (r.group parent).map (·.2.entity)

/-- A count of the instances of a type counts a record. -/
def Counts (tp : Template) (t : TypeRef) (r : Record) : Prop :=
  ∃ q, ((Persisting.selectQuery t []).run tp.context).1 = .ok q ∧ r ∈ tp.store.records q.name ∧
    Condition.selects tp.store.likeMode r q.condition = .ok true

/-- The number that a count of the instances of a type answers, if it answers. -/
def Template.counted (tp : Template) (t : TypeRef) : Nat :=
  ((Persisting.count t).run tp).1.toOption.getD 0

namespace Persisting

variable {c c' : Context} {t : TypeRef} {m : Metadata}

theorem run_selectQuery_nil (loads : (Mapping.load t).run c = (.ok m, c')) :
    (selectQuery t []).run c =
      (.ok { name := m.name, condition := Condition.marked m none }, c') := by
  rw [selectQuery, run_bind_of_ok loads]
  rfl

theorem run_count (s : Store) (loads : (Mapping.load t).run c = (.ok m, c')) :
    (count t).run ⟨c, s⟩ = (s.count m.name (Condition.marked m none), ⟨c', s⟩) := by
  rw [count, run_bind_of_ok (run_ofMapping_of_ok (run_selectQuery_nil loads) s), askStore,
    run_ofStore]

end Persisting

/-! ### Variants in a collection -/

namespace Registry

variable {R : Registry} {parent : TypeRef} {e : String × VariantBinding}

theorem nodup_keys_group (R : Registry) (parent : TypeRef) : (R.group parent).keys.Nodup :=
  (Keyed.pairwise_keys_sorted _).imp fun lt => Std.ne_of_lt lt

theorem Consistent.group_mem (h : Consistent env R) (mem : e ∈ R.group parent) :
    e.2.parent = parent ∧ e.2.discriminator = e.1 ∧
      ∃ n, R.find? e.2.entity = some n ∧ n.binding = some e.2 := by
  obtain ⟨parent, discriminator, n, there, bound⟩ :=
    h.group_inv (Keyed.find?_of_mem (R.nodup_keys_group parent) mem)
  exact ⟨parent, discriminator, n,
    h.find?_eq_some.2 ⟨there, ((h.builtOf there).entity_eq bound).symm⟩, bound⟩

theorem Consistent.group_entity (h : Consistent env R) {e' : String × VariantBinding}
    (mem : e ∈ R.group parent) (mem' : e' ∈ R.group parent) (same : e.2.entity = e'.2.entity) :
    e = e' := by
  obtain ⟨-, own, n, found, bound⟩ := h.group_mem mem
  obtain ⟨-, own', n', found', bound'⟩ := h.group_mem mem'
  rw [same, found'] at found
  cases found
  have binding : e.2 = e'.2 := Option.some.inj (bound.symm.trans bound')
  exact Prod.ext (own.symm.trans ((congrArg (·.discriminator) binding).trans own')) binding

theorem Consistent.nodup_variants (h : Consistent env R) (parent : TypeRef) :
    (R.variants parent).Nodup :=
  (List.Nodup.of_map _ (R.nodup_keys_group parent)).map_on fun _ mem _ mem' same =>
    h.group_entity mem mem' same

end Registry

/-- A type that is no variant goes by its own name. -/
theorem Schema.Built.name_of_unbound {catalog : Catalog} {config : Config} {t : TypeRef}
    {m : Metadata} (h : Built catalog config t m) (unbound : m.binding = none) :
    m.name = (catalog.describe t).name := by
  have answer := h.binding
  rw [nameAndBinding] at answer
  cases hi : (catalog.describe t).inheritance with
  | none =>
    simp only [hi, Except.ok.injEq, Prod.mk.injEq] at answer
    exact answer.1.symm
  | some i =>
    rw [hi] at answer
    cases hp : (catalog.describe i.parent).polymorphism with
    | none => simp [bindVariant, hp, Except.map] at answer
    | some declared =>
      simp only [bindVariant, hp, Except.map, Except.ok.injEq, Prod.mk.injEq] at answer
      rw [unbound] at answer
      cases answer.2

theorem Schema.Built.column_of_bound {catalog : Catalog} {config : Config} {t : TypeRef}
    {m : Metadata} {b : VariantBinding} {declared : Option String} (h : Built catalog config t m)
    (bound : m.binding = some b)
    (declares : (catalog.describe b.parent).polymorphism = some declared) :
    b.column = discriminatorColumn config declared := by
  rw [h.binding_eq, declaredBinding, Option.bind_eq_some_iff] at bound
  obtain ⟨i, -, bound⟩ := bound
  obtain ⟨declared', declares', rfl⟩ := Option.map_eq_some_iff.1 bound
  cases declares.symm.trans declares'
  rfl

theorem Condition.selects_variant {n : Metadata} {b : VariantBinding} (bound : n.binding = some b)
    (plain : '.' ∉ b.column.toList) (mode : Like.Mode) (r : Record) :
    Condition.selects mode r (Condition.marked n none) =
      .ok (Store.answersTo b.column (.text b.discriminator) r) := by
  rw [Condition.marked, bound]
  exact Store.selects_equals plain mode r

namespace Partitioned

variable {parent : TypeRef} {declared : Option String} {c : Context} {s : Store} {r : Record}
  {e : String × VariantBinding}

/-- A record of the collection answers to the discriminator of one registered variant. -/
theorem exists_group (h : Partitioned env parent declared ⟨c, s⟩)
    (mem : r ∈ s.records (env.catalog.describe parent).name) :
    ∃ e ∈ c.registry.group parent, ∀ d ∈ c.registry.group parent,
      Store.answersTo (discriminatorColumn env.config declared) (.text d.1) r =
        decide (d = e) := by
  have consistent := h.used.2.consistent
  obtain ⟨b, there, rfl, column, marks⟩ := h.marked r mem
  obtain ⟨n, loaded, bound⟩ := consistent.backed b there
  have found := consistent.find?_group (consistent.find?_eq_some.2 ⟨loaded, rfl⟩) bound
  refine ⟨_, Keyed.mem_of_find? found, fun d mem => ?_⟩
  rw [← column, marks.answersTo, decide_eq_decide]
  constructor
  · intro same
    have found' := Keyed.find?_of_mem (c.registry.nodup_keys_group b.parent) mem
    rw [← same, found] at found'
    exact Prod.ext same.symm (Option.some.inj found').symm
  · rintro rfl
    rfl

/-- Counting the instances of a registered variant counts the records that answer to its
discriminator. -/
theorem selectQuery_group (h : Partitioned env parent declared ⟨c, s⟩)
    (declares : (env.catalog.describe parent).polymorphism = some declared)
    (plain : '.' ∉ (discriminatorColumn env.config declared).toList)
    (mem : e ∈ c.registry.group parent) :
    ∃ condition,
      (Persisting.selectQuery e.2.entity []).run c =
        (.ok { name := (env.catalog.describe parent).name, condition }, c) ∧
      (∀ r, Condition.selects s.likeMode r condition =
        .ok (Store.answersTo (discriminatorColumn env.config declared) (.text e.1) r)) ∧
      (Persisting.count e.2.entity).run ⟨c, s⟩ =
        (.ok ((s.records (env.catalog.describe parent).name).filter
          (Store.answersTo (discriminatorColumn env.config declared) (.text e.1))).length,
          ⟨c, s⟩) := by
  have consistent := h.used.2.consistent
  obtain ⟨rfl, own, n, found, bound⟩ := consistent.group_mem mem
  have built := consistent.built_find? found
  have name := built.name_of_bound bound
  have column := built.column_of_bound bound declares
  have loads := Mapping.run_load_of_found found
  have decided : ∀ r, Condition.selects s.likeMode r (Condition.marked n none) =
      .ok (Store.answersTo (discriminatorColumn env.config declared) (.text e.1) r) := by
    intro r
    rw [Condition.selects_variant bound (column ▸ plain), own, column]
  refine ⟨_, name ▸ Persisting.run_selectQuery_nil loads, decided, ?_⟩
  rw [Persisting.run_count s loads, name, Store.count_eq_filter fun r _ => decided r]

/-- The registered variants of a marked collection are counted, their numbers add up, and every
record is counted for one of them. -/
theorem exists_counted (h : Partitioned env parent declared ⟨c, s⟩)
    (declares : (env.catalog.describe parent).polymorphism = some declared)
    (plain : '.' ∉ (discriminatorColumn env.config declared).toList) :
    ∃ counted : TypeRef → Nat,
      ((c.registry.variants parent).map counted).sum =
        (s.records (env.catalog.describe parent).name).length ∧
      (∀ v ∈ c.registry.variants parent,
        (Persisting.count v).run ⟨c, s⟩ = (.ok (counted v), ⟨c, s⟩)) ∧
      ∀ r ∈ s.records (env.catalog.describe parent).name,
        ∃! v, v ∈ c.registry.variants parent ∧ Counts ⟨c, s⟩ v r := by
  refine ⟨Template.counted ⟨c, s⟩, ?_, ?_, ?_⟩
  · have sizes : ∀ e ∈ c.registry.group parent, Template.counted ⟨c, s⟩ e.2.entity =
        ((s.records (env.catalog.describe parent).name).filter (Store.answersTo
          (discriminatorColumn env.config declared) (.text e.1))).length := by
      intro e there
      obtain ⟨-, -, -, counted⟩ := h.selectQuery_group declares plain there
      rw [Template.counted, counted]
      rfl
    have nodup := List.Nodup.of_map _ (c.registry.nodup_keys_group parent)
    rw [Registry.variants, List.map_map]
    exact (congrArg List.sum (List.map_congr_left sizes)).trans
      (sum_length_filter nodup fun r mem => h.exists_group mem)
  · intro v mem
    obtain ⟨e, there, rfl⟩ := List.mem_map.1 mem
    obtain ⟨-, -, -, counted⟩ := h.selectQuery_group declares plain there
    rw [Template.counted, counted]
    rfl
  · intro r mem
    obtain ⟨e, there, sole⟩ := h.exists_group mem
    refine ⟨e.2.entity, ⟨List.mem_map.2 ⟨e, there, rfl⟩, ?_⟩, ?_⟩
    · obtain ⟨q, asked, decided, -⟩ := h.selectQuery_group declares plain there
      exact ⟨_, congrArg Prod.fst asked, mem, (decided r).trans (by rw [sole e there]; simp)⟩
    · rintro v ⟨mem', q, asked, -, selected⟩
      obtain ⟨e', there', rfl⟩ := List.mem_map.1 mem'
      obtain ⟨q', asked', decided, -⟩ := h.selectQuery_group declares plain there'
      rw [asked'] at asked
      cases asked
      rw [decided r, sole e' there', Except.ok.injEq, decide_eq_true_eq] at selected
      rw [selected]

end Partitioned

theorem Store.count_none (s : Store) (name : String) :
    s.count name none = .ok (s.records name).length := rfl

/-- The variants of a polymorphic type partition the collection that they share. After any
operations, whatever these have answered, the number of instances of the type is the sum of those of
its registered variants, and every record of the collection is counted for exactly one of them. -/
theorem variants_partition_collection (env : Environment) (parent : TypeRef)
    (declared : Option String)
    (declares : (env.catalog.describe parent).polymorphism = some declared)
    (unbound : (env.catalog.describe parent).inheritance = none)
    (plain : '.' ∉ (discriminatorColumn env.config declared).toList) (sole : Sole env parent)
    (tp : Template) (used : Mapping.Used env tp.context)
    (empty : tp.store.records (env.catalog.describe parent).name = [])
    (free : tp.store.numberKey ≠ some (discriminatorColumn env.config declared))
    (ops : List Operation)
    (proper : ∀ o ∈ ops, ∀ i, o.written? = some i → ∀ j, i.held = some j → j.type ≠ parent)
    (m : Metadata) (R : Registry)
    (loads : (env.load parent).run (ops.foldl Operation.perform tp).context.registry = (.ok m, R)) :
    let after := ops.foldl Operation.perform tp
    let loaded : Template := ⟨{ after.context with registry := R }, after.store⟩
    (R.variants parent).Nodup ∧ ∃ counted : TypeRef → Nat,
      (Persisting.count parent).run after =
        (.ok ((R.variants parent).map counted).sum, loaded) ∧
      (∀ v ∈ R.variants parent, (Persisting.count v).run loaded = (.ok (counted v), loaded)) ∧
      ∀ r ∈ after.store.records m.name, ∃! v, v ∈ R.variants parent ∧ Counts loaded v r := by
  intro after loaded
  have before : Partitioned env parent declared after :=
    Partitioned.performAll sole declares proper ⟨used, free, by rw [empty]; nofun⟩
  obtain ⟨grown, found⟩ := before.used.2.consistent.grown_load loads
  have built := grown.consistent.built_find? (found m rfl)
  have binding : m.binding = none := by
    rw [built.binding_eq, declaredBinding, unbound]
    rfl
  have name := built.name_of_unbound binding
  have reached : Reachable env R := by
    have later := before.used.2.load parent
    rwa [loads] at later
  have parted : Partitioned env parent declared loaded :=
    before.of_le ⟨⟨before.used.1, reached⟩, grown.le⟩ rfl fun _ mem => mem
  have total : (Persisting.count parent).run after =
      (.ok (after.store.records m.name).length, loaded) := by
    have first : (Mapping.load parent).run after.context = (.ok m, loaded.context) :=
      Mapping.run_ofLoading_eq_ok.2 ⟨R, before.used.1 ▸ loads, rfl⟩
    rw [Persisting.run_count _ first, Condition.marked, binding, Store.count_none]
  obtain ⟨counted, sum, each, one⟩ := parted.exists_counted declares plain
  rw [name] at total ⊢
  exact ⟨grown.consistent.nodup_variants parent, counted, sum ▸ total, each, one⟩

/-! ### A fleet at work -/

namespace Fleet

/-- A car comes as a vehicle, then a truck and another car; the first car is updated, the other one
leaves, and a second truck comes. -/
def service : List Operation :=
  [.insert vehicle held, .insert truck (numbered truck 2), .insert car (numbered car 3),
    .update vehicle held, .deleteById car (.native (.integer 3)), .insert truck (numbered truck 4)]

theorem sole_vehicle : Sole environment vehicle := by
  intro v n build _
  have declared : v ∈ environment.catalog.types := (built_of_build build).mem_types
  rcases List.mem_cons.1 declared with rfl | declared
  · exact .inl rfl
  rcases List.mem_cons.1 declared with rfl | declared
  · exact .inr ⟨⟨vehicle, "car"⟩, rfl, rfl⟩
  obtain rfl := List.mem_singleton.1 declared
  exact .inr ⟨⟨vehicle, "truck"⟩, rfl, rfl⟩

theorem proper_service :
    ∀ o ∈ service, ∀ i, o.written? = some i → ∀ j, i.held = some j → j.type ≠ vehicle := by
  intro o mem i written j holds
  simp only [service, List.mem_cons, List.not_mem_nil, or_false] at mem
  rcases mem with rfl | rfl | rfl | rfl | rfl | rfl <;> cases written <;> cases holds <;>
    decide

def serviced : Template := service.foldl Operation.perform start

theorem exists_loads :
    ∃ m R, (environment.load vehicle).run serviced.context.registry = (.ok m, R) ∧
      R.variants vehicle = [car, truck] := by
  have answers : ((environment.load vehicle).run serviced.context.registry).1.isOk = true := by cbv
  have variants : ((environment.load vehicle).run serviced.context.registry).2.variants vehicle =
      [car, truck] := by
    cbv
  obtain ⟨m, R, loads⟩ := exists_of_isOk answers
  rw [loads] at variants
  exact ⟨m, R, loads, variants⟩

theorem run_count_serviced : ((Persisting.count vehicle).run serviced).1 = .ok 3 := by cbv

end Fleet

open Fleet in
theorem variants_partition_collection_fleet :
    ∃ (m : Metadata) (R : Registry) (counted : TypeRef → Nat) (loaded : Template),
      (environment.load vehicle).run serviced.context.registry = (.ok m, R) ∧
      R.variants vehicle = [car, truck] ∧
      (Persisting.count vehicle).run serviced = (.ok (counted car + counted truck), loaded) ∧
      (Persisting.count car).run loaded = (.ok (counted car), loaded) ∧
      (Persisting.count truck).run loaded = (.ok (counted truck), loaded) ∧
      counted car + counted truck = 3 ∧
      ∀ r ∈ serviced.store.records m.name, ∃! v, v ∈ [car, truck] ∧ Counts loaded v r := by
  obtain ⟨m, R, loads, variants⟩ := exists_loads
  obtain ⟨-, counted, total, each, one⟩ :=
    variants_partition_collection environment vehicle none rfl rfl (by decide) sole_vehicle start
      ⟨rfl, .empty⟩ rfl (by decide) service proper_service m R loads
  have sum : ((R.variants vehicle).map counted).sum = counted car + counted truck := by
    rw [variants]
    simp
  have number := run_count_serviced
  rw [serviced, total, sum] at number
  rw [sum] at total
  rw [variants] at each one
  exact ⟨m, R, counted, _, loads, variants, total, each car (by decide), each truck (by decide),
    Except.ok.inj number, one⟩

end EntityMapping
