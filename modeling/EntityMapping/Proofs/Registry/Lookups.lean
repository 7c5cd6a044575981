import EntityMapping.Proofs.Conversion.Repeatable
import EntityMapping.Proofs.Registry.Entering

/-!
What is found in a registry. Types are found by themselves, by the name of their records and, if
they are variants, by the discriminator among the variants of their parent. The three agree after
every sequence of loads, also where loads have failed half way. Further loads take nothing back that
has been found, with one exception: a name belongs to the type that was last entered under it.
-/

namespace EntityMapping

open Effect

/-- The records of a type have a name that is not shared with a parent. -/
def Metadata.goesBy (m : Metadata) (name : String) : Bool := m.binding.isNone && m.name == name

theorem Metadata.goesBy_eq_true {m : Metadata} {name : String} :
    m.goesBy name = true ↔ m.binding = none ∧ m.name = name := by
  rw [goesBy, Bool.and_eq_true, Option.isNone_iff_eq_none, beq_iff_eq]

namespace Registry

variable {env : Environment} {r s : Registry} {t : TypeRef} {m : Metadata} {ms : List Metadata}
  {name : String}

/-! ### Names -/

/-- A name belongs to the type that was last entered under it. -/
theorem Entered.find?_names (h : Entered env r ms s) (name : String) :
    Keyed.find? name s.names =
      ((ms.filter (·.goesBy name)).getLast?.map (·.type)).or (Keyed.find? name r.names) := by
  induction h with
  | nil => rfl
  | @snoc ms m s u _ _ _ new tie ih =>
    have names : (u.keep m).names = u.names := by rw [keep_of_tie tie new]
    rw [names, names_of_tie tie, List.filter_append]
    by_cases mine : m.goesBy name = true
    · obtain ⟨unbound, rfl⟩ := Metadata.goesBy_eq_true.1 mine
      have last : [m].filter (·.goesBy m.name) = [m] := by simp [mine]
      rw [unbound, Option.isNone_none, if_pos rfl, Keyed.find?_put, if_pos rfl, last,
        List.getLast?_append]
      rfl
    · have others : [m].filter (·.goesBy name) = [] := by simp [mine]
      rw [others, List.append_nil, ← ih]
      split
      · rename_i unbound
        have other : name ≠ m.name := by
          rintro rfl
          exact mine (by simp [Metadata.goesBy, unbound])
        rw [Keyed.find?_put, if_neg other]
      · rfl

theorem Reachable.find?_names (h : Reachable env r) (name : String) :
    Keyed.find? name r.names = (r.loaded.filter (·.goesBy name)).getLast?.map (·.type) := by
  have found := h.entered.find?_names name
  rwa [Keyed.find?_nil, Option.or_none] at found

theorem Reachable.named_eq (h : Reachable env r) (name : String) :
    r.named name =
      match (r.loaded.filter (·.goesBy name)).getLast? with
      | some m => .ok m
      | none => .error (.unregisteredName name) := by
  rw [named, h.find?_names]
  cases last : (r.loaded.filter (·.goesBy name)).getLast? with
  | none => rfl
  | some m =>
    have mem : m ∈ r.loaded := (List.mem_filter.1 (List.mem_of_getLast? last)).1
    exact known_eq_ok.2 (h.consistent.find?_eq_some.2 ⟨mem, rfl⟩)

theorem known_of_named (found : r.named name = .ok m) : r.known m.type = .ok m := by
  unfold named at found
  split at found
  · obtain ⟨-, rfl⟩ := find?_of_some (known_eq_ok.1 found)
    exact found
  · cases found

/-! ### Agreement -/

theorem Stacked.nodup (h : Stacked ms) : (ms.map (·.type)).Nodup := by
  induction h with
  | nil => exact .nil
  | snoc _ new _ ih =>
    rw [List.map_append, List.map_singleton, List.nodup_append]
    refine ⟨ih, List.pairwise_singleton _ _, fun a ha b hb same => ?_⟩
    obtain rfl := List.mem_singleton.1 hb
    exact new (same ▸ ha)

/-- Types, names and variants of a registry agree. -/
structure Coherent (r : Registry) : Prop where
  /-- A type is found under itself, -/
  own : ∀ t m, r.find? t = some m → m.type = t
  /-- and nowhere else. -/
  once : (r.loaded.map (·.type)).Nodup
  /-- A name belongs to a loaded type that has it for its records and is no variant. -/
  named : ∀ name t, Keyed.find? name r.names = some t →
    ∃ m, r.find? t = some m ∧ m.name = name ∧ m.binding = none
  /-- A discriminator of a parent belongs to a loaded type that has it from this parent. -/
  grouped : ∀ parent d b, (r.group parent).find? d = some b →
    b.parent = parent ∧ b.discriminator = d ∧ ∃ m, r.find? b.entity = some m ∧ m.binding = some b
  /-- A loaded variant is found under its parent and its discriminator. -/
  bound : ∀ t m b, r.find? t = some m → m.binding = some b →
    (r.group b.parent).find? b.discriminator = some b ∧ b.entity = t
  /-- The variants of a loaded type are loaded. -/
  variants : ∀ t m p, r.find? t = some m → m.polymorphism = some p →
    ∀ v ∈ p.variants, ∃ n, r.find? v = some n

/-- Types, names and variants agree after every sequence of loads. -/
theorem coherent_of_reachable (reached : Reachable env r) : Coherent r where
  own _ _ found := (find?_of_some found).2
  once := reached.consistent.stacked.nodup
  named name t found := by
    rw [reached.find?_names, Option.map_eq_some_iff] at found
    obtain ⟨m, last, rfl⟩ := found
    obtain ⟨mem, mine⟩ := List.mem_filter.1 (List.mem_of_getLast? last)
    obtain ⟨unbound, rfl⟩ := Metadata.goesBy_eq_true.1 mine
    exact ⟨m, reached.consistent.find?_eq_some.2 ⟨mem, rfl⟩, rfl, unbound⟩
  grouped parent d b found := by
    obtain ⟨parent, discriminator, m, mem, bound⟩ := reached.consistent.group_inv found
    have entity := (reached.consistent.builtOf mem).entity_eq bound
    exact ⟨parent, discriminator, m, reached.consistent.find?_eq_some.2 ⟨mem, entity.symm⟩, bound⟩
  bound _ _ _ found bound :=
    ⟨reached.consistent.find?_group found bound,
      (reached.consistent.built_find? found).entity_eq bound⟩
  variants t m p found polymorphic v hv := by
    have listed : v ∈ m.variants := by
      rw [Metadata.variants, polymorphic]
      exact hv
    exact exists_find? (reached.consistent.stacked.variants_loaded (find?_of_some found).1 v listed)

/-! ### Loading more -/

theorem run_load_of_found (found : r.find? t = some m) : (env.load t).run r = (.ok m, r) := by
  rw [Environment.load, run_loadFrom, found]

/-- A name goes on belonging to a type exactly if no type is entered under it, and otherwise belongs
to the last one that is. -/
theorem Entered.named_eq (h : Entered env r ms s) (before : Reachable env r)
    (after : Reachable env s) (found : r.named name = .ok m) :
    s.named name = .ok ((ms.filter (·.goesBy name)).getLast?.getD m) ∧
      (s.named name = .ok m ↔ ∀ k ∈ ms, k.goesBy name = false) := by
  rw [before.named_eq] at found
  cases last : (r.loaded.filter (·.goesBy name)).getLast? with
  | none =>
    rw [last] at found
    cases found
  | some n =>
    rw [last] at found
    cases found
    have now : s.named name = .ok ((ms.filter (·.goesBy name)).getLast?.getD m) := by
      rw [after.named_eq, h.loaded, List.filter_append, List.getLast?_append, last]
      cases (ms.filter (·.goesBy name)).getLast? <;> rfl
    refine ⟨now, ?_⟩
    rw [now]
    cases newest : (ms.filter (·.goesBy name)).getLast? with
    | none =>
      rw [List.getLast?_eq_none_iff, List.filter_eq_nil_iff] at newest
      exact ⟨fun _ k hk => by simpa using newest k hk, fun _ => rfl⟩
    | some k =>
      obtain ⟨hk, mine⟩ := List.mem_filter.1 (List.mem_of_getLast? newest)
      have old : m ∈ r.loaded := (List.mem_filter.1 (List.mem_of_getLast? last)).1
      have once := after.consistent.stacked.nodup
      rw [h.loaded, List.map_append, List.nodup_append] at once
      have other : k ≠ m := by
        rintro rfl
        exact once.2.2 _ (List.mem_map.2 ⟨k, old, rfl⟩) _ (List.mem_map.2 ⟨k, hk, rfl⟩) rfl
      constructor
      · intro same
        exact absurd (Except.ok.inj same) other
      · intro none
        rw [none k hk] at mine
        cases mine

/-- A load, whether it succeeds or not, only adds types. Afterwards every type, and every variant of
a parent, is found that was found before, and with the same metadata. A name is the exception: it
belongs to the last type that was entered under it, so it keeps its type exactly if there is
none. -/
theorem load_keeps_lookups_except_names (reached : Reachable env r) (t : TypeRef)
    (run : ((env.load t).run r).2 = s) :
    ∃ ms, s.loaded = r.loaded ++ ms ∧
      (∀ u m, r.known u = .ok m → s.known u = .ok m ∧ (env.load u).run s = (.ok m, s)) ∧
      (∀ parent d b, (r.group parent).find? d = some b → (s.group parent).find? d = some b) ∧
      ∀ name m, r.named name = .ok m →
        s.named name = .ok ((ms.filter (·.goesBy name)).getLast?.getD m) ∧
          (s.named name = .ok m ↔ ∀ k ∈ ms, k.goesBy name = false) := by
  have run' : (env.load t).run r = (((env.load t).run r).1, s) := Prod.ext rfl run
  obtain ⟨ms, entered⟩ := reached.consistent.entered_load run'
  have grown := entered.grown reached.consistent
  have after : Reachable env s := run ▸ reached.load t
  refine ⟨ms, entered.loaded, fun u m found => ?_, fun _ _ _ => ?_, fun name m found => ?_⟩
  · have found' := grown.consistent.find?_mono grown.le (known_eq_ok.1 found)
    exact ⟨known_eq_ok.2 found', run_load_of_found found'⟩
  · exact reached.consistent.find?_group_mono grown.consistent grown.le
  · exact entered.named_eq reached after found

/-! ### A garage -/

namespace Garage

def vehicle : TypeRef := ⟨0, "Vehicle"⟩

def car : TypeRef := ⟨1, "Car"⟩

def truck : TypeRef := ⟨2, "Truck"⟩

def coach : TypeRef := ⟨3, "Coach"⟩

def depot : TypeRef := ⟨4, "Depot"⟩

def archive : TypeRef := ⟨5, "Archive"⟩

/-- Vehicles are cars and trucks. A coach takes the discriminator of the cars, so a depot of trucks
and coaches cannot be loaded beside cars. The records of an archive have the name of vehicles. -/
def environment : Environment where
  catalog := {
    valueName := "Value"
    descriptors := [
      { name := "Vehicle", type := vehicle, polymorphism := some none, variants := [car, truck] },
      { name := "Car", type := car, suppliesInstances := true
        inheritance := some ⟨vehicle, "car"⟩ },
      { name := "Truck", type := truck, suppliesInstances := true
        inheritance := some ⟨vehicle, "truck"⟩ },
      { name := "Coach", type := coach, suppliesInstances := true
        inheritance := some ⟨vehicle, "car"⟩ },
      { name := "Depot", type := depot, polymorphism := some none, variants := [truck, coach] },
      { name := "Vehicle", type := archive, suppliesInstances := true }] }
  config := {}

/-- A garage after the failing load of a depot, between those of cars and of vehicles. -/
def parked : Registry :=
  let cars := ((environment.load car).run {}).2
  let trucks := ((environment.load depot).run cars).2
  ((environment.load vehicle).run trucks).2

theorem reachable_parked : Reachable environment parked :=
  .load (.load (.load .empty car) depot) vehicle

theorem types_parked : parked.loaded.map (·.type) = [car, truck, vehicle] := by cbv

def archived : Registry := ((environment.load archive).run parked).2

theorem named_parked : (parked.named "Vehicle").map (·.type) = .ok vehicle := by cbv

theorem named_archived : (archived.named "Vehicle").map (·.type) = .ok archive := by cbv

end Garage

open Garage in
theorem coherent_of_reachable_parked :
    Coherent parked ∧ parked.loaded.map (·.type) = [car, truck, vehicle] ∧
      Keyed.find? "Vehicle" parked.names = some vehicle ∧
      (parked.group vehicle).keys = ["car", "truck"] := by
  refine ⟨coherent_of_reachable reachable_parked, types_parked, ?_, ?_⟩ <;> cbv

open Garage in
theorem load_keeps_lookups_except_names_archive :
    ∃ ms m k, archived.loaded = parked.loaded ++ ms ∧ k ∈ ms ∧
      parked.named "Vehicle" = .ok m ∧ m.type = vehicle ∧ archived.known vehicle = .ok m ∧
      archived.named "Vehicle" = .ok k ∧ k.type = archive := by
  obtain ⟨ms, loaded, known, -, named⟩ :=
    load_keeps_lookups_except_names reachable_parked archive (s := archived) rfl
  obtain ⟨m, before, vehicles⟩ := Schema.map_eq_ok named_parked
  obtain ⟨k, after, archives⟩ := Schema.map_eq_ok named_archived
  obtain ⟨now, -⟩ := named "Vehicle" m before
  rw [after] at now
  cases newest : (ms.filter (·.goesBy "Vehicle")).getLast? with
  | none =>
    rw [newest] at now
    cases now
    cases archives.symm.trans vehicles
  | some n =>
    rw [newest] at now
    cases now
    have entered : n ∈ ms := (List.mem_filter.1 (List.mem_of_getLast? newest)).1
    have kept := (known m.type m (known_of_named before)).1
    exact ⟨ms, m, n, loaded, entered, before, vehicles, vehicles ▸ kept, after, archives⟩

open Garage in
/-- Not every look-up by name goes on finding what it has found. -/
theorem load_changes_named :
    ¬ ∀ (env : Environment) (r : Registry) (t : TypeRef) (name : String) (m : Metadata),
      Reachable env r → r.named name = .ok m →
        ∃ n, ((env.load t).run r).2.named name = .ok n ∧ n.type = m.type := by
  intro lasting
  obtain ⟨m, before, type⟩ := Schema.map_eq_ok named_parked
  have after := named_archived
  obtain ⟨n, found, same⟩ :=
    lasting environment parked archive "Vehicle" m reachable_parked before
  have found : archived.named "Vehicle" = .ok n := found
  rw [found] at after
  have other := (Except.ok.inj after).symm.trans (same.trans type)
  cases other

end Registry

end EntityMapping
