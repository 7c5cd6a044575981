import EntityMapping.Proofs.Template.Runs

/-!
Updates in a collection that several variants share. Queries on a variant ask for its discriminator,
an update only for the value under the key of the id. So the update of an instance of one variant
replaces every record with that value, whichever variant the record belongs to: what tells the
records of the other variants apart has to be their ids.
-/

namespace EntityMapping

open Effect Environment

variable {env : Environment}

/-- A record is marked as one of a variant. -/
def VariantBinding.Marks (b : VariantBinding) (r : Record) : Prop :=
  r.find? b.column = some (.text b.discriminator)

theorem Metadata.marks_record {m : Metadata} {b : VariantBinding} (bound : m.binding = some b)
    (es : Elements) : b.Marks (.ofElements m.name (es ++ m.marks)) := by
  have mark : Keyed.under b.column m.marks = [.text b.discriminator] := by
    rw [Metadata.marks, bound]
    simp [VariantBinding.element, Keyed.under_cons]
  rw [VariantBinding.Marks, Record.find?_ofElements, Keyed.under_append, mark,
    List.getLast?_append]
  rfl

/-- The records of a variant have the name of the parent. -/
theorem Schema.Built.name_of_bound {catalog : Catalog} {config : Config} {t : TypeRef}
    {m : Metadata} {b : VariantBinding} (h : Built catalog config t m)
    (bound : m.binding = some b) : m.name = (catalog.describe b.parent).name := by
  have answer := h.binding
  rw [nameAndBinding] at answer
  cases hi : (catalog.describe t).inheritance with
  | none =>
    simp only [hi, Except.ok.injEq, Prod.mk.injEq] at answer
    rw [bound] at answer
    cases answer.2
  | some i =>
    rw [hi] at answer
    cases hp : (catalog.describe i.parent).polymorphism with
    | none => simp [bindVariant, hp, Except.map] at answer
    | some declared =>
      simp only [bindVariant, hp, Except.map, Except.ok.injEq, Prod.mk.injEq] at answer
      rw [bound, Option.some.injEq] at answer
      rw [← answer.1, ← answer.2]

/-- The records with a property stand in another list where they stood. -/
def KeptIn (P : Record → Prop) (before after : List Record) : Prop :=
  ∀ (k : Nat) (s : Record), before[k]? = some s → P s → after[k]? = some s

/-- Upserting a record that is marked leaves the unmarked ones in place exactly if none of them has
the value that the record has under the key. -/
theorem Store.keptIn_upsert_iff {b : VariantBinding} {key : String} {id : Value} {r : Record}
    {rs : List Record} (marked : b.Marks r) :
    KeptIn (fun s => ¬ b.Marks s) rs (upsert key id r rs) ↔
      ∀ s ∈ rs, identifiedBy key id s = true → b.Marks s := by
  constructor
  · intro kept s mem same
    obtain ⟨k, there⟩ := List.mem_iff_getElem?.1 mem
    refine Classical.byContradiction fun unmarked => unmarked ?_
    have replaced : (upsert key id r rs)[k]? = _ := getElem?_upsert there
    rw [kept k s there unmarked, same, if_pos rfl] at replaced
    rw [Option.some.inj replaced]
    exact marked
  · intro apart k s there unmarked
    have other : identifiedBy key id s = false :=
      Bool.eq_false_iff.2 fun same => unmarked (apart s (List.mem_of_getElem? there) same)
    rw [getElem?_upsert there, other]
    rfl

/-- The update of an instance of a variant either fails with the store as it was, or puts a record
of the variant in the place of every record of the hierarchy that has the same value under the id
key. So the records of the other variants stay exactly if none of them has that value. -/
theorem updated_variant_replaces_equal_ids (env : Environment) (tp tp' : Template)
    (used : Mapping.Used env tp.context) (t v : TypeRef) (i j : Instance) (n : Metadata)
    (written : WrittenAs env t i v j) (build : Schema.build env.catalog env.config v = .ok n)
    (b : VariantBinding) (bound : n.binding = some b) (answer : Except MapperError Instance)
    (run : (Persisting.update t i).run tp = (answer, tp')) :
    let name := (env.catalog.describe b.parent).name
    ((∃ e, answer = .error e) ∧ tp'.store = tp.store) ∨
      ∃ f r id, n.id? = some f ∧ b.Marks r ∧ r.find? f.key = some id ∧
        tp'.store = tp.store.setRecords name (Store.upsert f.key id r (tp.store.records name)) ∧
        (KeptIn (fun s => ¬ b.Marks s) (tp.store.records name) (tp'.store.records name) ↔
          ∀ s ∈ tp.store.records name, Store.identifiedBy f.key id s = true → b.Marks s) := by
  intro name
  have fields : Yields (Registry.Consistent env) (env.fieldElements j n.fields) fun _ => True :=
    (yields_keys.2.2.1 j n.fields).imp fun _ _ => trivial
  obtain failed | ⟨f, r, id, isId, ⟨es, -, rfl⟩, found, upserted, -⟩ :=
    Persisting.run_update used written build fields run
  · exact .inl failed
  rw [(Schema.built_of_build build).name_of_bound bound] at upserted
  have marked := Metadata.marks_record bound es
  refine .inr ⟨f, _, id, isId, marked, found, ?_, ?_⟩
  · rw [upserted, (Schema.built_of_build build).name_of_bound bound]
  · rw [upserted, Store.records_setRecords, if_pos rfl]
    exact Store.keptIn_upsert_iff marked

/-! ### A fleet -/

namespace Fleet

def vehicle : TypeRef := ⟨0, "Vehicle"⟩

def car : TypeRef := ⟨1, "Car"⟩

def truck : TypeRef := ⟨2, "Truck"⟩

/-- Vehicles are cars and trucks, each with an id of its own. -/
def environment : Environment where
  catalog := {
    valueName := "Value"
    descriptors := [
      { name := "Vehicle", type := vehicle, polymorphism := some none, variants := [car, truck] },
      { name := "Car", type := car, suppliesInstances := true
        fields := [⟨(Column.of "id").id, .plain .int64 (0 : Int64)⟩]
        inheritance := some ⟨vehicle, "car"⟩ },
      { name := "Truck", type := truck, suppliesInstances := true
        fields := [⟨(Column.of "id").id, .plain .int64 (0 : Int64)⟩]
        inheritance := some ⟨vehicle, "truck"⟩ }] }
  config := {}

def numbered (t : TypeRef) (n : Int64) : Instance := .mk t [("id", .plain .int64 n)] none

def start : Template := ⟨{ environment }, {}⟩

def withTruck : Template := ((Persisting.insert truck (numbered truck 1)).run start).2

theorem used_withTruck : Mapping.Used environment withTruck.context :=
  Persisting.keeps_persist Mapping.lasting_used truck (numbered truck 1) .insert start ⟨rfl, .empty⟩

def held : Instance := (Instance.mk vehicle [] none).around (numbered car 1)

theorem exists_built : ∃ n, Schema.build environment.catalog environment.config car = .ok n ∧
    n.name = "Vehicle" ∧ n.binding = some ⟨"dtype", "car", vehicle, car⟩ := by
  have known : (Schema.build environment.catalog environment.config car).map (fun n =>
      (n.name, n.binding)) = .ok ("Vehicle", some ⟨"dtype", "car", vehicle, car⟩) := by
    cbv
  obtain ⟨n, build, same⟩ := Schema.map_eq_ok known
  exact ⟨n, build, congrArg Prod.fst same, congrArg Prod.snd same⟩

theorem run_update_held :
    ((Persisting.update vehicle held).run withTruck).1.isOk = true ∧
      (withTruck.store.records "Vehicle").map (·.find? "dtype") = [some (.text "truck")] ∧
      (((Persisting.update vehicle held).run withTruck).2.store.records "Vehicle").map
        (·.find? "dtype") = [some (.text "car")] := by
  refine ⟨?_, ?_, ?_⟩ <;> cbv

/-- The discriminators of some records tell that the first of them was a truck's and is a car's. -/
theorem not_keptIn_of_discriminators {before after : List Record}
    (truck : before.map (·.find? "dtype") = [some (.text "truck")])
    (car : after.map (·.find? "dtype") = [some (.text "car")]) :
    ¬ KeptIn (fun s => ¬ VariantBinding.Marks ⟨"dtype", "car", vehicle, Fleet.car⟩ s) before
      after := by
  obtain ⟨r, rfl, old⟩ := List.map_eq_singleton_iff.1 truck
  obtain ⟨r', rfl, new⟩ := List.map_eq_singleton_iff.1 car
  have other : Value.text "truck" ≠ .text "car" := by simp
  have unmarked : r.find? "dtype" ≠ some (.text "car") := by
    rw [old]
    exact fun same => other (Option.some.inj same)
  intro kept
  have same : r' = r := Option.some.inj (kept 0 r rfl unmarked)
  rw [← same] at unmarked
  exact unmarked new

end Fleet

open Fleet in
theorem updated_variant_replaces_equal_ids_car :
    ∃ n b answer tp', Mapping.Used environment withTruck.context ∧
      WrittenAs environment vehicle held car (numbered car 1) ∧
      Schema.build environment.catalog environment.config car = .ok n ∧ n.binding = some b ∧
      (Persisting.update vehicle held).run withTruck = (answer, tp') ∧
      ∃ f r id, n.id? = some f ∧ b.Marks r ∧ r.find? f.key = some id ∧
        tp'.store = withTruck.store.setRecords "Vehicle"
          (Store.upsert f.key id r (withTruck.store.records "Vehicle")) ∧
        ¬ ∀ s ∈ withTruck.store.records "Vehicle",
          Store.identifiedBy f.key id s = true → b.Marks s := by
  obtain ⟨n, build, -, bound⟩ := exists_built
  obtain ⟨answers, truck, car⟩ := run_update_held
  rcases updated : (Persisting.update vehicle held).run withTruck with ⟨answer, tp'⟩
  rw [updated] at answers car
  refine ⟨n, _, answer, tp', used_withTruck, ⟨rfl, rfl⟩, build, bound, rfl, ?_⟩
  obtain ⟨⟨e, rfl⟩, -⟩ | ⟨f, r, id, isId, marked, found, upserted, kept⟩ :=
    updated_variant_replaces_equal_ids environment withTruck tp' used_withTruck vehicle Fleet.car
      held (numbered Fleet.car 1) n ⟨rfl, rfl⟩ build _ bound answer updated
  · cases answers
  · exact ⟨f, r, id, isId, marked, found, upserted,
      mt kept.2 (not_keptIn_of_discriminators truck car)⟩

open Fleet in
/-- Not every update of an instance of a variant leaves the records of the other variants, not even
where the only other record was inserted through the template. -/
theorem update_replaces_other_variant :
    ¬ ∀ (env : Environment) (tp tp₁ tp₂ : Template) (t u v : TypeRef) (i j k x y : Instance)
      (n : Metadata) (b : VariantBinding), Mapping.Used env tp.context →
      tp.store.collections = [] → (Persisting.insert u k).run tp = (.ok y, tp₁) →
      WrittenAs env t i v j → Schema.build env.catalog env.config v = .ok n →
      n.binding = some b → (Persisting.update t i).run tp₁ = (.ok x, tp₂) →
      KeptIn (fun s => ¬ b.Marks s) (tp₁.store.records n.name) (tp₂.store.records n.name) := by
  intro keepsOthers
  obtain ⟨n, build, name, bound⟩ := exists_built
  obtain ⟨answers, truck, car⟩ := run_update_held
  have inserts : ((Persisting.insert Fleet.truck (numbered Fleet.truck 1)).run start).1.isOk =
      true := by
    cbv
  obtain ⟨y, tp₁, inserted⟩ := exists_of_isOk inserts
  have same : withTruck = tp₁ := congrArg Prod.snd inserted
  obtain ⟨x, tp₂, updated⟩ := exists_of_isOk answers
  rw [updated] at car
  have kept := keepsOthers environment start withTruck tp₂ vehicle Fleet.truck Fleet.car held
    (numbered Fleet.car 1) (numbered Fleet.truck 1) x y n _ ⟨rfl, .empty⟩ rfl
    (same ▸ inserted) ⟨rfl, rfl⟩ build bound updated
  rw [name] at kept
  exact not_keptIn_of_discriminators truck car kept

end EntityMapping
