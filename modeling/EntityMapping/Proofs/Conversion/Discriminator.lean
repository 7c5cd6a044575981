import EntityMapping.Proofs.Conversion.Repeatable
import EntityMapping.Proofs.Conversion.Written
import EntityMapping.Proofs.Template.Variants

/-!
Discriminators of polymorphic types. An instance of a polymorphic type is written as the variant
that it holds, and read as the variant that its elements name. Both go by what the variant declares:
it marks its record only if it inherits, and only the variants that inherit from a type are found
among those of the type. The list of variants of the type has no say in this. So a listed variant
is told from its record exactly if it inherits from the type.
-/

namespace EntityMapping

open Effect Environment Registry

variable {env : Environment} {s : Registry} {t v : TypeRef} {m n : Metadata} {es : Elements}

/-- Some elements are read as those of a variant: their discriminator is found among the variants of
the type, and leads to the metadata of the variant. -/
def Resolves (s : Registry) (m : Metadata) (es : Elements) (v : TypeRef) : Prop :=
  ∃ p d b n, m.polymorphism = some p ∧ es.find? p.column = some d ∧
    (s.group m.type).find? (discriminatorText d) = some b ∧ b.entity = v ∧
    s.find? v = some n ∧ (readingMetadata m es).run s = (.ok n, s)

/-- A variant declares that it inherits from a type. -/
def Catalog.Inherits (catalog : Catalog) (v t : TypeRef) : Prop :=
  ∃ i, (catalog.describe v).inheritance = some i ∧ i.parent = t

theorem Registry.Consistent.inherits_of_group {d : String} {b : VariantBinding}
    (h : Consistent env s) (found : (s.group t).find? d = some b) :
    env.catalog.Inherits b.entity t := by
  obtain ⟨parent, -, k, mem, bound⟩ := h.group_inv found
  have built := h.builtOf mem
  rw [← built.entity_eq bound] at built
  rw [built.binding_eq, Schema.declaredBinding, Option.bind_eq_some_iff] at bound
  obtain ⟨i, inherits, bound⟩ := bound
  obtain ⟨declared, -, same⟩ := Option.map_eq_some_iff.1 bound
  exact ⟨i, inherits, (congrArg VariantBinding.parent same).trans parent⟩

/-! ### Which elements resolve -/

theorem run_readingMetadata_of_named {p : Polymorphism} {b : VariantBinding}
    (polymorphic : m.polymorphism = some p) (named : variantIn (s.group m.type) m p es = .ok b)
    (loaded : s.find? b.entity = some n) : (readingMetadata m es).run s = (.ok n, s) := by
  rw [readingMetadata, polymorphic]
  exact (run_bind_of_ok (run_ask_of_ok named)).trans (run_ask_of_ok (known_eq_ok.2 loaded))

/-- Elements that a variant of a type has marked resolve to it. -/
theorem resolves_of_marked {p : Polymorphism} {b : VariantBinding} (h : Consistent env s)
    (polymorphic : m.polymorphism = some p) (loaded : s.find? v = some n)
    (bound : n.binding = some b) (parent : b.parent = m.type) (column : p.column = b.column)
    (marked : es.find? b.column = some (.text b.discriminator)) : Resolves s m es v := by
  have entity : b.entity = v := (h.built_find? loaded).entity_eq bound
  have found : (s.group m.type).find? b.discriminator = some b :=
    parent ▸ h.find?_group loaded bound
  have named := variantIn_eq_ok h loaded bound parent column marked
  exact ⟨p, .text b.discriminator, b, n, polymorphic, column ▸ marked, found, entity, loaded,
    run_readingMetadata_of_named polymorphic named (entity ▸ loaded)⟩

theorem Resolves.unique {u : TypeRef} (h : Resolves s m es v) (g : Resolves s m es u) : v = u := by
  obtain ⟨-, -, -, n, -, -, -, -, loaded, run⟩ := h
  obtain ⟨-, -, -, k, -, -, -, -, loaded', run'⟩ := g
  obtain rfl : n = k := Except.ok.inj (congrArg Prod.fst (run.symm.trans run'))
  exact (find?_of_some loaded).2.symm.trans (find?_of_some loaded').2

theorem Resolves.inherits (h : Resolves s m es v) (consistent : Consistent env s) :
    env.catalog.Inherits v m.type := by
  obtain ⟨-, d, b, -, -, -, found, rfl, -, -⟩ := h
  exact consistent.inherits_of_group found

/-- What is read as an instance of a polymorphic type holds one of the variant that the elements
resolve to. -/
theorem resolves_of_read {p : Polymorphism} {i : Instance} {u : Registry}
    (h : Consistent env s) (loaded : s.find? t = some m) (polymorphic : m.polymorphism = some p)
    (run : (env.read m es).run s = (.ok i, u)) :
    ∃ j, i.held = some j ∧ Resolves s m es j.type := by
  have built := h.built_find? loaded
  have fresh : m.type ∈ env.catalog.types := built.type ▸ built.mem_types
  rw [Environment.read, instantiate_polymorphic fresh polymorphic] at run
  obtain ⟨b, r₁, resolved, next⟩ := run_bind_eq_ok.1 run
  obtain ⟨named, rfl⟩ := run_ask_eq_ok.1 resolved
  obtain ⟨n, r₂, asked, rest⟩ := run_bind_eq_ok.1 next
  obtain ⟨known, rfl⟩ := run_ask_eq_ok.1 asked
  obtain ⟨j, r₃, -, lifted⟩ := run_bind_eq_ok.1 rest
  obtain ⟨d, column, found⟩ := variantIn_eq_ok_iff.1 named
  have loaded := known_eq_ok.1 known
  unfold lift at lifted
  split at lifted
  · rename_i type
    cases lifted
    exact ⟨j, rfl, p, d, b, n, polymorphic, column, found, type.symm, type.symm ▸ loaded,
      run_readingMetadata_of_named polymorphic named loaded⟩
  · cases lifted

/-! ### What is written -/

theorem Registry.Consistent.binding_of_inherits {p : Polymorphism} {i : Inheritance}
    (h : Consistent env s) (loaded : s.find? t = some m) (polymorphic : m.polymorphism = some p)
    (variant : s.find? v = some n) (inherits : (env.catalog.describe v).inheritance = some i)
    (parent : i.parent = t) : n.binding = some ⟨p.column, i.discriminator, t, v⟩ := by
  have same := (h.built_find? loaded).polymorphism.symm.trans polymorphic
  obtain ⟨declared, declares, rfl⟩ := Option.map_eq_some_iff.1 same
  rw [(h.built_find? variant).binding_eq, Schema.declaredBinding, inherits, Option.bind_some,
    parent, declares]
  rfl

/-- The record of an instance that holds one of a variant is marked as one of the variant. -/
theorem marks_of_run_toRecord {c c' : Context} {i j : Instance} {r : Record} {b : VariantBinding}
    (used : Mapping.Used env c) (polymorphic : (env.catalog.describe t).isPolymorphic = true)
    (held : i.held = some j) (build : Schema.build env.catalog env.config j.type = .ok n)
    (bound : n.binding = some b) (written : (Mapping.toRecord t i).run c = (.ok r, c')) :
    b.Marks r := by
  have single : WrittenAs env t i j.type j := by
    rw [WrittenAs, if_pos polymorphic]
    exact ⟨held, rfl⟩
  have fields : Yields (Consistent env) (env.fieldElements j n.fields) fun _ => True :=
    (yields_keys.2.2.1 j n.fields).imp fun _ _ => trivial
  obtain ⟨es, -, rfl⟩ := Mapping.run_toRecord_of_yields used single build fields written
  exact Metadata.marks_record bound es

/-- The record of an instance of a polymorphic type, which holds one of a listed variant, resolves
to the variant exactly if the variant inherits from the type. Then it has the discriminator that the
variant declares. What is read from it holds an instance of the same variant in this case, and one
of another variant in any other. -/
theorem written_variant_resolves_iff_inherits {c c' : Context} {i j : Instance} {r : Record}
    (used : Mapping.Used env c) (held : i.held = some j)
    (written : (Mapping.toRecord t i).run c = (.ok r, c')) (reached : Reachable env s)
    (loaded : s.find? t = some m) (listed : j.type ∈ m.variants) :
    (Resolves s m r.elements j.type ↔ env.catalog.Inherits j.type t) ∧
      (∀ h, (env.catalog.describe j.type).inheritance = some h → h.parent = t →
        ∃ p, m.polymorphism = some p ∧ r.find? p.column = some (.text h.discriminator)) ∧
      ∀ k u, (env.read m r.elements).run s = (.ok k, u) →
        ∃ l, k.held = some l ∧ (l.type = j.type ↔ env.catalog.Inherits j.type t) := by
  have consistent := reached.consistent
  have built := consistent.built_find? loaded
  obtain ⟨p, polymorphic⟩ : ∃ p, m.polymorphism = some p := by
    cases none : m.polymorphism with
    | some p => exact ⟨p, rfl⟩
    | none => simp [Metadata.variants, none] at listed
  have declared : (env.catalog.describe t).isPolymorphic = true := by
    rw [← built.isPolymorphic, Metadata.isPolymorphic, polymorphic]
    rfl
  obtain ⟨n, variant⟩ :=
    exists_find? (consistent.stacked.variants_loaded (find?_of_some loaded).1 _ listed)
  have marked : ∀ h, (env.catalog.describe j.type).inheritance = some h → h.parent = t →
      r.find? p.column = some (.text h.discriminator) := fun h inherits parent =>
    marks_of_run_toRecord used declared held (consistent.build_find? variant)
      (consistent.binding_of_inherits loaded polymorphic variant inherits parent) written
  have resolves : Resolves s m r.elements j.type ↔ env.catalog.Inherits j.type t := by
    constructor
    · intro resolves
      exact built.type ▸ resolves.inherits consistent
    · rintro ⟨h, inherits, parent⟩
      exact resolves_of_marked consistent polymorphic variant
        (consistent.binding_of_inherits loaded polymorphic variant inherits parent)
        built.type.symm rfl (marked h inherits parent)
  refine ⟨resolves, fun h inherits parent => ⟨p, polymorphic, marked h inherits parent⟩, ?_⟩
  intro k u run
  obtain ⟨l, holds, found⟩ := resolves_of_read consistent loaded polymorphic run
  refine ⟨l, holds, fun same => resolves.1 (same ▸ found), fun inherits => ?_⟩
  exact found.unique (resolves.2 inherits)

/-! ### A kennel -/

namespace Kennel

def pet : TypeRef := ⟨0, "Pet"⟩

def dog : TypeRef := ⟨1, "Dog"⟩

def cat : TypeRef := ⟨2, "Cat"⟩

/-- Dogs and cats are listed as pets, but only dogs inherit. -/
def environment : Environment where
  catalog := {
    valueName := "Value"
    descriptors := [
      { name := "Pet", type := pet, polymorphism := some none, variants := [dog, cat] },
      { name := "Dog", type := dog, suppliesInstances := true
        inheritance := some ⟨pet, "dog"⟩ },
      { name := "Cat", type := cat, suppliesInstances := true }] }
  config := {}

def context : Context := { environment }

def registry : Registry := ((environment.load pet).run {}).2

def petOf (kind : TypeRef) : Instance := (Instance.mk pet [] none).around (.mk kind [] none)

theorem used_context : Mapping.Used environment context := ⟨rfl, .empty⟩

theorem reachable_registry : Reachable environment registry := .load .empty pet

theorem exists_find?_pet : ∃ m, registry.find? pet = some m ∧ m.variants = [dog, cat] := by
  have listed : (registry.find? pet).map (·.variants) = some [dog, cat] := by cbv
  exact Option.map_eq_some_iff.1 listed

end Kennel

open Kennel in
theorem written_variant_resolves_iff_inherits_dog :
    ∃ m r c' p, (Mapping.toRecord pet (petOf dog)).run context = (.ok r, c') ∧
      registry.find? pet = some m ∧ m.polymorphism = some p ∧
      r.find? p.column = some (.text "dog") ∧ Resolves registry m r.elements dog := by
  obtain ⟨m, loaded, variants⟩ := exists_find?_pet
  have writes : ((Mapping.toRecord pet (petOf dog)).run context).1.isOk = true := by cbv
  obtain ⟨r, c', written⟩ := exists_of_isOk writes
  have listed : dog ∈ m.variants := variants ▸ List.mem_cons_self ..
  obtain ⟨resolves, marked, -⟩ := written_variant_resolves_iff_inherits (j := .mk dog [] none)
    used_context rfl written reachable_registry loaded listed
  obtain ⟨p, polymorphic, found⟩ := marked ⟨pet, "dog"⟩ rfl rfl
  exact ⟨m, r, c', p, written, loaded, polymorphic, found, resolves.2 ⟨⟨pet, "dog"⟩, rfl, rfl⟩⟩

open Kennel in
/-- Not every record that is written for a listed variant resolves to it. -/
theorem written_cat_does_not_resolve :
    ¬ ∀ (env : Environment) (c c' : Context) (t : TypeRef) (i j : Instance) (r : Record)
      (s : Registry) (m : Metadata), Mapping.Used env c → i.held = some j →
      (Mapping.toRecord t i).run c = (.ok r, c') → Reachable env s → s.find? t = some m →
      j.type ∈ m.variants → Resolves s m r.elements j.type := by
  intro allResolve
  obtain ⟨m, loaded, variants⟩ := exists_find?_pet
  have writes : ((Mapping.toRecord pet (petOf cat)).run context).1.isOk = true := by cbv
  obtain ⟨r, c', written⟩ := exists_of_isOk writes
  have listed : cat ∈ m.variants := variants ▸ List.mem_cons_of_mem _ (List.mem_cons_self ..)
  have resolves := allResolve environment context c' pet (petOf cat) (.mk cat [] none) r registry m
    used_context rfl written reachable_registry loaded listed
  obtain ⟨i, inherits, -⟩ := resolves.inherits reachable_registry.consistent
  cases inherits

end EntityMapping
