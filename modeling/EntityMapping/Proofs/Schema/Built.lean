import EntityMapping.Schema.Build
import Mathlib.Data.List.Pairwise

/-!
What is known about a type whose declaration was accepted: its attributes are the declared ones
with their keys, no name and no key twice, and every other part of its metadata is read off the
declaration in the same way.
-/

namespace EntityMapping

theorem Catalog.describe_of_undeclared {catalog : Catalog} {t : TypeRef}
    (absent : t ∉ catalog.types) : catalog.describe t = { name := "", type := t } := by
  rw [describe, List.find?_eq_none.2, Option.getD_none]
  intro d hd same
  exact absent (List.mem_map.2 ⟨d, hd, by simpa using same⟩)

namespace Schema

variable {catalog : Catalog} {config : Config} {t : TypeRef} {m : Metadata}

/-- The declared attributes of a type with their native keys. -/
def declared (catalog : Catalog) (config : Config) (t : TypeRef) : List MappedField :=
  (catalog.describe t).fields.map (mapField config t)

theorem owner_of_mem_declared {f : MappedField} (h : f ∈ declared catalog config t) :
    f.owner = t := by
  obtain ⟨g, -, rfl⟩ := List.mem_map.1 h
  rfl

/-! ### Attributes that go together -/

/-- Two attributes of a type are not both its id, and differ in name and key. -/
def Compatible (f g : MappedField) : Prop :=
  ¬ (f.isId ∧ g.isId) ∧ f.field ≠ g.field ∧ f.key ≠ g.key

theorem checkAfter_eq_ok {before : List MappedField} {f : MappedField} :
    checkAfter t before f = .ok () ↔ ∀ b ∈ before, Compatible b f := by
  have search : (if f.isId then before.find? (·.isId) else none) = none ↔
      ∀ b ∈ before, ¬ (b.isId ∧ f.isId) := by
    cases f.isId <;> simp
  unfold checkAfter
  split
  · rename_i g found
    refine ⟨nofun, fun compatible => ?_⟩
    rw [search.2 fun b hb => (compatible b hb).1] at found
    cases found
  · rename_i noId
    have ids := search.1 noId
    split
    · rename_i sameName
      obtain ⟨b, hb, same⟩ := List.any_eq_true.1 sameName
      exact ⟨nofun, fun compatible => absurd (beq_iff_eq.1 same) (compatible b hb).2.1⟩
    · split
      · rename_i sameKey
        obtain ⟨b, hb, same⟩ := List.any_eq_true.1 sameKey
        exact ⟨nofun, fun compatible => absurd (beq_iff_eq.1 same) (compatible b hb).2.2⟩
      · rename_i noName noKey
        simp only [List.any_eq_true, beq_iff_eq, not_exists, not_and] at noName noKey
        exact ⟨fun _ b hb => ⟨ids b hb, noName b hb, noKey b hb⟩, fun _ => rfl⟩

theorem checkAllAfter_eq_ok {before fs : List MappedField} :
    checkAllAfter t before fs = .ok () ↔
      (∀ f ∈ fs, ∀ b ∈ before, Compatible b f) ∧ fs.Pairwise Compatible := by
  induction fs generalizing before with
  | nil => simp [checkAllAfter]
  | cons f fs ih =>
    have stages : checkAllAfter t before (f :: fs) = .ok () ↔
        checkAfter t before f = .ok () ∧ checkAllAfter t (before ++ [f]) fs = .ok () := by
      rw [checkAllAfter]
      cases checkAfter t before f with
      | error e => exact ⟨nofun, fun h => nomatch h.1⟩
      | ok _ => exact ⟨fun h => ⟨rfl, h⟩, fun h => h.2⟩
    rw [stages, checkAfter_eq_ok, ih, List.forall_mem_cons, List.pairwise_cons]
    constructor
    · rintro ⟨first, later, apart⟩
      exact ⟨⟨first, fun g hg b hb => later g hg b (List.mem_append_left _ hb)⟩,
        fun g hg => later g hg f (List.mem_append_right _ (List.mem_singleton_self f)), apart⟩
    · rintro ⟨⟨first, later⟩, next, apart⟩
      refine ⟨first, fun g hg b hb => ?_, apart⟩
      rcases List.mem_append.1 hb with hb | hb
      · exact later g hg b hb
      · rw [List.mem_singleton.1 hb]
        exact next g hg

/-- The attributes of a type are its declared ones, if they go together. -/
theorem fieldsOf_eq_ok {fs : List MappedField} :
    fieldsOf config (catalog.describe t) = .ok fs ↔
      fs = declared catalog config t ∧ fs.Pairwise Compatible := by
  have stages : fieldsOf config (catalog.describe t) = .ok fs ↔
      checkAllAfter t [] (declared catalog config t) = .ok () ∧
        declared catalog config t = fs := by
    rw [fieldsOf, Catalog.type_describe, ← declared]
    cases checkAllAfter t [] (declared catalog config t) with
    | error e => exact ⟨nofun, fun h => nomatch h.1⟩
    | ok _ => exact ⟨fun h => ⟨rfl, Except.ok.inj h⟩, fun h => congrArg _ h.2⟩
  rw [stages, checkAllAfter_eq_ok]
  constructor
  · rintro ⟨⟨-, apart⟩, rfl⟩
    exact ⟨rfl, apart⟩
  · rintro ⟨rfl, apart⟩
    exact ⟨⟨by simp, apart⟩, rfl⟩

theorem fieldsOf_ok {fs : List MappedField}
    (h : fieldsOf config (catalog.describe t) = .ok fs) :
    fs = declared catalog config t ∧
      fs.Pairwise fun f g => f.field ≠ g.field ∧ f.key ≠ g.key :=
  (fieldsOf_eq_ok.1 h).imp id fun apart => apart.imp And.right

/-! ### Accepted declarations -/

/-- The tie that a type declares to a polymorphic parent. -/
def declaredBinding (catalog : Catalog) (config : Config) (t : TypeRef) : Option VariantBinding :=
  (catalog.describe t).inheritance.bind fun i =>
    (catalog.describe i.parent).polymorphism.map fun declared =>
      ⟨discriminatorColumn config declared, i.discriminator, i.parent, t⟩

/-- The metadata of an accepted type, by its declaration. -/
structure Built (catalog : Catalog) (config : Config) (t : TypeRef) (m : Metadata) : Prop where
  type : m.type = t
  fields : m.fields = declared catalog config t
  apart : m.fields.Pairwise fun f g => f.field ≠ g.field ∧ f.key ≠ g.key
  keys : ∃ ks, recordKeys catalog config t m.fields = .ok ks
  constructible : checkConstructible (catalog.describe t) = .ok ()
  binding : nameAndBinding catalog config (catalog.describe t) = .ok (m.name, m.binding)
  paths : pathIndex catalog config t m.fields = .ok m.paths
  suppliesInstances : m.suppliesInstances = (catalog.describe t).suppliesInstances
  constructor : m.constructor = (catalog.describe t).constructor
  polymorphism : m.polymorphism = (catalog.describe t).polymorphism.map fun declared =>
    ⟨discriminatorColumn config declared, (catalog.describe t).variants⟩

theorem bind_eq_ok {α β : Type} {x : Except MapperError α} {f : α → Except MapperError β} {b : β}
    (h : (x >>= f) = .ok b) : ∃ a, x = .ok a ∧ f a = .ok b := by
  cases x with
  | error e => cases h
  | ok a => exact ⟨a, rfl, h⟩

theorem map_eq_ok {α β : Type} {x : Except MapperError α} {f : α → β} {b : β}
    (h : x.map f = .ok b) : ∃ a, x = .ok a ∧ f a = b := by
  cases x with
  | error e => cases h
  | ok a => exact ⟨a, rfl, Except.ok.inj h⟩

theorem built_of_build (h : build catalog config t = .ok m) : Built catalog config t m := by
  unfold build at h
  obtain ⟨fs, hfs, h⟩ := bind_eq_ok h
  obtain ⟨ks, hks, h⟩ := bind_eq_ok h
  obtain ⟨⟨⟩, constructible, h⟩ := bind_eq_ok h
  obtain ⟨⟨⟩, -, h⟩ := bind_eq_ok h
  obtain ⟨⟨name, binding⟩, hb, h⟩ := bind_eq_ok h
  obtain ⟨paths, hp, h⟩ := bind_eq_ok h
  cases h
  obtain ⟨fields, apart⟩ := fieldsOf_ok hfs
  exact { type := rfl, fields, apart, keys := ⟨ks, hks⟩, constructible, binding := hb, paths := hp,
          suppliesInstances := rfl, constructor := rfl, polymorphism := rfl }

namespace Built

theorem mem_types (h : Built catalog config t m) : t ∈ catalog.types := by
  refine Classical.byContradiction fun absent => ?_
  have := h.constructible
  rw [Catalog.describe_of_undeclared absent] at this
  cases this

theorem isPolymorphic (h : Built catalog config t m) :
    m.isPolymorphic = (catalog.describe t).isPolymorphic := by
  rw [Metadata.isPolymorphic, h.polymorphism, Option.isSome_map, Descriptor.isPolymorphic]

theorem binding_eq (h : Built catalog config t m) :
    m.binding = declaredBinding catalog config t := by
  have answer := h.binding
  rw [nameAndBinding] at answer
  cases hi : (catalog.describe t).inheritance with
  | none =>
    simp only [hi, Except.ok.injEq, Prod.mk.injEq] at answer
    rw [declaredBinding, hi, Option.bind_none, answer.2]
  | some i =>
    rw [hi] at answer
    cases hp : (catalog.describe i.parent).polymorphism with
    | none => simp [bindVariant, hp, Except.map] at answer
    | some declared =>
      simp only [bindVariant, hp, Except.map, Catalog.type_describe, Except.ok.injEq,
        Prod.mk.injEq] at answer
      simp [declaredBinding, hi, hp, ← answer.2]

/-- A type whose instances are had without arguments does not construct them. -/
theorem isConstructed_eq_false (h : Built catalog config t m)
    (supplied : (catalog.describe t).suppliesInstances = true ∧
      ∀ k, (catalog.describe t).constructor = some k → k.isDefault = true) :
    m.isConstructed = false := by
  have default : m.isDefaultConstructed = true := by
    rw [Metadata.isDefaultConstructed, h.suppliesInstances, supplied.1, h.constructor,
      Bool.and_true]
    split
    · rfl
    · rename_i k hk
      exact supplied.2 k hk
  rw [Metadata.isConstructed, default]
  simp

theorem entity_eq (h : Built catalog config t m) {b : VariantBinding} (hb : m.binding = some b) :
    b.entity = t := by
  rw [h.binding_eq, declaredBinding, Option.bind_eq_some_iff] at hb
  obtain ⟨i, -, hb⟩ := hb
  obtain ⟨declared, -, rfl⟩ := Option.map_eq_some_iff.1 hb
  rfl

theorem marks_eq (h : Built catalog config t m) :
    m.marks = ((declaredBinding catalog config t).map VariantBinding.element).toList := by
  rw [Metadata.marks, h.binding_eq]

theorem marks_of_unbound (h : Built catalog config t m)
    (unbound : (catalog.describe t).inheritance = none) : m.marks = [] := by
  rw [h.marks_eq, declaredBinding, unbound]
  rfl

theorem mem_marks (h : Built catalog config t m) {e : String × Value} (mem : e ∈ m.marks) :
    ∃ b, declaredBinding catalog config t = some b ∧ e = (b.column, .text b.discriminator) := by
  rw [h.marks_eq] at mem
  cases bound : declaredBinding catalog config t with
  | none =>
    rw [bound] at mem
    cases mem
  | some b =>
    rw [bound] at mem
    exact ⟨b, rfl, List.mem_singleton.1 mem⟩

theorem mem_keys_marks (h : Built catalog config t m) {k : String}
    (mem : k ∈ Keyed.keys m.marks) :
    ∃ b, declaredBinding catalog config t = some b ∧ b.column = k := by
  obtain ⟨e, he, rfl⟩ := List.mem_map.1 mem
  obtain ⟨b, bound, rfl⟩ := h.mem_marks he
  exact ⟨b, bound, rfl⟩

theorem pairwise_ne (h : Built catalog config t m) : m.fields.Pairwise (· ≠ ·) :=
  h.apart.imp fun {_ _} apart same => apart.1 (congrArg MappedField.field same)

theorem eq_of_field_eq (h : Built catalog config t m) {f g : MappedField} (hf : f ∈ m.fields)
    (hg : g ∈ m.fields) (same : f.field = g.field) : f = g := by
  refine Classical.byContradiction fun other => ?_
  have : Std.Symm fun f g : MappedField => f.field ≠ g.field := ⟨fun _ _ => Ne.symm⟩
  exact (h.apart.imp And.left).forall hf hg other same

end Built

end Schema

theorem Metadata.id_eq_ok {m : Metadata} {f : MappedField} : m.id = .ok f ↔ m.id? = some f := by
  rw [Metadata.id]
  cases m.id? with
  | none => exact ⟨nofun, nofun⟩
  | some g => exact ⟨fun h => by cases h; rfl, fun h => by cases h; rfl⟩

end EntityMapping
