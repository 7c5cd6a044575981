import EntityMapping.Proofs.Instance.Conforms
import EntityMapping.Proofs.Instance.Shaped
import EntityMapping.Proofs.Schema.Marks

/-!
What has to hold of some types for their instances to survive storage. New instances can be had
without arguments, polymorphic types have no attributes of their own and list variants of theirs,
values and converters lose nothing, and what is stored as null is what an attribute starts with.
The discriminators of a record level keep clear of its other keys. A family of which all this holds
but for what is stored as null is lossless; its instances are as their types declare them.
-/

namespace EntityMapping

open Schema

/-- A family of types of which instances can be had without arguments, unless they are polymorphic,
and whose objects are of the family. -/
structure Supplied (env : Environment) (family : List TypeRef) : Prop where
  supplied : ∀ t ∈ family, (env.catalog.describe t).isPolymorphic = false →
    (env.catalog.describe t).suppliesInstances = true ∧
      ∀ k, (env.catalog.describe t).constructor = some k → k.isDefault = true
  closed : ∀ t ∈ family, ∀ f ∈ declared env.catalog env.config t, ∀ u,
    f.type.element? = some u → u ∈ family

/-- A family of types of which values and attributes survive storage, except for what is stored as
null. -/
structure Lossless (env : Environment) (valid : Attribute → Prop) (family : List TypeRef) : Prop
    extends Supplied env family where
  fieldless : ∀ t ∈ family, (env.catalog.describe t).isPolymorphic = true →
    (env.catalog.describe t).fields = []
  /-- The variants of a polymorphic type inherit from it and are not polymorphic. -/
  variants : ∀ t ∈ family, (env.catalog.describe t).isPolymorphic = true →
    ∀ v ∈ (env.catalog.describe t).variants, v ∈ family ∧
      (env.catalog.describe v).isPolymorphic = false ∧
      ∃ i, (env.catalog.describe v).inheritance = some i ∧ i.parent = t
  embeds : ∀ t ∈ family, ∀ f ∈ declared env.catalog env.config t, ∀ u, f.type = .embedded u →
    (env.catalog.describe u).isPolymorphic = false
  plain : ∀ t ∈ family, ∀ f ∈ declared env.catalog env.config t, ∀ (type : AttributeType)
    (initial x : type.Carrier) (v : Value), f.type = .plain type initial →
    type.toValue x = .ok v → type.ofValue v = .ok x
  converted : ∀ t ∈ family, ∀ f ∈ declared env.catalog env.config t, ∀ (r : ConverterRef)
    (initial : Value) (k : Converter) (a : Attribute) (v : Value), f.type = .converted r initial →
    env.converters.get r = .ok k → valid a → k.toNative a = .ok v → v ≠ .null →
    k.toAttribute v = .ok a
  apart : ∀ t ∈ family, MarksApart env.catalog env.config t

/-- A family of types whose instances survive storage: only what an attribute starts with is stored
as null. -/
structure Faithful (env : Environment) (valid : Attribute → Prop) (family : List TypeRef) : Prop
    extends Lossless env valid family where
  plainNull : ∀ t ∈ family, ∀ f ∈ declared env.catalog env.config t, ∀ (type : AttributeType)
    (initial x : type.Carrier), f.type = .plain type initial → type.toValue x = .ok .null →
    x = initial
  convertedNull : ∀ t ∈ family, ∀ f ∈ declared env.catalog env.config t, ∀ (r : ConverterRef)
    (initial : Value) (k : Converter) (a : Attribute), f.type = .converted r initial →
    env.converters.get r = .ok k → valid a → k.toNative a = .ok .null →
    a = ⟨r.attributeType, initial⟩

variable {env : Environment} {valid : Attribute → Prop} {family : List TypeRef}

/-! ### Instances of the family -/

mutual

/-- Instances of types that are accepted are as their types declare them. -/
theorem Conforms.shaped {t : TypeRef} {i : Instance} (h : Conforms env valid t i)
    (lossless : Lossless env valid family)
    (accepted : ∀ t ∈ family, ∃ m, Schema.build env.catalog env.config t = .ok m)
    (ht : t ∈ family) : Shaped env.catalog family i := by
  cases h with
  | @concrete _ slots plain each =>
    obtain ⟨m, build⟩ := accepted t ht
    have built := built_of_build build
    have names := built.apart
    rw [built.fields] at names
    have fits := each.fits lossless accepted fun f hf u hu => lossless.closed t ht f hf u hu
    have own : ∀ g ∈ (env.catalog.describe t).fields, ∀ s,
        Keyed.find? g.column.field slots = some s →
          s.Fits g.type ∧ ∀ o ∈ s.nested, Shaped env.catalog family o := by
      intro g hg s found
      have mem : mapField env.config t g ∈ m.fields :=
        built.fields ▸ List.mem_map.2 ⟨g, hg, rfl⟩
      obtain ⟨f, hf, name, fits⟩ := fits g.column.field s found
      rwa [built.eq_of_field_eq (built.fields ▸ hf) mem name] at fits
    refine .mk ht (fun g hg => ?_) (fun g hg s found => (own g hg s found).2) nofun
    have mem : mapField env.config t g ∈ declared env.catalog env.config t :=
      List.mem_map.2 ⟨g, hg, rfl⟩
    obtain ⟨s, found, -⟩ := each.exists_slot names mem
    exact ⟨s, found, (own g hg s found).1⟩
  | holding polymorphic listed inner =>
    have bare := lossless.fieldless t ht polymorphic
    have shaped := inner.shaped lossless accepted (lossless.variants t ht polymorphic _ listed).1
    refine .mk ht (fun g hg => ?_) (fun g hg => ?_) fun j held => ?_
    · cases bare ▸ (show g ∈ (env.catalog.describe t).fields from hg)
    · cases bare ▸ (show g ∈ (env.catalog.describe t).fields from hg)
    · cases held
      exact shaped
termination_by sizeOf i

theorem SlotsConform.fits {fs : List MappedField} {ss : List (String × Slot)}
    (h : SlotsConform env valid fs ss) (lossless : Lossless env valid family)
    (accepted : ∀ t ∈ family, ∃ m, Schema.build env.catalog env.config t = .ok m)
    (closed : ∀ f ∈ fs, ∀ u, f.type.element? = some u → u ∈ family) :
    ∀ name s, Keyed.find? name ss = some s → ∃ f ∈ fs, f.field = name ∧
      s.Fits f.type ∧ ∀ o ∈ s.nested, Shaped env.catalog family o := by
  cases h with
  | nil => exact fun _ _ found => by cases found
  | @cons f fs _ _ one rest =>
    have first := one.fits lossless accepted (closed f (List.mem_cons_self ..))
    have others := rest.fits lossless accepted fun g hg => closed g (List.mem_cons_of_mem f hg)
    intro name s found
    rw [Keyed.find?] at found
    split at found
    · rename_i same
      cases found
      exact ⟨f, List.mem_cons_self .., same, first⟩
    · obtain ⟨g, hg, rest⟩ := others name s found
      exact ⟨g, List.mem_cons_of_mem f hg, rest⟩
termination_by sizeOf ss

theorem SlotConforms.fits {type : FieldType} {s : Slot} (h : SlotConforms env valid type s)
    (lossless : Lossless env valid family)
    (accepted : ∀ t ∈ family, ∃ m, Schema.build env.catalog env.config t = .ok m)
    (closed : ∀ u, type.element? = some u → u ∈ family) :
    s.Fits type ∧ ∀ o ∈ s.nested, Shaped env.catalog family o := by
  cases h with
  | plain x => exact ⟨.plain x, nofun⟩
  | converted type _ => exact ⟨.converted type, nofun⟩
  | embedded inner =>
    have shaped := inner.shaped lossless accepted (closed _ rfl)
    exact ⟨.embedded inner.type_eq, fun o ho => List.mem_singleton.1 ho ▸ shaped⟩
  | entity inner =>
    have shaped := inner.shaped lossless accepted (closed _ rfl)
    exact ⟨.entity inner.type_eq, fun o ho => List.mem_singleton.1 ho ▸ shaped⟩
  | @embeddables t os inner =>
    have shaped : ∀ o ∈ os, Shaped env.catalog family o := fun o ho =>
      have smaller : sizeOf o < sizeOf (Slot.objects os) :=
        Nat.lt_of_lt_of_le (List.sizeOf_lt_of_mem ho) (by simp)
      (inner o ho).shaped lossless accepted (closed _ rfl)
    exact ⟨.embeddables fun o ho => (inner o ho).type_eq, shaped⟩
termination_by sizeOf s

end

end EntityMapping
