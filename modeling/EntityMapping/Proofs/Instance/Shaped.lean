import EntityMapping.Instance.Basic
import EntityMapping.Proofs.AttributeType.Faults
import EntityMapping.Proofs.Schema.Built

/-!
Instances as types allow them. What an attribute holds is of the kind that is declared for it, and
so it is in the objects that it holds and in the variant that a polymorphic instance holds. Nothing
is asked of the values themselves.
-/

namespace EntityMapping

open AttributeType Schema

def Slot.nested : Slot → List Instance
  | .object o => [o]
  | .objects os => os
  | _ => []

def Content.nested : Content → List Instance
  | .object o => [o]
  | .objects os => os
  | _ => []

/-- A slot holds what an attribute may hold. -/
inductive Slot.Fits : FieldType → Slot → Prop where
  | plain {type : AttributeType} {initial : type.Carrier} (x : type.Carrier) :
      Fits (.plain type initial) (.plain type x)
  | converted {r : ConverterRef} {initial : Value} {a : Attribute}
      (type : a.typeName = r.attributeType) : Fits (.converted r initial) (.converted a)
  | embedded {t : TypeRef} {o : Instance} (type : o.type = t) : Fits (.embedded t) (.object o)
  | entity {t : TypeRef} {o : Instance} (type : o.type = t) : Fits (.entity t) (.object o)
  | embeddables {t : TypeRef} {os : List Instance} (types : ∀ o ∈ os, o.type = t) :
      Fits (.embeddables t) (.objects os)

/-- What is read from an attribute, or written to it, is what the attribute may hold. -/
inductive Content.Fits : FieldType → Content → Prop where
  | native {type : AttributeType} {initial : type.Carrier} (v : Value) :
      Fits (.plain type initial) (.native v)
  | attribute {r : ConverterRef} {initial : Value} {a : Attribute}
      (type : a.typeName = r.attributeType) : Fits (.converted r initial) (.attribute a)
  | embedded {t : TypeRef} {o : Instance} (type : o.type = t) : Fits (.embedded t) (.object o)
  | entity {t : TypeRef} {o : Instance} (type : o.type = t) : Fits (.entity t) (.object o)
  | embeddables {t : TypeRef} {os : List Instance} (types : ∀ o ∈ os, o.type = t) :
      Fits (.embeddables t) (.objects os)

/-- An instance of one of some types, with everything in it as its types declare it. -/
inductive Shaped (catalog : Catalog) (family : List TypeRef) : Instance → Prop where
  | mk {i : Instance} (mem : i.type ∈ family)
      (slots : ∀ f ∈ (catalog.describe i.type).fields,
        ∃ s, i.slots.find? f.column.field = some s ∧ s.Fits f.type)
      (inner : ∀ f ∈ (catalog.describe i.type).fields, ∀ s,
        i.slots.find? f.column.field = some s → ∀ o ∈ s.nested, Shaped catalog family o)
      (held : ∀ j, i.held = some j → Shaped catalog family j) : Shaped catalog family i

/-! ### Reading -/

/-- What is read from a slot fits where the slot does. -/
theorem Slot.Fits.content {type : FieldType} {s : Slot} {c : Content} (h : s.Fits type)
    (read : Instance.ofSlot s = .ok c) : c.Fits type ∧ c.nested = s.nested := by
  cases h with
  | plain x =>
    obtain ⟨v, -, rfl⟩ := map_eq_ok read
    exact ⟨.native v, rfl⟩
  | converted type =>
    cases read
    exact ⟨.attribute type, rfl⟩
  | embedded type =>
    cases read
    exact ⟨.embedded type, rfl⟩
  | entity type =>
    cases read
    exact ⟨.entity type, rfl⟩
  | embeddables types =>
    cases read
    exact ⟨.embeddables types, rfl⟩

theorem Slot.mismatches_ofSlot (s : Slot) : Mismatches (Instance.ofSlot s) := by
  cases s with
  | plain T x => exact (mismatches_toValue T x).map
  | converted | object | objects => exact .ok _

namespace Shaped

variable {catalog : Catalog} {config : Config} {family : List TypeRef} {i j : Instance}
  {f : MappedField}

theorem mem (h : Shaped catalog family i) : i.type ∈ family := by
  cases h with
  | mk mem => exact mem

theorem held (h : Shaped catalog family i) (variant : i.held = some j) :
    Shaped catalog family j := by
  cases h with
  | mk _ _ _ held => exact held j variant

theorem exists_slot (h : Shaped catalog family i) (mem : f ∈ declared catalog config i.type) :
    ∃ s, i.read f = Instance.ofSlot s ∧ s.Fits f.type ∧
      ∀ o ∈ s.nested, Shaped catalog family o := by
  cases h with
  | mk _ slots inner _ =>
    obtain ⟨g, declared, rfl⟩ := List.mem_map.1 mem
    obtain ⟨s, found, fits⟩ := slots g declared
    refine ⟨s, ?_, fits, inner g declared s found⟩
    have own : i.type = (mapField config i.type g).owner := rfl
    have there : i.slots.find? (mapField config i.type g).field = some s := found
    rw [Instance.read, if_pos own, there]

theorem mismatches_read (h : Shaped catalog family i) (mem : f ∈ declared catalog config i.type) :
    Mismatches (i.read f) := by
  obtain ⟨s, read, -⟩ := h.exists_slot mem
  exact read ▸ s.mismatches_ofSlot

theorem fits (h : Shaped catalog family i) (mem : f ∈ declared catalog config i.type) {c : Content}
    (read : i.read f = .ok c) : c.Fits f.type ∧ ∀ o ∈ c.nested, Shaped catalog family o := by
  obtain ⟨s, slot, fits, inner⟩ := h.exists_slot mem
  obtain ⟨fits, same⟩ := fits.content (slot.symm.trans read)
  exact ⟨fits, same ▸ inner⟩

end Shaped

/-! ### Writing -/

/-- What fits an attribute can be written to it unless a value is of another type. -/
theorem Content.Fits.mismatches_write {i : Instance} {f : MappedField} {c : Content}
    (h : c.Fits f.type) (own : i.type = f.owner) : Mismatches (i.write f c) := by
  rw [Instance.write, if_pos own]
  refine Faults.map ?_
  unfold Instance.toSlot
  revert h
  generalize f.type = type
  rintro (v | type | type | type | types)
  · exact (mismatches_ofValue ..).map
  · dsimp only
    rw [if_pos type]
    exact .ok _
  · dsimp only
    rw [if_pos type]
    exact .ok _
  · dsimp only
    rw [if_pos type]
    exact .ok _
  · dsimp only
    rw [if_pos (List.all_eq_true.2 fun o ho => decide_eq_true (types o ho))]
    exact .ok _

theorem Instance.type_write {i j : Instance} {f : MappedField} {c : Content}
    (h : i.write f c = .ok j) : j.type = i.type := by
  rw [write] at h
  split at h
  · obtain ⟨s, -, rfl⟩ := map_eq_ok h
    rfl
  · cases h

end EntityMapping
