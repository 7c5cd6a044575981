import EntityMapping.Instance.Blank
import EntityMapping.Proofs.Keyed
import EntityMapping.Proofs.Schema.Built

/-!
New instances of accepted types: a slot for every attribute, in the order of the declaration, each
with what its attribute starts with.
-/

namespace EntityMapping.Catalog

open Schema

variable {catalog : Catalog} {config : Config} {t : TypeRef} {m : Metadata}

/-- What the slot of an attribute starts with. -/
def blankSlot (c : Catalog) (fresh : List TypeRef) : FieldType → Slot
  | .plain t initial => .plain t initial
  | .converted r initial => .converted ⟨r.attributeType, initial⟩
  | .embedded t | .entity t => .object (c.blankFrom fresh t)
  | .embeddables _ => .objects []

def blanks (c : Catalog) (fresh : List TypeRef) (fs : List MappedField) : Keyed Slot :=
  fs.map fun f => (f.field, c.blankSlot fresh f.type)

theorem blankSlots_cons (c : Catalog) (fresh : List TypeRef) (slots : Keyed Slot) (f : Field)
    (fs : List Field) :
    c.blankSlots fresh slots (f :: fs) =
      c.blankSlots fresh (slots.put f.column.field (c.blankSlot fresh f.type)) fs := by
  rw [blankSlots]
  cases f.type <;> rfl

/-- Attributes with names of their own get their slots one behind the other. -/
theorem blankSlots_eq_append (config : Config) (owner : TypeRef) {fresh : List TypeRef}
    {slots : Keyed Slot} {fs : List Field}
    (apart : (fs.map (mapField config owner)).Pairwise fun f g => f.field ≠ g.field ∧ f.key ≠ g.key)
    (new : ∀ f ∈ fs, f.column.field ∉ slots.keys) :
    catalog.blankSlots fresh slots fs =
      slots ++ catalog.blanks fresh (fs.map (mapField config owner)) := by
  induction fs generalizing slots with
  | nil => rw [blankSlots, List.map_nil, blanks, List.map_nil, List.append_nil]
  | cons f fs ih =>
    obtain ⟨first, rest⟩ := List.pairwise_cons.1 apart
    have later : ∀ g ∈ fs, g.column.field ∉ Keyed.keys
        (slots ++ [(f.column.field, catalog.blankSlot fresh f.type)]) := by
      intro g hg
      have other : f.column.field ≠ g.column.field :=
        (first (mapField config owner g) (List.mem_map.2 ⟨g, hg, rfl⟩)).1
      have old := new g (List.mem_cons_of_mem _ hg)
      simp only [Keyed.keys_append, List.mem_append, not_or]
      exact ⟨old, by simpa [Keyed.keys] using other.symm⟩
    rw [blankSlots_cons, Keyed.put_of_notMem (new f (List.mem_cons_self ..)), ih rest later,
      List.append_assoc]
    rfl

/-- A new instance of an accepted type that is not polymorphic. -/
theorem blank_eq (h : Built catalog config t m) (concrete : m.isPolymorphic = false) :
    catalog.blank t =
      .mk t (catalog.blanks (catalog.types.erase t) (declared catalog config t)) none := by
  have apart := h.apart
  rw [h.fields, declared] at apart
  rw [h.isPolymorphic] at concrete
  rw [blank, blankFrom, dif_pos h.mem_types]
  dsimp only
  rw [concrete, blankSlots_eq_append config t apart (fun f _ => List.not_mem_nil), List.nil_append]
  rfl

theorem slots_blank_of_fieldless (fieldless : (catalog.describe t).fields = []) :
    (catalog.blank t).slots = [] := by
  rw [blank, blankFrom]
  split
  · dsimp only
    rw [fieldless, blankSlots]
    rfl
  · rfl

theorem type_blank (catalog : Catalog) (t : TypeRef) : (catalog.blank t).type = t := by
  rw [blank, blankFrom]
  split <;> rfl

end EntityMapping.Catalog
