import EntityMapping.Instance.Basic

/-!
New instances. Attributes start with their initial values, objects with new objects, lists
empty; an instance of a polymorphic type holds a new instance of the first variant. A type
that would have to hold itself without end gets an instance without attributes there.
-/

namespace EntityMapping.Catalog

mutual

/-- A new instance of a type. `fresh` are the types of which there is no new instance around
it. -/
def blankFrom (c : Catalog) (fresh : List TypeRef) (t : TypeRef) : Instance :=
  if _h : t ∈ fresh then
    let d := c.describe t
    let held := if d.isPolymorphic then
        d.variants.head?.map fun v => c.blankFrom (fresh.erase t) v
      else none
    .mk t (c.blankSlots (fresh.erase t) [] d.fields) held
  else .mk t [] none
termination_by (fresh.length, 0)
decreasing_by
  · exact .left _ _ (TypeRef.length_erase_lt _h)
  · exact .left _ _ (TypeRef.length_erase_lt _h)

/-- New slots of some attributes, behind others. -/
def blankSlots (c : Catalog) (fresh : List TypeRef) (slots : Keyed Slot) :
    List Field → Keyed Slot
  | [] => slots
  | f :: fs =>
    let slot : Slot := match f.type with
      | .plain t initial => .plain t initial
      | .converted r initial => .converted ⟨r.attributeType, initial⟩
      | .embedded t | .entity t => .object (c.blankFrom fresh t)
      | .embeddables _ => .objects []
    c.blankSlots fresh (slots.put f.column.field slot) fs
termination_by fs => (fresh.length, fs.length + 1)

end

def blank (c : Catalog) (t : TypeRef) : Instance := c.blankFrom c.types t

end EntityMapping.Catalog
