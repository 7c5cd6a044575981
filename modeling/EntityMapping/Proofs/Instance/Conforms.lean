import EntityMapping.Conversion.Writing
import EntityMapping.Proofs.Keyed
import EntityMapping.Proofs.Schema.Built

/-!
Instances of the declared types. Slots stand in the order of the attributes, each with what its
attribute may hold, down to the objects in objects.
-/

namespace EntityMapping

open Schema

mutual

/-- An instance of a type, with everything in it an instance of the type that is declared for it;
`valid` are the attributes that exist. An instance of a polymorphic type holds one of a variant. -/
inductive Conforms (env : Environment) (valid : Attribute → Prop) : TypeRef → Instance → Prop where
  | concrete {t : TypeRef} {slots : List (String × Slot)}
      (plain : (env.catalog.describe t).isPolymorphic = false)
      (each : SlotsConform env valid (declared env.catalog env.config t) slots) :
      Conforms env valid t (.mk t slots none)
  | holding {t v : TypeRef} {i : Instance}
      (polymorphic : (env.catalog.describe t).isPolymorphic = true)
      (listed : v ∈ (env.catalog.describe t).variants) (inner : Conforms env valid v i) :
      Conforms env valid t (.mk t [] (some i))

/-- A slot for each of some attributes, in their order. -/
inductive SlotsConform (env : Environment) (valid : Attribute → Prop) :
    List MappedField → List (String × Slot) → Prop where
  | nil : SlotsConform env valid [] []
  | cons {f : MappedField} {fs : List MappedField} {s : Slot} {ss : List (String × Slot)}
      (one : SlotConforms env valid f.type s) (rest : SlotsConform env valid fs ss) :
      SlotsConform env valid (f :: fs) ((f.field, s) :: ss)

/-- A slot that an attribute may have. -/
inductive SlotConforms (env : Environment) (valid : Attribute → Prop) :
    FieldType → Slot → Prop where
  | plain {type : AttributeType} {initial : type.Carrier} (x : type.Carrier) :
      SlotConforms env valid (.plain type initial) (.plain type x)
  | converted {r : ConverterRef} {initial : Value} {a : Attribute}
      (type : a.typeName = r.attributeType) (real : valid a) :
      SlotConforms env valid (.converted r initial) (.converted a)
  | embedded {t : TypeRef} {o : Instance} (inner : Conforms env valid t o) :
      SlotConforms env valid (.embedded t) (.object o)
  | entity {t : TypeRef} {o : Instance} (inner : Conforms env valid t o) :
      SlotConforms env valid (.entity t) (.object o)
  | embeddables {t : TypeRef} {os : List Instance} (inner : ∀ o ∈ os, Conforms env valid t o) :
      SlotConforms env valid (.embeddables t) (.objects os)

end

variable {env : Environment} {valid : Attribute → Prop} {t : TypeRef} {i : Instance}

theorem Conforms.type_eq (h : Conforms env valid t i) : i.type = t := by
  cases h <;> rfl

/-! ### Slots -/

/-- Where an object is read, the slot holds it and the attribute is of its type. -/
theorem SlotConforms.object_inv {type : FieldType} {s : Slot} {o : Instance}
    (h : SlotConforms env valid type s) (slot : Instance.ofSlot s = .ok (.object o)) :
    s = .object o ∧ ∃ u, Conforms env valid u o ∧ (type = .embedded u ∨ type = .entity u) := by
  cases h with
  | @plain T initial x =>
    rw [Instance.ofSlot] at slot
    cases hx : T.toValue x <;> (rw [hx] at slot; cases slot)
  | converted => cases slot
  | embedded inner =>
    cases slot
    exact ⟨rfl, _, inner, .inl rfl⟩
  | entity inner =>
    cases slot
    exact ⟨rfl, _, inner, .inr rfl⟩
  | embeddables => cases slot

theorem SlotConforms.objects_inv {type : FieldType} {s : Slot} {os : List Instance}
    (h : SlotConforms env valid type s) (slot : Instance.ofSlot s = .ok (.objects os)) :
    s = .objects os ∧ ∃ u, (∀ o ∈ os, Conforms env valid u o) ∧ type = .embeddables u := by
  cases h with
  | @plain T initial x =>
    rw [Instance.ofSlot] at slot
    cases hx : T.toValue x <;> (rw [hx] at slot; cases slot)
  | converted => cases slot
  | embedded => cases slot
  | entity => cases slot
  | embeddables inner =>
    cases slot
    exact ⟨rfl, _, inner, rfl⟩

theorem SlotConforms.native_inv {type : FieldType} {s : Slot} {v : Value}
    (h : SlotConforms env valid type s) (slot : Instance.ofSlot s = .ok (.native v)) :
    ∃ (T : AttributeType) (initial x : T.Carrier), s = .plain T x ∧ type = .plain T initial ∧
      T.toValue x = .ok v := by
  cases h with
  | @plain T initial x =>
    rw [Instance.ofSlot] at slot
    cases hx : T.toValue x with
    | error e => rw [hx] at slot; cases slot
    | ok w =>
      rw [hx] at slot
      cases slot
      exact ⟨T, initial, x, rfl, rfl, hx⟩
  | converted => cases slot
  | embedded => cases slot
  | entity => cases slot
  | embeddables => cases slot

theorem SlotConforms.attribute_inv {type : FieldType} {s : Slot} {a : Attribute}
    (h : SlotConforms env valid type s) (slot : Instance.ofSlot s = .ok (.attribute a)) :
    s = .converted a ∧ valid a ∧
      ∃ c initial, type = .converted c initial ∧ a.typeName = c.attributeType := by
  cases h with
  | @plain T initial x =>
    rw [Instance.ofSlot] at slot
    cases hx : T.toValue x <;> (rw [hx] at slot; cases slot)
  | converted named real =>
    cases slot
    exact ⟨rfl, real, _, _, rfl, named⟩
  | embedded => cases slot
  | entity => cases slot
  | embeddables => cases slot

theorem SlotsConform.cons_inv {f : MappedField} {fs : List MappedField} {ss : Keyed Slot}
    (h : SlotsConform env valid (f :: fs) ss) :
    ∃ s rest, ss = (f.field, s) :: rest ∧ SlotConforms env valid f.type s := by
  cases h with
  | cons one rest => exact ⟨_, _, rfl, one⟩

/-- The slot of an attribute is found under its name. -/
theorem SlotsConform.exists_slot {fs : List MappedField} {ss : Keyed Slot}
    (h : SlotsConform env valid fs ss)
    (names : fs.Pairwise fun f g => f.field ≠ g.field ∧ f.key ≠ g.key) {f : MappedField}
    (mem : f ∈ fs) : ∃ s, ss.find? f.field = some s ∧ SlotConforms env valid f.type s := by
  induction fs generalizing ss with
  | nil => cases mem
  | cons g fs ih =>
    obtain ⟨s, rest, rfl, one⟩ := h.cons_inv
    obtain ⟨first, names⟩ := List.pairwise_cons.1 names
    cases h with
    | cons _ more =>
      rcases List.mem_cons.1 mem with rfl | mem
      · exact ⟨s, by simp [Keyed.find?], one⟩
      · obtain ⟨s', found, conforms⟩ := ih more names mem
        refine ⟨s', ?_, conforms⟩
        rw [Keyed.find?, if_neg (first f mem).1]
        exact found

/-- An attribute of an instance is read from a slot that it may have. -/
theorem Conforms.exists_slot {m : Metadata} (h : Conforms env valid t i)
    (concrete : (env.catalog.describe t).isPolymorphic = false)
    (built : Built env.catalog env.config t m) {f : MappedField}
    (mem : f ∈ declared env.catalog env.config t) :
    ∃ s, i.read f = Instance.ofSlot s ∧ SlotConforms env valid f.type s := by
  cases h with
  | concrete _ each =>
    have names := built.apart
    rw [built.fields] at names
    obtain ⟨s, found, conforms⟩ := each.exists_slot names mem
    refine ⟨s, ?_, conforms⟩
    unfold Instance.read
    rw [if_pos (by exact (owner_of_mem_declared mem).symm)]
    simp only [Instance.slots, found]
  | holding polymorphic =>
    rw [concrete] at polymorphic
    cases polymorphic

end EntityMapping
