import EntityMapping.Schema.Metadata

/-!
Instances of entity types. An instance has a slot for every attribute of its type; an
instance of a polymorphic type holds an instance of one of its variants. Attributes are read
and written by their mapping, which belongs to one type and refuses instances of others.
-/

namespace EntityMapping

mutual

/-- An instance of a type. -/
inductive Instance where
  | mk (type : TypeRef) (slots : List (String × Slot)) (held : Option Instance)

/-- What an attribute of an instance holds. -/
inductive Slot where
  | plain (type : AttributeType) (x : type.Carrier)
  | converted (a : Attribute)
  | object (o : Instance)
  | objects (os : List Instance)

end

/-- What is read from an attribute, or is to be written to it. -/
inductive Content where
  | native (v : Value)
  | attribute (a : Attribute)
  | object (o : Instance)
  | objects (os : List Instance)

namespace Content

def shapeName : Content → String
  | .native _ => "native value"
  | .attribute _ => "converted attribute"
  | .object _ => "object"
  | .objects _ => "object list"

def isEmpty : Content → Bool
  | .native .null => true
  | _ => false

/-- The size of the objects in a content; it only tells why a recursion ends. -/
noncomputable def weight : Content → Nat
  | .object o => sizeOf o
  | .objects os => sizeOf os
  | _ => 0

end Content

namespace Instance

def type : Instance → TypeRef
  | .mk t _ _ => t

def slots : Instance → Keyed Slot
  | .mk _ ss _ => ss

/-- The instance of a variant that an instance of a polymorphic type holds. -/
def held : Instance → Option Instance
  | .mk _ _ h => h

instance : Inhabited Instance := ⟨.mk default [] none⟩

/-- An instance of a polymorphic type around an instance of a variant. -/
def around (i : Instance) (variant : Instance) : Instance := .mk i.type i.slots (some variant)

def setSlot (i : Instance) (field : String) (s : Slot) : Instance :=
  .mk i.type (i.slots.put field s) i.held

/-! ### Reading -/

/-- What a slot holds, plain values in native form. -/
def ofSlot : Slot → Except MapperError Content
  | .plain t x => (t.toValue x).map .native
  | .converted a => .ok (.attribute a)
  | .object o => .ok (.object o)
  | .objects os => .ok (.objects os)

def read (i : Instance) (f : MappedField) : Except MapperError Content :=
  if i.type = f.owner then
    match i.slots.find? f.field with
    | some s => ofSlot s
    | none => .error (.wrongInstance f.owner.name)
  else .error (.wrongInstance f.owner.name)

/-! ### Writing -/

/-- The slot that a content goes to, if it is of the right shape and type. -/
def toSlot (f : MappedField) : Content → Except MapperError Slot
  | .native v =>
    match f.type with
    | .plain t _ => (t.ofValue v).map (.plain t)
    | _ => .error (.unwritable f.field (Content.native v).shapeName)
  | .attribute a =>
    match f.type with
    | .converted r _ =>
      if a.typeName = r.attributeType then .ok (.converted a)
      else .error (.wrongValueType r.attributeType)
    | _ => .error (.unwritable f.field (Content.attribute a).shapeName)
  | .object o =>
    match f.type with
    | .embedded t | .entity t =>
      if o.type = t then .ok (.object o) else .error (.wrongValueType t.name)
    | _ => .error (.unwritable f.field (Content.object o).shapeName)
  | .objects os =>
    match f.type with
    | .embeddables t =>
      if os.all (·.type = t) then .ok (.objects os) else .error (.wrongValueType t.name)
    | _ => .error (.unwritable f.field (Content.objects os).shapeName)

def write (i : Instance) (f : MappedField) (c : Content) : Except MapperError Instance :=
  if i.type = f.owner then (toSlot f c).map (i.setSlot f.field)
  else .error (.wrongInstance f.owner.name)

/-! ### Sizes -/

theorem sizeOf_slot_lt {es : Keyed Slot} {key : String} {s : Slot} (h : es.find? key = some s) :
    sizeOf s < sizeOf es := by
  induction es with
  | nil => cases h
  | cons e rest ih =>
    obtain ⟨k, v⟩ := e
    unfold Keyed.find? at h
    split at h
    · cases h
      simp only [List.cons.sizeOf_spec, Prod.mk.sizeOf_spec]
      omega
    · have := ih h
      simp only [List.cons.sizeOf_spec]
      omega

theorem weight_ofSlot {s : Slot} {c : Content} (h : ofSlot s = .ok c) : c.weight < sizeOf s := by
  cases s with
  | plain t x =>
    simp only [ofSlot] at h
    cases ht : t.toValue x with
    | error e => rw [ht] at h; cases h
    | ok v =>
      rw [ht] at h
      cases h
      simp only [Content.weight, Slot.plain.sizeOf_spec]
      omega
  | converted a =>
    cases h
    simp only [Content.weight, Slot.converted.sizeOf_spec]
    omega
  | object o =>
    cases h
    simp only [Content.weight, Slot.object.sizeOf_spec]
    omega
  | objects os =>
    cases h
    simp only [Content.weight, Slot.objects.sizeOf_spec]
    omega

/-- What an attribute holds is smaller than its instance. -/
theorem weight_read {i : Instance} {f : MappedField} {c : Content} (h : i.read f = .ok c) :
    c.weight < sizeOf i := by
  unfold read at h
  split at h
  · split at h
    · rename_i s hs
      cases i with
      | mk t ss held =>
        have below := weight_ofSlot h
        have inside := sizeOf_slot_lt hs
        simp only [slots] at inside
        simp only [Instance.mk.sizeOf_spec]
        omega
    · cases h
  · cases h

/-- What an instance holds is smaller than the instance. -/
theorem sizeOf_held {i j : Instance} (h : i.held = some j) : sizeOf j < sizeOf i := by
  cases i with
  | mk t ss held =>
    simp only [Instance.held] at h
    subst h
    simp only [Instance.mk.sizeOf_spec, Option.some.sizeOf_spec]
    omega

end Instance

end EntityMapping
