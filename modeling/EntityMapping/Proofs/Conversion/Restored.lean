import EntityMapping.Proofs.Conversion.Faithful
import EntityMapping.Proofs.Conversion.Steps

/-!
What comes back of an instance after storage. Everything does, except for what is stored as null.
A value that is stored as null is the value again if nulls are written; if they are left out, it
becomes the one that a new instance starts with. A converted attribute becomes that either way,
since reading passes over its null.
-/

namespace EntityMapping

open Environment Schema

mutual

/-- An instance of a type, and what comes back of it. -/
inductive Restored (env : Environment) : TypeRef → Instance → Instance → Prop where
  | concrete {t : TypeRef} {ss ss' : Keyed Slot}
      (plain : (env.catalog.describe t).isPolymorphic = false)
      (each : SlotsRestored env (declared env.catalog env.config t) ss ss') :
      Restored env t (.mk t ss none) (.mk t ss' none)
  | holding {t : TypeRef} {i j : Instance}
      (polymorphic : (env.catalog.describe t).isPolymorphic = true)
      (inner : Restored env i.type i j) : Restored env t (.mk t [] (some i)) (.mk t [] (some j))

/-- The slots of some attributes, and what comes back of them. -/
inductive SlotsRestored (env : Environment) :
    List MappedField → Keyed Slot → Keyed Slot → Prop where
  | nil : SlotsRestored env [] [] []
  | cons {f : MappedField} {fs : List MappedField} {s s' : Slot} {ss ss' : Keyed Slot}
      (one : SlotRestored env f.type s s') (rest : SlotsRestored env fs ss ss') :
      SlotsRestored env (f :: fs) ((f.field, s) :: ss) ((f.field, s') :: ss')

/-- A slot, and what comes back of it. -/
inductive SlotRestored (env : Environment) : FieldType → Slot → Slot → Prop where
  | plain {type : AttributeType} {initial x : type.Carrier} {v : Value}
      (value : type.toValue x = .ok v) :
      SlotRestored env (.plain type initial) (.plain type x)
        (.plain type (if env.keeps v then x else initial))
  | converted {r : ConverterRef} {initial v : Value} {k : Converter} {a : Attribute}
      (there : env.converters.get r = .ok k) (native : k.toNative a = .ok v) :
      SlotRestored env (.converted r initial) (.converted a)
        (.converted (if v.isNull then ⟨r.attributeType, initial⟩ else a))
  | embedded {u : TypeRef} {o o' : Instance} (inner : Restored env u o o') :
      SlotRestored env (.embedded u) (.object o) (.object o')
  | entity {u : TypeRef} {o o' : Instance} (inner : Restored env u o o') :
      SlotRestored env (.entity u) (.object o) (.object o')
  | embeddables {u : TypeRef} {os os' : List Instance} (inner : AllRestored env u os os') :
      SlotRestored env (.embeddables u) (.objects os) (.objects os')

/-- Instances of a type one by one, and what comes back of them. -/
inductive AllRestored (env : Environment) :
    TypeRef → List Instance → List Instance → Prop where
  | nil {u : TypeRef} : AllRestored env u [] []
  | cons {u : TypeRef} {o o' : Instance} {os os' : List Instance} (one : Restored env u o o')
      (rest : AllRestored env u os os') : AllRestored env u (o :: os) (o' :: os')

end

variable {env : Environment} {valid : Attribute → Prop} {family : List TypeRef} {t : TypeRef}
  {i j : Instance}

theorem Restored.type_eq (h : Restored env t i j) : j.type = t := by
  cases h <;> rfl

theorem AllRestored.type_eq {os os' : List Instance} (h : AllRestored env t os os') :
    ∀ o ∈ os', o.type = t := by
  induction os generalizing os' with
  | nil =>
    cases h
    exact nofun
  | cons o os ih =>
    cases h with
    | cons one rest => exact List.forall_mem_cons.2 ⟨one.type_eq, ih rest⟩

/-- Of a faithful family everything comes back. -/
theorem Restored.eq (faithful : Faithful env valid family) (h : Restored env t i j)
    (conforms : Conforms env valid t i) (ht : t ∈ family) : j = i := by
  refine @Restored.rec env
    (fun t i j _ => Conforms env valid t i → t ∈ family → j = i)
    (fun fs ss ss' _ => SlotsConform env valid fs ss →
      (∃ t ∈ family, fs ⊆ declared env.catalog env.config t) → ss' = ss)
    (fun type s s' _ => SlotConforms env valid type s →
      (∃ t ∈ family, ∃ f ∈ declared env.catalog env.config t, f.type = type) → s' = s)
    (fun u os os' _ => (∀ o ∈ os, Conforms env valid u o) → u ∈ family → os' = os)
    ?concrete ?holding ?noSlots ?slot ?plain ?converted ?embedded ?entity ?embeddables ?none ?more
    t i j h conforms ht
  case concrete =>
    intro t ss ss' plain each same conforms ht
    cases conforms with
    | concrete _ conform => rw [same conform ⟨t, ht, List.Subset.refl _⟩]
  case holding =>
    intro t i j polymorphic inner same conforms ht
    cases conforms with
    | holding _ listed conforms =>
      obtain rfl := conforms.type_eq
      rw [same conforms (faithful.variants t ht polymorphic _ listed).1]
  case noSlots =>
    exact fun _ _ => rfl
  case slot =>
    intro f fs s s' ss ss' one rest same more conform sub
    obtain ⟨t, ht, sub⟩ := sub
    cases conform with
    | cons first others =>
      rw [same first ⟨t, ht, f, sub (List.mem_cons_self ..), rfl⟩,
        more others ⟨t, ht, fun g hg => sub (List.mem_cons_of_mem _ hg)⟩]
  case plain =>
    intro type initial x v value conform declared
    obtain ⟨t, ht, f, hf, kind⟩ := declared
    cases kept : env.keeps v with
    | true => rfl
    | false =>
      obtain rfl := eq_null_of_not_keeps kept
      rw [if_neg nofun, faithful.plainNull t ht f hf type initial x kind value]
  case converted =>
    intro r initial v k a there native conform declared
    obtain ⟨t, ht, f, hf, kind⟩ := declared
    cases conform with
    | converted _ real =>
      cases null : v.isNull with
      | false => rfl
      | true =>
        obtain rfl := eq_null_of_isNull null
        rw [if_pos rfl, faithful.convertedNull t ht f hf r initial k a kind there real native]
  case embedded =>
    intro u o o' inner same conform declared
    obtain ⟨t, ht, f, hf, kind⟩ := declared
    cases conform with
    | embedded conforms => rw [same conforms (faithful.closed t ht f hf u (by rw [kind]; rfl))]
  case entity =>
    intro u o o' inner same conform declared
    obtain ⟨t, ht, f, hf, kind⟩ := declared
    cases conform with
    | entity conforms => rw [same conforms (faithful.closed t ht f hf u (by rw [kind]; rfl))]
  case embeddables =>
    intro u os os' inner same conform declared
    obtain ⟨t, ht, f, hf, kind⟩ := declared
    cases conform with
    | embeddables conforms => rw [same conforms (faithful.closed t ht f hf u (by rw [kind]; rfl))]
  case none =>
    exact fun _ _ => rfl
  case more =>
    intro u o o' os os' one rest same more conform hu
    obtain ⟨first, others⟩ := List.forall_mem_cons.1 conform
    rw [same first hu, more others hu]

end EntityMapping
