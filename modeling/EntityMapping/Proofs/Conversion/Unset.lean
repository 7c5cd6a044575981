import EntityMapping.Proofs.Conversion.Records
import EntityMapping.Proofs.Registry.NullSetting
import Mathlib.Data.List.Basic

/-!
Records with nulls and records without, read again. They give one instance, unless a value that a
new instance starts with has been unset: it is stored as null, so a record with nulls says that
there is none, while a record without says nothing, and the new instance keeps what it starts with.
-/

namespace EntityMapping

open Environment Registry Schema

mutual

/-- Somewhere in an instance of a type a value has been unset that a new instance starts with. -/
inductive Unset (env : Environment) : TypeRef → Instance → Prop where
  | concrete {t : TypeRef} {ss : Keyed Slot}
      (slots : SlotsUnset env (declared env.catalog env.config t) ss) :
      Unset env t (.mk t ss none)
  | holding {t : TypeRef} {i : Instance} (inner : Unset env i.type i) :
      Unset env t (.mk t [] (some i))

/-- In the slots of some attributes such a value has been unset. -/
inductive SlotsUnset (env : Environment) : List MappedField → Keyed Slot → Prop where
  | here {f : MappedField} {fs : List MappedField} {s : Slot} {ss : Keyed Slot}
      (one : SlotUnset env f.type s) : SlotsUnset env (f :: fs) ((f.field, s) :: ss)
  | there {f : MappedField} {fs : List MappedField} {s : Slot} {ss : Keyed Slot}
      (rest : SlotsUnset env fs ss) : SlotsUnset env (f :: fs) ((f.field, s) :: ss)

/-- In a slot such a value has been unset: a plain one that is stored as null. -/
inductive SlotUnset (env : Environment) : FieldType → Slot → Prop where
  | plain {type : AttributeType} {initial x : type.Carrier} (null : type.toValue x = .ok .null)
      (other : x ≠ initial) : SlotUnset env (.plain type initial) (.plain type x)
  | embedded {u : TypeRef} {o : Instance} (inner : Unset env u o) :
      SlotUnset env (.embedded u) (.object o)
  | entity {u : TypeRef} {o : Instance} (inner : Unset env u o) :
      SlotUnset env (.entity u) (.object o)
  | embeddables {u : TypeRef} {o : Instance} {os : List Instance} (mem : o ∈ os)
      (inner : Unset env u o) : SlotUnset env (.embeddables u) (.objects os)

end

variable {env : Environment} {valid : Attribute → Prop} {family : List TypeRef} {t : TypeRef}
  {i j j' : Instance}

/-! ### One family with both settings -/

theorem Lossless.withNulls (h : Lossless env valid family) (written : Bool) :
    Lossless (env.withNulls written) valid family where
  supplied := h.supplied
  closed := h.closed
  fieldless := h.fieldless
  variants := h.variants
  embeds := h.embeds
  plain := h.plain
  converted := h.converted
  apart t ht := (h.apart t ht).congr (fun _ => rfl) fun _ => rfl

theorem Conforms.withNulls (h : Conforms env valid t i) (written : Bool) :
    Conforms (env.withNulls written) valid t i := by
  refine @Conforms.rec env valid
    (fun t i _ => Conforms (env.withNulls written) valid t i)
    (fun fs ss _ => SlotsConform (env.withNulls written) valid fs ss)
    (fun type s _ => SlotConforms (env.withNulls written) valid type s)
    ?_ ?_ ?_ ?_ ?_ ?_ ?_ ?_ ?_ t i h
  · exact fun plain _ each => .concrete plain each
  · exact fun polymorphic listed _ inner => .holding polymorphic listed inner
  · exact .nil
  · exact fun _ _ one rest => .cons one rest
  · exact fun x => .plain x
  · exact fun type real => .converted type real
  · exact fun _ inner => .embedded inner
  · exact fun _ inner => .entity inner
  · exact fun _ inner => .embeddables inner

/-! ### Where something has been unset -/

section

variable {f : MappedField} {fs : List MappedField} {s : Slot} {ss : Keyed Slot} {u : TypeRef}
  {o : Instance} {os : List Instance}

theorem unset_concrete_iff :
    Unset env t (.mk t ss none) ↔ SlotsUnset env (declared env.catalog env.config t) ss :=
  ⟨fun h => by cases h with | concrete slots => exact slots, .concrete⟩

theorem unset_holding_iff : Unset env t (.mk t [] (some i)) ↔ Unset env i.type i :=
  ⟨fun h => by cases h with | holding inner => exact inner, .holding⟩

theorem slotsUnset_cons_iff :
    SlotsUnset env (f :: fs) ((f.field, s) :: ss) ↔
      SlotUnset env f.type s ∨ SlotsUnset env fs ss := by
  constructor
  · intro h
    cases h with
    | here one => exact .inl one
    | there rest => exact .inr rest
  · rintro (one | rest)
    · exact .here one
    · exact .there rest

theorem slotUnset_plain_iff {type : AttributeType} {initial x : type.Carrier} :
    SlotUnset env (.plain type initial) (.plain type x) ↔
      type.toValue x = .ok .null ∧ x ≠ initial :=
  ⟨fun h => by cases h with | plain null other => exact ⟨null, other⟩, fun h => .plain h.1 h.2⟩

theorem slotUnset_embedded_iff : SlotUnset env (.embedded u) (.object o) ↔ Unset env u o :=
  ⟨fun h => by cases h with | embedded inner => exact inner, .embedded⟩

theorem slotUnset_entity_iff : SlotUnset env (.entity u) (.object o) ↔ Unset env u o :=
  ⟨fun h => by cases h with | entity inner => exact inner, .entity⟩

theorem slotUnset_embeddables_iff :
    SlotUnset env (.embeddables u) (.objects os) ↔ ∃ o ∈ os, Unset env u o :=
  ⟨fun h => by cases h with | embeddables mem inner => exact ⟨_, mem, inner⟩,
    fun ⟨_, mem, inner⟩ => .embeddables mem inner⟩

end

/-! ### What comes back -/

/-- With nulls and without, one instance comes back as long as nothing has been unset. -/
theorem Restored.eq_iff (kept : Restored (env.withNulls true) t i j)
    (left : Restored (env.withNulls false) t i j') : j = j' ↔ ¬ Unset env t i := by
  refine @Restored.rec (env.withNulls true)
    (fun t i j _ => ∀ j', Restored (env.withNulls false) t i j' → (j = j' ↔ ¬ Unset env t i))
    (fun fs ss ks _ => ∀ ls, SlotsRestored (env.withNulls false) fs ss ls →
      (ks = ls ↔ ¬ SlotsUnset env fs ss))
    (fun type s k _ => ∀ l, SlotRestored (env.withNulls false) type s l →
      (k = l ↔ ¬ SlotUnset env type s))
    (fun u os ks _ => ∀ ls, AllRestored (env.withNulls false) u os ls →
      (ks = ls ↔ ¬ ∃ o ∈ os, Unset env u o))
    ?concrete ?holding ?noSlots ?slot ?plain ?converted ?embedded ?entity ?embeddables ?none ?more
    t i j kept j' left
  case concrete =>
    intro t ss ks plain each same j' left
    cases left with
    | @concrete _ _ ls _ each' =>
      rw [unset_concrete_iff]
      refine Iff.trans ?_ (same ls each')
      simp only [Instance.mk.injEq, true_and, and_true]
  case holding =>
    intro t i j polymorphic inner same j' left
    cases left with
    | @holding _ _ l _ inner' =>
      rw [unset_holding_iff]
      refine Iff.trans ?_ (same l inner')
      simp only [Instance.mk.injEq, true_and, Option.some.injEq]
  case noSlots =>
    intro ls left
    cases left
    exact ⟨nofun, fun _ => rfl⟩
  case slot =>
    intro f fs s k ss ks one rest same more ls left
    cases left with
    | cons one' rest' =>
      rw [slotsUnset_cons_iff, not_or, ← same _ one', ← more _ rest']
      simp only [List.cons.injEq, Prod.mk.injEq, true_and]
  case plain =>
    intro type initial x v value l left
    cases left with
    | plain value' =>
      cases value.symm.trans value'
      -- Only here the settings differ: what is left out gives way to what the slot starts with.
      have written : (env.withNulls true).keeps v = true := rfl
      have unwritten : (env.withNulls false).keeps v = !v.isNull := rfl
      rw [slotUnset_plain_iff, value, written, unwritten]
      cases null : v.isNull with
      | true =>
        obtain rfl := eq_null_of_isNull null
        simp
      | false =>
        refine ⟨fun _ unset => ?_, fun _ => rfl⟩
        cases unset.1
        cases null
  case converted =>
    intro r initial v k a there native l left
    cases left with
    | converted there' native' =>
      cases there.symm.trans there'
      cases native.symm.trans native'
      exact ⟨nofun, fun _ => rfl⟩
  case embedded =>
    intro u o k inner same l left
    cases left with
    | embedded inner' =>
      rw [slotUnset_embedded_iff, ← same _ inner', Slot.object.injEq]
  case entity =>
    intro u o k inner same l left
    cases left with
    | entity inner' =>
      rw [slotUnset_entity_iff, ← same _ inner', Slot.object.injEq]
  case embeddables =>
    intro u os ks inner same l left
    cases left with
    | embeddables inner' =>
      rw [slotUnset_embeddables_iff, ← same _ inner', Slot.objects.injEq]
  case none =>
    intro u ls left
    cases left
    exact ⟨nofun, fun _ => rfl⟩
  case more =>
    intro u o k os ks one rest same more ls left
    cases left with
    | cons one' rest' =>
      rw [List.exists_mem_cons_iff, not_or, ← same _ one', ← more _ rest', List.cons.injEq]

/-- The setting for nulls shows in what is read back if and only if something has been unset. Of an
instance of a lossless family that is written with nulls and without, both records can be read: as
what comes back with nulls and without, unless a listener refuses that. -/
theorem null_setting_shows_iff_unset (lossless : Lossless env valid family) (mem : t ∈ family)
    (conforms : Conforms env valid t i) {c c' d d' : Context} {r r' : Record}
    (serves : Serves (env.withNulls true) family c)
    (serves' : Serves (env.withNulls false) family d)
    (written : (Mapping.toRecord t i).run c = (.ok r, c'))
    (unwritten : (Mapping.toRecord t i).run d = (.ok r', d')) :
    ∃ j j', Restored (env.withNulls true) t i j ∧ Restored (env.withNulls false) t i j' ∧
      (∀ e, Serves (env.withNulls true) family e → ((Mapping.toEntity t r).run e).1 =
        (e.events.notify .postEntity (.entity j)).1.map fun _ => j) ∧
      (∀ e, Serves (env.withNulls false) family e → ((Mapping.toEntity t r').run e).1 =
        (e.events.notify .postEntity (.entity j')).1.map fun _ => j') ∧
      (j = j' ↔ ¬ Unset env t i) := by
  obtain ⟨j, kept, -, reads⟩ := exists_restored_of_toRecord (lossless.withNulls true) mem
    (conforms.withNulls true) serves written
  obtain ⟨j', left, -, reads'⟩ := exists_restored_of_toRecord (lossless.withNulls false) mem
    (conforms.withNulls false) serves' unwritten
  exact ⟨j, j', kept, left, reads, reads', kept.eq_iff left⟩

/-! ### A lodge -/

namespace Lodge

def member : TypeRef := ⟨0, "Member"⟩

def lodge : TypeRef := ⟨1, "Lodge"⟩

def guest : TypeRef := ⟨2, "Guest"⟩

/-- Members start with a nickname. A lodge has a guest, who is constructed from a nickname. -/
def environment : Environment where
  catalog := {
    valueName := "Value"
    descriptors := [
      { name := "Member", type := member, suppliesInstances := true
        fields := [⟨.of "nickname", .plain (.option .string) (some "Recruit")⟩] },
      { name := "Lodge", type := lodge, suppliesInstances := true
        fields := [⟨.of "guest", .entity guest⟩] },
      { name := "Guest", type := guest
        constructor := some {
          parameters := [⟨"nickname", none⟩]
          assignments := [⟨"nickname", "nickname", .get (.option .string)⟩] }
        fields := [⟨.of "nickname", .plain (.option .string) none⟩] }] }
  config := {}

def recruit : Instance := .mk member [("nickname", .plain (.option .string) (some "Recruit"))] none

/-- A member who has given up the nickname. -/
def nameless : Instance := .mk member [("nickname", .plain (.option .string) none)] none

/-- A lodge with a guest who never had one. -/
def visited : Instance :=
  .mk lodge [("guest", .object (.mk guest [("nickname", .plain (.option .string) none)] none))] none

def context (written : Bool) : Context := { environment := environment.withNulls written }

theorem lossless : Lossless environment (fun _ => True) [member] where
  supplied t ht _ := by
    obtain rfl := List.mem_singleton.1 ht
    exact ⟨rfl, nofun⟩
  fieldless t ht polymorphic := by
    obtain rfl := List.mem_singleton.1 ht
    cases polymorphic
  variants t ht polymorphic := by
    obtain rfl := List.mem_singleton.1 ht
    cases polymorphic
  closed t ht f hf u hu := by
    obtain rfl := List.mem_singleton.1 ht
    rw [List.mem_singleton.1 hf] at hu
    cases hu
  embeds t ht f hf u hu := by
    obtain rfl := List.mem_singleton.1 ht
    rw [List.mem_singleton.1 hf] at hu
    cases hu
  plain t ht f hf type initial x v hu value := by
    obtain rfl := List.mem_singleton.1 ht
    rw [List.mem_singleton.1 hf] at hu
    cases hu
    cases x <;> (cases value; rfl)
  converted t ht f hf r initial k a v hu := by
    obtain rfl := List.mem_singleton.1 ht
    rw [List.mem_singleton.1 hf] at hu
    cases hu
  apart t ht := by
    obtain rfl := List.mem_singleton.1 ht
    exact ⟨List.pairwise_singleton _ _, nofun⟩

theorem conforms_nameless : Conforms environment (fun _ => True) member nameless :=
  .concrete rfl (.cons (.plain _) .nil)

/-- The setting for nulls does show. A member without a nickname becomes a recruit again if nulls
are left out. A guest cannot even be had then, since the constructor asks for a nickname. -/
theorem null_setting_shows :
    (Lossless environment (fun _ => True) [member] ∧
      Conforms environment (fun _ => True) member nameless ∧ ∃ r r',
      ((Mapping.toRecord member nameless).run (context true)).1 = .ok r ∧
      ((Mapping.toRecord member nameless).run (context false)).1 = .ok r' ∧
      ((Mapping.toEntity member r).run (context true)).1 = .ok nameless ∧
      ((Mapping.toEntity member r').run (context false)).1 = .ok recruit ∧ recruit ≠ nameless) ∧
    ∃ r r' e, ((Mapping.toRecord lodge visited).run (context true)).1 = .ok r ∧
      ((Mapping.toRecord lodge visited).run (context false)).1 = .ok r' ∧
      ((Mapping.toEntity lodge r).run (context true)).1 = .ok visited ∧
      ((Mapping.toEntity lodge r').run (context false)).1 = .error e := by
  refine ⟨⟨lossless, conforms_nameless, ⟨"Member", [("nickname", .null)]⟩, ⟨"Member", []⟩, ?_, ?_,
      ?_, ?_, ?_⟩,
    ⟨"Lodge", [("guest", .record [("nickname", .null)])]⟩, ⟨"Lodge", [("guest", .record [])]⟩,
    .missingArgument "nickname" "Guest", ?_, ?_, ?_, ?_⟩
  · cbv
  · cbv
  · cbv
  · cbv
  · intro same
    cases same
  · cbv
  · cbv
  · cbv
  · cbv

theorem unset_nameless : Unset environment member nameless :=
  .concrete (.here (.plain rfl nofun))

theorem serves (written : Bool) :
    Serves (environment.withNulls written) [member] (context written) := by
  refine ⟨⟨rfl, .empty⟩, ?_⟩
  have loads : (((environment.withNulls written).loadAllFrom
      (environment.withNulls written).catalog.types [member]).run {}).1.isOk = true := by
    cases written <;> cbv
  obtain ⟨_, R, run⟩ := Effect.exists_of_isOk loads
  exact ⟨R, run⟩

/-- What is read of the two records of a nameless member differs. -/
theorem null_setting_shows_iff_unset_nameless :
    Lossless environment (fun _ => True) [member] ∧
      Conforms environment (fun _ => True) member nameless ∧
      (∀ written, Serves (environment.withNulls written) [member] (context written)) ∧
      ∃ r r' c d j j', (Mapping.toRecord member nameless).run (context true) = (.ok r, c) ∧
        (Mapping.toRecord member nameless).run (context false) = (.ok r', d) ∧
        Restored (environment.withNulls true) member nameless j ∧
        Restored (environment.withNulls false) member nameless j' ∧ j ≠ j' := by
  have writes : ∀ written,
      ((Mapping.toRecord member nameless).run (context written)).1.isOk = true := by
    intro written
    cases written <;> cbv
  obtain ⟨r, c, kept⟩ := Effect.exists_of_isOk (writes true)
  obtain ⟨r', d, left⟩ := Effect.exists_of_isOk (writes false)
  obtain ⟨j, j', restored, restored', -, -, same⟩ := null_setting_shows_iff_unset lossless
    (List.mem_singleton_self member) conforms_nameless (serves true) (serves false) kept left
  refine ⟨lossless, conforms_nameless, serves, r, r', c, d, j, j', kept, left, restored, restored',
    fun equal => same.1 equal unset_nameless⟩

end Lodge

end EntityMapping
