import EntityMapping.Proofs.Conversion.Keys
import EntityMapping.Proofs.Conversion.Restored
import EntityMapping.Proofs.Conversion.Slots

/-!
Writing an instance of a lossless family. The elements that are written say what comes back of the
instance, by induction on the writing: a slot needs the elements of its attribute only, an instance
those of its slots and its discriminator.
-/

namespace EntityMapping

open Effect Environment Registry Schema

variable {env : Environment} {valid : Attribute → Prop} {family : List TypeRef} {R : Registry}

/-! ### The instance behind an instance -/

theorem WrittenAs.type_eq {t u : TypeRef} {i j : Instance} (h : WrittenAs env t i u j)
    (conforms : Conforms env valid t i) : u = j.type := by
  rw [WrittenAs] at h
  split at h
  · exact h.2
  · rw [h.1, h.2, conforms.type_eq]

/-- How an instance comes by what is written for it: it is that, or holds it as a variant. -/
def StandsFor (env : Environment) (t : TypeRef) (i : Instance) (v : TypeRef) (j : Instance) :
    Prop :=
  t = v ∧ i = j ∨
    (env.catalog.describe t).isPolymorphic = true ∧ v ∈ (env.catalog.describe t).variants ∧
      i = .mk t [] (some j)

/-- What is written for an instance: an instance of a type that is not polymorphic. -/
theorem Conforms.concrete_eq {t : TypeRef} {m : Metadata} {i j : Instance}
    (h : Conforms env valid t i) (lossless : Lossless env valid family) (mem : t ∈ family)
    (built : Built env.catalog env.config t m) (written : Environment.concrete m i = .ok j) :
    ∃ v slots, j = .mk v slots none ∧ v ∈ family ∧
      (env.catalog.describe v).isPolymorphic = false ∧
      SlotsConform env valid (declared env.catalog env.config v) slots ∧ StandsFor env t i v j := by
  cases h with
  | @concrete t slots plain each =>
    have single : m.isPolymorphic = false := built.isPolymorphic.trans plain
    rw [Environment.concrete, single] at written
    cases written
    exact ⟨t, slots, rfl, mem, plain, each, .inl ⟨rfl, rfl⟩⟩
  | @holding t v i polymorphic listed inner =>
    have several : m.isPolymorphic = true := built.isPolymorphic.trans polymorphic
    rw [Environment.concrete, several, if_pos rfl, if_pos (by exact built.type.symm)] at written
    cases written
    obtain ⟨mem', plain, -⟩ := lossless.variants t mem polymorphic v listed
    cases inner with
    | concrete _ each =>
      exact ⟨v, _, rfl, mem', plain, each, .inr ⟨polymorphic, listed, rfl⟩⟩
    | holding polymorphic' =>
      rw [plain] at polymorphic'
      cases polymorphic'

/-- The elements of the slots say what comes back of whatever the slots are written for. -/
theorem exists_written_of_standsFor {t v : TypeRef} {n : Metadata} {i : Instance}
    {ss ss' : Keyed Slot} {es : Elements} (lossless : Lossless env valid family) (mem : t ∈ family)
    (mem' : v ∈ family) (build : Schema.build env.catalog env.config v = .ok n)
    (plain : (env.catalog.describe v).isPolymorphic = false)
    (origin : StandsFor env t i v (.mk v ss none))
    (restored : SlotsRestored env (declared env.catalog env.config v) ss ss')
    (slots : SlotsWritten env family v (declared env.catalog env.config v) ss' es) :
    ∃ j, Restored env t i j ∧ Written env family t j (es ++ n.marks) := by
  have inner : Written env family v (.mk v ss' none) (es ++ n.marks) :=
    .of_slots build plain (lossless.supplied v mem' plain) (lossless.apart v mem') slots
  rcases origin with ⟨rfl, rfl⟩ | ⟨polymorphic, listed, rfl⟩
  · exact ⟨_, .concrete plain restored, inner⟩
  obtain ⟨-, -, inherits⟩ := lossless.variants t mem polymorphic v listed
  -- No type that is embedded on the way is polymorphic, so the parent is not among them.
  have enterable : Enterable env.catalog env.config (env.catalog.types.erase t) v := by
    refine (built_of_build build).enterable.avoid (S := fun u => u ∈ family ∧
      (env.catalog.describe u).isPolymorphic = false) ⟨mem', plain⟩ ?_ ?_
    · rintro ⟨-, concrete⟩
      rw [polymorphic] at concrete
      cases concrete
    · rintro u ⟨hu, -⟩ f hf w embeds
      refine ⟨lossless.closed u hu f hf w (by rw [embeds]; rfl), ?_⟩
      exact lossless.embeds u hu f hf w embeds
  refine ⟨_, .holding polymorphic (.concrete plain restored), ?_⟩
  exact .holding polymorphic (lossless.fieldless t mem polymorphic) listed plain inherits enterable
    rfl inner

/-! ### Writing -/

/-- The slots of an instance, some of them behind others. -/
structure Row (env : Environment) (valid : Attribute → Prop) (t : TypeRef) (i : Instance)
    (fs : List MappedField) (ss : Keyed Slot) : Prop where
  slots : ∃ done, i = .mk t (done ++ ss) none ∧ ∀ f ∈ fs, f.field ∉ Keyed.keys done
  conform : SlotsConform env valid fs ss
  declared : ∀ f ∈ fs, f ∈ Schema.declared env.catalog env.config t
  names : fs.Pairwise fun f g => f.field ≠ g.field ∧ f.key ≠ g.key
  levels : fs.Pairwise (LevelsApart env.catalog env.config)

theorem Row.tail {t : TypeRef} {i : Instance} {f : MappedField} {fs : List MappedField} {s : Slot}
    {ss : Keyed Slot} (row : Row env valid t i (f :: fs) ((f.field, s) :: ss)) :
    Row env valid t i fs ss := by
  obtain ⟨⟨done, rfl, new⟩, conform, mem, names, levels⟩ := row
  obtain ⟨names, names'⟩ := List.pairwise_cons.1 names
  refine ⟨⟨done ++ [(f.field, s)], ?_, ?_⟩, ?_, ?_, names', (List.pairwise_cons.1 levels).2⟩
  · rw [List.append_assoc]
    rfl
  · intro g hg hk
    rw [Keyed.keys_append, List.mem_append] at hk
    rcases hk with hk | hk
    · exact new g (List.mem_cons_of_mem _ hg) hk
    · exact (names g hg).1 (List.mem_singleton.1 hk).symm
  · cases conform with
    | cons _ rest => exact rest
  · exact fun g hg => mem g (List.mem_cons_of_mem _ hg)

theorem Row.read {t : TypeRef} {i : Instance} {f : MappedField} {fs : List MappedField} {s : Slot}
    {ss : Keyed Slot} (row : Row env valid t i (f :: fs) ((f.field, s) :: ss)) :
    i.read f = Instance.ofSlot s := by
  obtain ⟨⟨done, rfl, new⟩, -, mem, -, -⟩ := row
  have owner := owner_of_mem_declared (mem f (List.mem_cons_self ..))
  have found : Keyed.find? f.field (done ++ (f.field, s) :: ss) = some s := by
    rw [Keyed.find?_append_of_notMem (new f (List.mem_cons_self ..))]
    simp [Keyed.find?]
  unfold Instance.read
  rw [if_pos (by exact owner.symm)]
  simp only [Instance.slots, found]

/-- What a value or a converted attribute writes says what comes back of its slot. -/
theorem exists_slotWritten_of_leaf {t : TypeRef} {f : MappedField} {s : Slot} {c : Content}
    {es : Elements} (lossless : Lossless env valid family) (mem : t ∈ family)
    (declared : f ∈ declared env.catalog env.config t) (one : SlotConforms env valid f.type s)
    (slot : Instance.ofSlot s = .ok c) (written : env.leafElements f c = .ok es) :
    ∃ s', SlotRestored env f.type s s' ∧
      SlotWritten env family f s' (es.filter fun e => env.keeps e.2) := by
  rcases c with v | a | o | os
  · obtain ⟨T, initial, x, rfl, kind, value⟩ := one.native_inv slot
    have back := lossless.plain t mem f declared T initial x v kind value
    rw [leafElements_plain kind] at written
    cases written
    exact ⟨_, kind ▸ .plain value, .plain kind back⟩
  · obtain ⟨rfl, real, c, initial, kind, named⟩ := one.attribute_inv slot
    obtain ⟨k, v, there, native, rfl⟩ := leafElements_converted kind written
    have back := lossless.converted t mem f declared c initial k a v kind there real native
    exact ⟨_, kind ▸ .converted there native, .converted kind there named back⟩
  · rw [leafElements_object] at written
    cases written
  · rw [leafElements_objects] at written
    cases written

/-- What an attribute writes says what comes back of its slot, also where it writes nothing. -/
theorem yields_slotWritten {t : TypeRef} {i : Instance} {f : MappedField} {s : Slot}
    (lossless : Lossless env valid family) (mem : t ∈ family)
    (declared : f ∈ declared env.catalog env.config t) (one : SlotConforms env valid f.type s)
    (read : i.read f = Instance.ofSlot s)
    (content : ∀ c, i.read f = .ok c → Instance.ofSlot s = .ok c →
      Yields (Within env R) (env.contentElements f c) fun es =>
        ∃ s', SlotRestored env f.type s s' ∧
          SlotWritten env family f s' (es.filter fun e => env.keeps e.2)) :
    Yields (Within env R) (env.ownElements i f) fun es =>
      ∃ s', SlotRestored env f.type s s' ∧ SlotWritten env family f s' es := by
  refine yields_own (fun null unkept => ?_) fun c hc => content c hc (read.symm.trans hc)
  obtain ⟨T, initial, x, rfl, kind, value⟩ := one.native_inv (read.symm.trans null)
  have back := lossless.plain t mem f declared T initial x _ kind value
  have h : SlotWritten env family f _ _ := .plain kind back
  rw [List.filter_cons_of_neg (by simp [unkept]), List.filter_nil] at h
  exact ⟨_, kind ▸ .plain value, h⟩

/-- Writing an instance of a lossless family says what comes back of the instance. -/
theorem yields_restored (lossless : Lossless env valid family) (holds : Holds env family R) :
    (∀ i t, Conforms env valid t i → t ∈ family →
      Yields (Within env R) (env.elements i t) fun es =>
        ∃ j, Restored env t i j ∧ Written env family t j es) ∧
    (∀ i m, ∀ t, Conforms env valid t i → t ∈ family → R.find? t = some m →
      Yields (Within env R) (env.elementsWith i m) fun p =>
        ∃ j, Restored env t i j ∧ Written env family t j p.1) ∧
    (∀ i fs, ∀ t ss, t ∈ family → Row env valid t i fs ss →
      Yields (Within env R) (env.fieldElements i fs) fun es =>
        ∃ ss', SlotsRestored env fs ss ss' ∧ SlotsWritten env family t fs ss' es) ∧
    (∀ f c, ∀ t s, t ∈ family → f ∈ declared env.catalog env.config t →
      SlotConforms env valid f.type s → Instance.ofSlot s = .ok c →
      Yields (Within env R) (env.contentElements f c) fun es =>
        ∃ s', SlotRestored env f.type s s' ∧
          SlotWritten env family f s' (es.filter fun e => env.keeps e.2)) ∧
    (∀ t os, (∀ o ∈ os, Conforms env valid t o) → t ∈ family →
      Yields (Within env R) (env.objectRecords t os) fun vs =>
        ∃ os', AllRestored env t os os' ∧ RecordsWritten env family t os' vs) := by
  obtain ⟨hR, loaded⟩ := holds
  refine elements.mutual_induct _ _ _ _ _ ?elements ?refused ?written ?noFields ?field ?embedded
    ?entity ?embeddables ?value ?noRecords ?record
  case elements =>
    intro i t written conforms mem
    obtain ⟨m, found⟩ := loaded t mem
    rw [elements]
    refine (yields_load_within hR found).bind fun n same => ?_
    subst same
    exact (written n t conforms mem found).bind fun p h => .pure h
  case refused =>
    intro i m e h t conforms mem found
    rw [elementsWith_of_error h]
    exact .throw e
  case written =>
    intro i m j h fields t conforms mem found
    have built := hR.built_find? found
    obtain ⟨v, slots, rfl, mem', plain, each, origin⟩ := conforms.concrete_eq lossless mem built h
    rw [elementsWith_of_ok h]
    refine (yields_concreteMetadata (fun _ within => within.1) (hR.build_find? found) h).bind
      fun n hn => ?_
    obtain ⟨u, written, build⟩ := hn
    obtain rfl : u = v := written.type_eq conforms
    have built' := built_of_build build
    have row : Row env valid u (.mk u slots none) n.fields slots := by
      rw [built'.fields]
      refine ⟨⟨[], rfl, fun f _ => List.not_mem_nil⟩, each, fun f hf => hf, ?_,
        built'.levelsApart (lossless.apart u mem')⟩
      rw [← built'.fields]
      exact built'.apart
    refine (fields n u slots mem' row).bind fun es slotsWritten => .pure ?_
    rw [built'.fields] at slotsWritten
    obtain ⟨slots', restored, slotsWritten⟩ := slotsWritten
    exact exists_written_of_standsFor lossless mem mem' build plain origin restored slotsWritten
  case noFields =>
    intro i t ss mem row
    rw [fieldElements]
    cases row.conform
    exact .pure ⟨[], .nil, .nil⟩
  case field =>
    intro i f fs own rest t ss mem row
    rw [fieldElements_cons]
    obtain ⟨s, ss, rfl, one⟩ := row.conform.cons_inv
    have declared := row.declared f (List.mem_cons_self ..)
    have first : Yields (Within env R) (env.ownElements i f) fun es =>
        ∃ s', SlotRestored env f.type s s' ∧ SlotWritten env family f s' es :=
      yields_slotWritten lossless mem declared one row.read fun c hc slot =>
        own c hc t s mem declared one slot
    refine first.bind fun es h => ?_
    obtain ⟨s', restored, h⟩ := h
    refine (rest t ss mem row.tail).bind fun more h' => ?_
    obtain ⟨ss', restored', h'⟩ := h'
    exact .pure ⟨_, .cons restored restored', .cons h h' (owner_of_mem_declared declared)
      (List.pairwise_cons.1 row.levels).1 fun g hg => ((List.pairwise_cons.1 row.names).1 g hg).1⟩
  case embedded =>
    intro f o kind written t s mem declared one slot
    obtain ⟨u, type⟩ := kind_eq_embedded.1 kind
    obtain ⟨rfl, v, inner, type'⟩ := one.object_inv slot
    obtain rfl : u = v := by simpa [type] using type'
    have mem' := lossless.closed t mem f declared u (by rw [type]; rfl)
    rw [contentElements_embedded type]
    refine (written u inner mem').imp fun es h => ?_
    obtain ⟨j, restored, h⟩ := h
    refine ⟨.object j, type ▸ .embedded restored, ?_⟩
    exact .embedded type mem' (lossless.embeds t mem f declared u type) restored.type_eq h
  case entity =>
    intro f o kind written t s mem declared one slot
    obtain ⟨u, type⟩ := kind_eq_entity.1 kind
    obtain ⟨rfl, v, inner, type'⟩ := one.object_inv slot
    obtain rfl : u = v := by simpa [type] using type'
    have mem' := lossless.closed t mem f declared u (by rw [type]; rfl)
    rw [contentElements_entity type]
    refine (written u inner mem').bind fun es h => .pure ?_
    obtain ⟨j, restored, h⟩ := h
    exact ⟨_, type ▸ .entity restored, .entity type mem' restored.type_eq h⟩
  case embeddables =>
    intro f os kind written t s mem declared one slot
    obtain ⟨rfl, u, inner, type⟩ := one.objects_inv slot
    have mem' := lossless.closed t mem f declared u (by rw [type]; rfl)
    rw [contentElements_embeddables type]
    refine (written u inner mem').bind fun vs h => .pure ?_
    obtain ⟨os', restored, h⟩ := h
    exact ⟨_, type ▸ .embeddables restored, .embeddables type mem' restored.type_eq h⟩
  case value =>
    intro f c embedded entity collection t s mem declared one slot
    rw [contentElements.eq_4 _ _ _ embedded entity collection]
    refine (yields_ofExcept _).imp fun es written => ?_
    exact exists_slotWritten_of_leaf lossless mem declared one slot written
  case noRecords =>
    intro t _ _
    rw [objectRecords]
    exact .pure ⟨[], .nil, .nil⟩
  case record =>
    intro t o os first rest conforms mem
    rw [objectRecords]
    refine (first (conforms o (List.mem_cons_self ..)) mem).bind fun es h => ?_
    obtain ⟨j, restored, h⟩ := h
    refine (rest (fun p hp => conforms p (List.mem_cons_of_mem _ hp)) mem).bind fun vs h' => ?_
    obtain ⟨js, restored', h'⟩ := h'
    exact .pure ⟨_, .cons restored restored', .cons h h'⟩

end EntityMapping
