import EntityMapping.Proofs.Conversion.Faithful
import EntityMapping.Proofs.Conversion.Steps
import EntityMapping.Proofs.Instance.Blank
import EntityMapping.Proofs.Registry.Loading

/-!
Elements that say what an instance holds. They say it to every reader of a record that agrees with
them on the keys of the type, whatever else is in the record; so what is embedded can be read from
the record of its owner. The elements of single attributes say what goes to their slots, those of
all attributes together what goes to the instance.
-/

namespace EntityMapping

open Effect Environment Registry Schema

variable {env : Environment} {family : List TypeRef}

/-- A registry in which a family of types is loaded. -/
structure Holds (env : Environment) (family : List TypeRef) (R : Registry) : Prop where
  consistent : Consistent env R
  loaded : ∀ t ∈ family, ∃ m, R.find? t = some m

/-- A reader of some elements gets an instance of a type, in every registry that can go on to load
the family. -/
def ReadsAs (env : Environment) (family : List TypeRef) (t : TypeRef) (es : Elements)
    (i : Instance) : Prop :=
  ∀ R m r fresh, Holds env family R → Consistent env r → Le r R → r.find? t = some m →
    Enterable env.catalog env.config fresh t →
    (m.isPolymorphic = true → fresh = env.catalog.types) →
    Answers env R r (env.instantiate fresh m es) i

/-- A key that the instances of a type may write; those of a polymorphic type may write any. -/
def InstanceKey (env : Environment) (t : TypeRef) (k : String) : Prop :=
  (env.catalog.describe t).isPolymorphic = true ∨ TypeKey env.catalog env.config t k

/-- Some elements say what an instance of a type holds. -/
structure Written (env : Environment) (family : List TypeRef) (t : TypeRef) (i : Instance)
    (es : Elements) : Prop where
  keys : ∀ k ∈ es.keys, InstanceKey env t k
  nodup : es.keys.Nodup
  kept : ∀ e ∈ es, env.keeps e.2 = true
  marked : (env.catalog.describe t).isPolymorphic = false → ∀ b,
    declaredBinding env.catalog env.config t = some b →
      es.find? b.column = some (.text b.discriminator)
  reads : ∀ E : Elements, (∀ k, InstanceKey env t k → E.find? k = es.find? k) →
    ReadsAs env family t E i

/-- Some elements say what a slot holds. -/
structure SlotWritten (env : Environment) (family : List TypeRef) (f : MappedField) (s : Slot)
    (es : Elements) : Prop where
  keys : ∀ k ∈ es.keys, LevelKey env.catalog env.config f k
  nodup : es.keys.Nodup
  kept : ∀ e ∈ es, env.keeps e.2 = true
  reads : ∀ E : Elements, (∀ k, LevelKey env.catalog env.config f k → E.find? k = es.find? k) →
    ∀ R r fresh, Holds env family R → Consistent env r → Le r R →
      (∀ u, f.type = .embedded u → Enterable env.catalog env.config fresh u) →
      (∃ c, Answers env R r (env.contentFrom fresh f E) (some c) ∧ Instance.toSlot f c = .ok s) ∨
        Answers env R r (env.contentFrom fresh f E) none ∧
          ∀ fresh, env.catalog.blankSlot fresh f.type = s

/-- Some elements say what the slots of some attributes hold. -/
structure SlotsWritten (env : Environment) (family : List TypeRef) (t : TypeRef)
    (fs : List MappedField) (ss : Keyed Slot) (es : Elements) : Prop where
  keys : ∀ k ∈ es.keys, ∃ f ∈ fs, LevelKey env.catalog env.config f k
  nodup : es.keys.Nodup
  kept : ∀ e ∈ es, env.keeps e.2 = true
  reads : ∀ E : Elements,
    (∀ f ∈ fs, ∀ k, LevelKey env.catalog env.config f k → E.find? k = es.find? k) →
    ∀ R r fresh unread done, Holds env family R → Consistent env r → Le r R →
      (∀ f ∈ fs, ∀ u, f.type = .embedded u → Enterable env.catalog env.config fresh u) →
      (∀ f ∈ fs, f.field ∉ Keyed.keys done) →
      ∃ s, (env.fillFrom fresh (.mk t (done ++ env.catalog.blanks unread fs) none) E fs).run r =
        ((.ok (), .mk t (done ++ ss) none), s) ∧ Grown env r s ∧ Le s R

/-! ### Slots in a row -/

theorem SlotsWritten.nil {t : TypeRef} : SlotsWritten env family t [] [] [] where
  keys := nofun
  nodup := .nil
  kept := nofun
  reads _ _ _ r _ _ _ _ consistent le _ _ := ⟨r, run_fillFrom_nil, consistent.grown, le⟩

/-- A slot before some others, where no two attributes share a key or a name. -/
theorem SlotsWritten.cons {t : TypeRef} {f : MappedField} {fs : List MappedField} {s : Slot}
    {ss : Keyed Slot} {own rest : Elements} (one : SlotWritten env family f s own)
    (more : SlotsWritten env family t fs ss rest) (owner : f.owner = t)
    (levels : ∀ g ∈ fs, LevelsApart env.catalog env.config f g)
    (names : ∀ g ∈ fs, f.field ≠ g.field) :
    SlotsWritten env family t (f :: fs) ((f.field, s) :: ss) (own ++ rest) where
  keys k hk := by
    rw [Keyed.keys_append, List.mem_append] at hk
    rcases hk with hk | hk
    · exact ⟨f, List.mem_cons_self .., one.keys k hk⟩
    · obtain ⟨g, hg, key⟩ := more.keys k hk
      exact ⟨g, List.mem_cons_of_mem _ hg, key⟩
  nodup := by
    refine Keyed.nodup_keys_append one.nodup more.nodup fun k hk hl => ?_
    obtain ⟨g, hg, key⟩ := more.keys k hl
    exact levels g hg k (one.keys k hk) key
  kept e he := (List.mem_append.1 he).elim (one.kept e) (more.kept e)
  reads E agree R r fresh unread done holds consistent le enterable new := by
    have agreeOwn : ∀ k, LevelKey env.catalog env.config f k → E.find? k = own.find? k := by
      intro k hk
      rw [agree f (List.mem_cons_self ..) k hk]
      refine Keyed.find?_append_of_notMem_right fun hl => ?_
      obtain ⟨g, hg, key⟩ := more.keys k hl
      exact levels g hg k hk key
    have agreeRest : ∀ g ∈ fs, ∀ k, LevelKey env.catalog env.config g k →
        E.find? k = rest.find? k := by
      intro g hg k hk
      rw [agree g (List.mem_cons_of_mem _ hg) k hk]
      exact Keyed.find?_append_of_notMem fun hl => levels g hg k (one.keys k hl) hk
    have newRest : ∀ g ∈ fs, g.field ∉ Keyed.keys (done ++ [(f.field, s)]) := by
      intro g hg hk
      rw [Keyed.keys_append, List.mem_append] at hk
      rcases hk with hk | hk
      · exact new g (List.mem_cons_of_mem _ hg) hk
      · exact names g hg (List.mem_singleton.1 hk).symm
    -- Either way the slot of the attribute ends up as it was, and the rest is filled behind it.
    have filled : ∀ s', Grown env r s' → Le s' R →
        ∃ u, (env.fillFrom fresh
            (.mk t (done ++ (f.field, s) :: env.catalog.blanks unread fs) none) E fs).run s' =
          ((.ok (), .mk t (done ++ (f.field, s) :: ss) none), u) ∧ Grown env r u ∧ Le u R := by
      intro s' grown le'
      obtain ⟨u, run, grown', le''⟩ := more.reads E agreeRest R s' fresh unread
        (done ++ [(f.field, s)]) holds grown.consistent le'
        (fun g hg => enterable g (List.mem_cons_of_mem _ hg)) newRest
      rw [List.append_assoc, List.append_assoc] at run
      exact ⟨u, run, grown.trans grown', le''⟩
    have blanks : env.catalog.blanks unread (f :: fs) =
        (f.field, env.catalog.blankSlot unread f.type) :: env.catalog.blanks unread fs := rfl
    have embeds := enterable f (List.mem_cons_self ..)
    rcases one.reads E agreeOwn R r fresh holds consistent le embeds with
      ⟨c, ⟨s', run, grown, le'⟩, slot⟩ | ⟨⟨s', run, grown, le'⟩, blank⟩
    · have written : Instance.write (.mk t (done ++ env.catalog.blanks unread (f :: fs)) none) f c =
          .ok (.mk t (done ++ (f.field, s) :: env.catalog.blanks unread fs) none) := by
        unfold Instance.write
        rw [if_pos (by exact owner.symm), slot, blanks]
        simp only [Except.map, Instance.setSlot, Instance.type, Instance.slots, Instance.held]
        rw [Keyed.put_append done _ _ s (new f (List.mem_cons_self ..))]
      obtain ⟨u, rest, grown', le''⟩ := filled s' grown le'
      exact ⟨u, (run_fillFrom_of_some run written).trans rest, grown', le''⟩
    · obtain ⟨u, rest, grown', le''⟩ := filled s' grown le'
      refine ⟨u, ?_, grown', le''⟩
      rw [run_fillFrom_of_none run, blanks, blank unread]
      exact rest

/-! ### Instances -/

/-- The elements of all attributes, followed by the discriminator, say what an instance holds. -/
theorem Written.of_slots {t : TypeRef} {m : Metadata} {ss : Keyed Slot} {es : Elements}
    (build : Schema.build env.catalog env.config t = .ok m)
    (concrete : (env.catalog.describe t).isPolymorphic = false)
    (supplied : (env.catalog.describe t).suppliesInstances = true ∧
      ∀ k, (env.catalog.describe t).constructor = some k → k.isDefault = true)
    (apart : MarksApart env.catalog env.config t)
    (slots : SlotsWritten env family t (declared env.catalog env.config t) ss es) :
    Written env family t (.mk t ss none) (es ++ m.marks) := by
  have built := built_of_build build
  have unmarked : ∀ b, declaredBinding env.catalog env.config t = some b →
      b.column ∉ Keyed.keys es := by
    intro b hb hk
    obtain ⟨f, hf, key⟩ := slots.keys _ hk
    exact apart.own b hb f hf key
  refine ⟨?_, ?_, ?_, ?_, ?_⟩
  · intro k hk
    rw [Keyed.keys_append, List.mem_append] at hk
    exact .inr (hk.imp (slots.keys k) built.mem_keys_marks)
  · refine Keyed.nodup_keys_append slots.nodup ?_ fun k hk hl => ?_
    · rw [built.marks_eq]
      cases declaredBinding env.catalog env.config t with
      | none => exact .nil
      | some b => exact List.pairwise_singleton _ _
    · obtain ⟨b, hb, rfl⟩ := built.mem_keys_marks hl
      exact unmarked b hb hk
  · intro e he
    rcases List.mem_append.1 he with he | he
    · exact slots.kept e he
    · obtain ⟨b, -, rfl⟩ := built.mem_marks he
      exact keeps_text b.discriminator
  · intro _ b hb
    rw [Keyed.find?_append_of_notMem (unmarked b hb), built.marks_eq, hb]
    simp [VariantBinding.element, Keyed.find?]
  · intro E agree R n r fresh holds consistent le loaded enterable _
    obtain rfl : n = m := by
      obtain ⟨mem, rfl⟩ := find?_of_some loaded
      exact Except.ok.inj ((consistent.built n mem).symm.trans build)
    have plain : n.isPolymorphic = false := by rw [built.isPolymorphic, concrete]
    have unconstructed := built.isConstructed_eq_false supplied
    have agreeSlots : ∀ f ∈ declared env.catalog env.config t, ∀ k,
        LevelKey env.catalog env.config f k → E.find? k = es.find? k := by
      intro f hf k hk
      rw [agree k (.inr (.inl ⟨f, hf, hk⟩))]
      refine Keyed.find?_append_of_notMem_right fun hl => ?_
      obtain ⟨b, hb, rfl⟩ := built.mem_keys_marks hl
      exact apart.own b hb f hf hk
    obtain ⟨mem, below⟩ := enterable
    obtain ⟨s, run, grown, le'⟩ := slots.reads E agreeSlots R r (fresh.erase t)
      (env.catalog.types.erase t) [] holds consistent le below (fun f _ => List.not_mem_nil)
    have new : env.newInstance n = .ok (.mk t (env.catalog.blanks (env.catalog.types.erase t)
        (declared env.catalog env.config t)) none) := by
      rw [newInstance, built.suppliesInstances, if_pos supplied.1, built.type,
        Catalog.blank_eq built plain]
    refine ⟨s, run_instantiate_of_filled unconstructed (built.type ▸ mem) ?_ new ?_, grown, le'⟩
    · simpa [Metadata.isPolymorphic] using plain
    · rw [built.type, built.fields]
      exact run

theorem variantIn_eq_ok {r : Registry} {m n : Metadata} {p : Polymorphism} {v : TypeRef}
    {b : VariantBinding} {es : Elements} (h : Consistent env r) (loaded : r.find? v = some n)
    (bound : n.binding = some b) (parent : b.parent = m.type) (column : p.column = b.column)
    (marked : es.find? b.column = some (.text b.discriminator)) :
    variantIn (r.group m.type) m p es = .ok b := by
  refine variantIn_eq_ok_iff.2 ⟨.text b.discriminator, column ▸ marked, ?_⟩
  rw [← parent]
  exact h.find?_group loaded bound

/-- The elements of a variant say what an instance of its parent holds. -/
theorem Written.holding {t v : TypeRef} {i : Instance} {es : Elements}
    (polymorphic : (env.catalog.describe t).isPolymorphic = true)
    (fieldless : (env.catalog.describe t).fields = [])
    (listed : v ∈ (env.catalog.describe t).variants)
    (concrete : (env.catalog.describe v).isPolymorphic = false)
    (inherits : ∃ i, (env.catalog.describe v).inheritance = some i ∧ i.parent = t)
    (enterable : Enterable env.catalog env.config (env.catalog.types.erase t) v)
    (type : i.type = v) (inner : Written env family v i es) :
    Written env family t (.mk t [] (some i)) es := by
  refine ⟨fun k _ => .inl polymorphic, inner.nodup, inner.kept, ?_, ?_⟩
  · intro h
    rw [polymorphic] at h
    cases h
  · intro E agree R m r fresh holds consistent le loaded mem all
    have built := consistent.built_find? loaded
    obtain ⟨declared, hd⟩ := Option.isSome_iff_exists.1 polymorphic
    have hp : m.polymorphism = some
        ⟨discriminatorColumn env.config declared, (env.catalog.describe t).variants⟩ := by
      rw [built.polymorphism, hd, Option.map_some]
    obtain ⟨n, hn⟩ := exists_find? (consistent.stacked.variants_loaded (find?_of_some loaded).1 v
      (by rw [Metadata.variants, hp]; exact listed))
    obtain ⟨inheritance, hi, rfl⟩ := inherits
    have bound : declaredBinding env.catalog env.config v = some
        ⟨discriminatorColumn env.config declared, inheritance.discriminator, inheritance.parent,
          v⟩ := by
      rw [declaredBinding, hi, Option.bind_some, hd, Option.map_some]
    have marked := inner.marked concrete _ bound
    rw [← agree _ (.inl polymorphic)] at marked
    have named := variantIn_eq_ok
      (p := ⟨discriminatorColumn env.config declared,
        (env.catalog.describe inheritance.parent).variants⟩)
      consistent hn ((consistent.built_find? hn).binding_eq.trans bound) built.type.symm rfl marked
    have whole : m.isPolymorphic = true := built.isPolymorphic.trans polymorphic
    have variant : n.isPolymorphic = true →
        env.catalog.types.erase inheritance.parent = env.catalog.types := by
      intro h
      rw [(consistent.built_find? hn).isPolymorphic, concrete] at h
      cases h
    have lifted : env.lift ⟨discriminatorColumn env.config declared, inheritance.discriminator,
        inheritance.parent, v⟩ i = .ok (.mk inheritance.parent [] (some i)) := by
      rw [lift, if_pos type, Instance.around, Catalog.type_blank,
        Catalog.slots_blank_of_fieldless fieldless]
    rw [instantiate_polymorphic (built.type ▸ mem.mem) hp, all whole, built.type]
    refine (Answers.ask consistent le named).bind fun s _ grown le' => ?_
    have hs := grown.consistent.find?_mono grown.le hn
    refine (Answers.ask grown.consistent le' (known_eq_ok.2 hs)).bind fun u _ grown' le'' => ?_
    have hu := grown'.consistent.find?_mono grown'.le hs
    refine (inner.reads E (fun k _ => agree k (.inl polymorphic)) R n u _ holds grown'.consistent
      le'' hu enterable variant).bind fun w _ last within => ?_
    rw [lifted]
    exact .pure last.consistent within _

end EntityMapping
