import EntityMapping.Proofs.Conversion.Discriminator
import EntityMapping.Proofs.Conversion.Endless

/-!
When reading ends. A reading ends unless it comes back to a type while it is at the same elements,
and then it has gone no further than there are types, at every depth of the record. Accepting a
declaration makes sure that a type does not embed itself, but it does not look at variants: a
variant that embeds its parent leads back to it. So reading ends for all records if no variant
leads back to what it inherits from.
-/

namespace EntityMapping

open Effect Environment Registry Relation

variable {env : Environment}

/-! ### Types that lead to others -/

namespace Catalog

/-- A type is read from the elements of another one, as a variant or as an embedded object. -/
def Leads (catalog : Catalog) (t u : TypeRef) : Prop := catalog.Inherits u t ∨ catalog.Embeds t u

/-- A type is read where another one is, as a variant or as any object. -/
def Refers (catalog : Catalog) (t u : TypeRef) : Prop :=
  catalog.Inherits u t ∨ ∃ f ∈ (catalog.describe t).fields, f.type.element? = some u

variable {catalog : Catalog} {t u : TypeRef}

/-- A way among types only embeds, or goes from a type to a variant of it. -/
theorem embeds_or_inherits (way : TransGen catalog.Leads t u) :
    TransGen catalog.Embeds t u ∨ ∃ p v, ReflTransGen catalog.Leads t p ∧
      catalog.Inherits v p ∧ ReflTransGen catalog.Leads v u := by
  induction way with
  | single step =>
    rcases step with inherits | embeds
    · exact .inr ⟨_, _, .refl, inherits, .refl⟩
    · exact .inl (.single embeds)
  | tail before step ih =>
    rcases ih with embedding | ⟨p, v, first, inherits, rest⟩
    · rcases step with inherits | embeds
      · exact .inr ⟨_, _, before.to_reflTransGen, inherits, .refl⟩
      · exact .inl (embedding.tail embeds)
    · exact .inr ⟨p, v, first, inherits, rest.tail step⟩

theorem leads_le_refers : catalog.Leads ≤ catalog.Refers := by
  rintro t u (inherits | ⟨f, mem, embeds⟩)
  · exact .inl inherits
  · exact .inr ⟨f, mem, by rw [embeds]; rfl⟩

/-- No variant of a type to which a type refers leads back to its parent. -/
def VariantsApart (catalog : Catalog) (t : TypeRef) : Prop :=
  ∀ p v, ReflTransGen catalog.Refers t p → catalog.Inherits v p →
    ¬ ReflTransGen catalog.Leads v p

end Catalog

namespace Reading

variable {fresh : List TypeRef} {a b : Call} {t : TypeRef} {f : MappedField} {s : Registry}

theorem ComesTo.exists_field (h : ComesTo env a f s) (sound : Sound env a) :
    ∃ g ∈ (env.catalog.describe a.metadata.type).fields, g.type = f.type := by
  obtain ⟨g, mem, rfl⟩ := List.mem_map.1 (h.mem_declared sound)
  exact ⟨g, mem, rfl⟩

theorem Here.leads (h : Here env a b) (sound : Sound env a) :
    env.catalog.Leads a.metadata.type b.metadata.type := by
  cases h with
  | variant polymorphic named loaded =>
    obtain ⟨d, -, found⟩ := variantIn_eq_ok_iff.1 named
    have inherits := sound.consistent.inherits_of_group found
    rw [← (find?_of_some loaded).2] at inherits
    exact .inl inherits
  | embedded comes embeds loads =>
    obtain ⟨g, mem, same⟩ := comes.exists_field sound
    obtain ⟨-, rfl, -⟩ := sound_of_load (comes.grown sound).consistent loads a.elements
    exact .inr ⟨g, mem, same.trans embeds⟩

theorem Below.refers (h : Below env a b) (sound : Sound env a) :
    env.catalog.Refers a.metadata.type b.metadata.type := by
  cases h with
  | @entity _ _ _ _ _ nested comes nests _ loads =>
    obtain ⟨g, mem, same⟩ := comes.exists_field sound
    obtain ⟨-, rfl, -⟩ := sound_of_load (comes.grown sound).consistent loads nested
    exact .inr ⟨g, mem, by rw [same, nests]; rfl⟩
  | @item _ _ _ _ _ _ nested _ _ _ _ comes lists _ loads _ _ =>
    obtain ⟨g, mem, same⟩ := comes.exists_field sound
    obtain ⟨-, rfl, -⟩ := sound_of_load (comes.grown sound).consistent loads nested
    exact .inr ⟨g, mem, by rw [same, lists]; rfl⟩

theorem refers_of_reflTransGen (way : ReflTransGen (Asks env) a b) (sound : Sound env a) :
    ReflTransGen env.catalog.Refers a.metadata.type b.metadata.type := by
  induction way with
  | refl => exact .refl
  | tail before asked ih =>
    have there := sound.of_reflTransGen before
    rcases asked with here | below
    · exact ih.tail (Catalog.leads_le_refers _ _ (here.leads there))
    · exact ih.tail (below.refers there)

theorem leads_of_transGen (way : TransGen (Here env) a b) (sound : Sound env a) :
    TransGen env.catalog.Leads a.metadata.type b.metadata.type := by
  induction way with
  | single here => exact .single (here.leads sound)
  | tail before here ih => exact ih.tail (here.leads (again_of_transGen before sound).2.1)

/-- A reading comes back only by way of a variant: accepted types do not embed themselves. -/
theorem not_comesBack_of_variantsApart (apart : env.catalog.VariantsApart a.metadata.type)
    (sound : Sound env a) : ¬ ComesBack env a := by
  rintro ⟨b, c, way, loop, type⟩
  have there := sound.of_reflTransGen way
  have refers := refers_of_reflTransGen way sound
  have cycle := leads_of_transGen loop there
  rw [type] at cycle
  rcases Catalog.embeds_or_inherits cycle with embedding | ⟨p, v, first, inherits, rest⟩
  · exact not_transGen_self_of_acc (Catalog.acc_embeds there.built.enterable) embedding
  · have leads := ReflTransGen.mono Catalog.leads_le_refers _ _ first
    exact apart p v (refers.trans leads) inherits (rest.trans first)

/-! ### Answers and calls -/

/-- Induction over readings and the types that are open in them: on the same elements there is one
less for every reading that asks for another one, and nested elements are less deep. -/
theorem induction_open (env : Environment) {P : List TypeRef → Call → Prop}
    (step : ∀ fresh a,
      (∀ b, Here env a b → a.metadata.type ∈ fresh → P (fresh.erase a.metadata.type) b) →
      (∀ b, Below env a b → ∀ more, P more b) → P fresh a) (fresh : List TypeRef) (a : Call) :
    P fresh a := by
  induction depth : a.elements.nesting using Nat.strongRecOn generalizing fresh a with
  | _ d nested =>
    induction size : fresh.length using Nat.strongRecOn generalizing fresh a with
    | _ k same =>
      subst depth size
      refine step fresh a (fun b here mem => ?_) fun b below more => ?_
      · exact same _ (TypeRef.length_erase_lt mem) _ b (by rw [here.elements]) rfl
      · exact nested _ below.nesting_lt more b rfl

/-- A reading that does not answer that it is endless ends. -/
theorem ends_of_not_endlessAt (sub : fresh.Sublist env.catalog.types)
    (answered : ¬ EndlessAt env fresh a) : Ends env a := by
  induction fresh, a using induction_open env with
  | step fresh a same nested =>
    refine ⟨_, fun b asked => ?_⟩
    rcases asked with here | below
    · have mem : a.metadata.type ∈ fresh :=
        Classical.byContradiction fun absent => answered (.of_notMem here.supplied absent)
      exact same b here mem ((List.erase_sublist ..).trans sub)
        fun endless => answered (.of_here here sub endless)
    · exact nested b below _ (.refl _) fun endless => answered (.of_below below sub endless)

theorem mem_types_of_here (way : ReflTransGen (Here env) a b) (sound : Sound env a) :
    b.metadata.type ∈ env.catalog.types :=
  (sound.of_reflTransGen (ReflTransGen.mono here_le_asks _ _ way)).built.mem_types

/-- A reading that answers that it is endless comes to a type that is being read from the same
elements, or comes back to a type. -/
theorem EndlessAt.exists_here_or_comesBack (endless : EndlessAt env fresh a)
    (loadable : env.Loadable) (sound : Sound env a) (sub : fresh.Sublist env.catalog.types) :
    (∃ c, ReflTransGen (Here env) a c ∧ c.metadata.type ∉ fresh) ∨ ComesBack env a := by
  induction fresh, a using induction_open env with
  | step fresh a same nested =>
    by_cases mem : a.metadata.type ∈ fresh
    · rcases endless.exists_asks sound loadable sub mem with
        ⟨b, here, endless⟩ | ⟨b, below, endless⟩
      · rcases same b here mem endless (here.grown sound).2
          ((List.erase_sublist ..).trans sub) with ⟨c, way, read⟩ | back
        · by_cases own : c.metadata.type = a.metadata.type
          · -- the reading has come back to its own type
            exact .inr ⟨a, c, .refl, .head' here way, own⟩
          · exact .inl ⟨c, .head here way, mt (List.mem_erase_of_ne own).2 read⟩
        · exact .inr (back.of_asks (.inl here))
      · have sound' := (below.grown sound).2
        rcases nested b below _ endless sound' (.refl _) with ⟨c, way, absent⟩ | back
        · exact absurd (mem_types_of_here way sound') absent
        · exact .inr (back.of_asks (.inr below))
    · exact .inl ⟨a, .refl, mem⟩

/-- Where all types are open, a reading ends exactly if it does not answer that it is endless. -/
theorem ends_iff_not_endlessAt (loadable : env.Loadable) (sound : Sound env a) :
    Ends env a ↔ ¬ EndlessAt env env.catalog.types a := by
  refine ⟨fun ends endless => ?_, ends_of_not_endlessAt (.refl _)⟩
  rcases endless.exists_here_or_comesBack loadable sound (.refl _) with ⟨c, way, absent⟩ | back
  · exact absent (mem_types_of_here way sound)
  · exact ends.not_comesBack sound back

/-! ### Records -/

/-- The reading of a record. -/
def callOf (c : Context) (m : Metadata) (rec : Record) : Call := ⟨c.registry, m, rec.elements⟩

variable {c d : Context} {m : Metadata} {rec : Record}

/-- Making an instance from a record is endless exactly if the reading of the record is: what the
listeners do afterwards is no search. -/
theorem endless_toEntity (loads : (Mapping.load t).run c = (.ok m, d)) :
    Endless ((Mapping.toEntity t rec).run c).1 ↔
      EndlessAt d.environment d.environment.catalog.types (callOf d m rec) := by
  rw [Mapping.toEntity, run_bind_of_ok loads, Mapping.readRecord, endless_bind,
    Mapping.run_ofLoading, or_iff_left]
  · rfl
  · rintro ⟨i, d', -, endless⟩
    rcases endless_bind.1 endless with refused | ⟨u, d'', -, answer⟩
    · rw [Mapping.run_fire] at refused
      exact (d'.events.settled_notify ..).not_endless refused
    · exact not_endless_ok i answer

theorem sound_callOf (used : Mapping.Used env c) (loads : (Mapping.load t).run c = (.ok m, d))
    (rec : Record) : d.environment = env ∧ m.type = t ∧ Sound env (callOf d m rec) := by
  obtain ⟨rfl, reached⟩ := used
  obtain ⟨r, loaded, rfl⟩ := Mapping.run_ofLoading_eq_ok.1 loads
  exact ⟨rfl, (sound_of_load reached.consistent loaded rec.elements).2⟩

/-- Where all types load, the reading of a record as an instance of a type ends exactly if it does
not come back to a type at the same elements, that is exactly if the answer is an instance or an
error other than that the reading is endless. Then the depth of the readings is bounded by how many
types there are and how deep the record is nested. It always ends if no variant of a type to which
the type refers leads back to the parent of the variant. -/
theorem reading_ends_iff_not_comesBack (loadable : env.Loadable) (used : Mapping.Used env c)
    (loads : (Mapping.load t).run c = (.ok m, d)) (rec : Record) :
    (Ends env (callOf d m rec) ↔ ¬ ComesBack env (callOf d m rec)) ∧
      (Ends env (callOf d m rec) ↔ ¬ Endless ((Mapping.toEntity t rec).run c).1) ∧
      (Ends env (callOf d m rec) → ∀ calls, (callOf d m rec :: calls).IsChain (Asks env) →
        calls.length < env.catalog.types.length * (rec.elements.nesting + 1)) ∧
      (env.catalog.VariantsApart t → Ends env (callOf d m rec)) := by
  obtain ⟨same, rfl, sound⟩ := sound_callOf used loads rec
  have straight := ends_iff_not_comesBack sound
  refine ⟨straight, ?_, fun ends calls chain => ?_, fun apart => ?_⟩
  · rw [endless_toEntity loads, same]
    exact ends_iff_not_endlessAt loadable sound
  · exact length_lt_of_not_comesBack sound (straight.1 ends) chain
  · exact straight.2 (not_comesBack_of_variantsApart apart sound)

/-! ### A drawing -/

namespace Drawing

def shape : TypeRef := ⟨0, "Shape"⟩

def dot : TypeRef := ⟨1, "Dot"⟩

def group : TypeRef := ⟨2, "Group"⟩

def frame : TypeRef := ⟨3, "Frame"⟩

/-- Shapes are dots, groups of shapes, and frames; a frame has a shape embedded in it. -/
def environment : Environment where
  catalog := {
    valueName := "Value"
    descriptors := [
      { name := "Shape", type := shape, polymorphism := some none
        variants := [dot, group, frame] },
      { name := "Dot", type := dot, suppliesInstances := true
        inheritance := some ⟨shape, "dot"⟩ },
      { name := "Group", type := group, suppliesInstances := true
        fields := [⟨.of "parts", .embeddables shape⟩]
        inheritance := some ⟨shape, "group"⟩ },
      { name := "Frame", type := frame, suppliesInstances := true
        fields := [⟨.of "inner", .embedded shape⟩]
        inheritance := some ⟨shape, "frame"⟩ }] }
  config := {}

def context : Context := { environment }

def marked (kind : String) : Elements := [("dtype", .text kind)]

def dots : Record :=
  .ofElements "Shape"
    (marked "group" ++ [("parts", .list [.record (marked "dot"), .record (marked "dot")])])

/-- A frame, around what the same elements say: itself. -/
def framed : Record := .ofElements "Shape" (marked "frame")

theorem used_context : Mapping.Used environment context := ⟨rfl, .empty⟩

theorem loadable : environment.Loadable where
  loads := by
    have all : (environment.catalog.types.all fun t =>
        (((environment.load shape).run {}).2.find? t).isSome) = true := by
      cbv
    intro t mem
    obtain ⟨m, found⟩ := Option.isSome_iff_exists.1 (List.all_eq_true.1 all t mem)
    exact ⟨_, m, .load .empty shape, found⟩
  variants := by
    unfold Catalog.Closed
    decide
  objects := by decide
  converters := fun k ⟨name, found⟩ => by cases found

theorem exists_loads_shape : ∃ m d, (Mapping.load shape).run context = (.ok m, d) := by
  have loads : ((Mapping.load shape).run context).1.isOk = true := by cbv
  exact exists_of_isOk loads

end Drawing

open Drawing in
theorem reading_ends_iff_not_comesBack_dots :
    ∃ m d, environment.Loadable ∧ Mapping.Used environment context ∧
      (Mapping.load shape).run context = (.ok m, d) ∧ Ends environment (callOf d m dots) ∧
      ¬ ComesBack environment (callOf d m dots) := by
  obtain ⟨m, d, loads⟩ := exists_loads_shape
  have answered : ((Mapping.toEntity shape dots).run context).1.isOk = true := by cbv
  obtain ⟨back, answer, -⟩ := reading_ends_iff_not_comesBack loadable used_context loads dots
  have ends : Ends environment (callOf d m dots) := by
    refine answer.2 ?_
    rintro ⟨name, endless⟩
    rw [endless] at answered
    cases answered
  exact ⟨m, d, loadable, used_context, loads, ends, back.1 ends⟩

open Drawing in
/-- Not every reading ends. -/
theorem reading_of_framed_never_ends :
    ¬ ∀ (env : Environment) (c d : Context) (t : TypeRef) (m : Metadata) (rec : Record),
      env.Loadable → Mapping.Used env c → (Mapping.load t).run c = (.ok m, d) →
      Ends env (callOf d m rec) := by
  intro allEnd
  obtain ⟨m, d, loads⟩ := exists_loads_shape
  have ends := allEnd environment context d shape m framed loadable used_context loads
  obtain ⟨same, -, sound⟩ := sound_callOf used_context loads framed
  have endless : Endless ((Mapping.toEntity shape framed).run context).1 := by
    refine ⟨"Shape", ?_⟩
    cbv
  rw [endless_toEntity loads, same] at endless
  exact (ends_iff_not_endlessAt loadable sound).1 ends endless

end Reading

end EntityMapping
