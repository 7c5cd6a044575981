import EntityMapping.Proofs.Descent
import EntityMapping.Proofs.Schema.Level
import EntityMapping.Proofs.Schema.Refusal
import Mathlib.Data.List.Permutation
import Mathlib.Logic.Relation

/-!
Which declarations are accepted. Three searches go through the types that a type leads to. One
collects the keys of its record and refuses a type that it comes back to; one looks at the
attributes of every type inside and passes over those that it comes back to; the rest looks at the
type alone. Together they accept exactly the types whose parts all go together, whose embedded
objects do not contain themselves, and whose record has each key once.
-/

namespace EntityMapping

open Relation

namespace Catalog

/-- The objects of a type have objects of another one inside, embedded or in records of their
own. -/
def Contains (catalog : Catalog) (t u : TypeRef) : Prop :=
  ∃ f ∈ (catalog.describe t).fields, f.type.element? = some u

/-- Containing a type that may still be entered. -/
def Within (catalog : Catalog) (fresh : List TypeRef) (t u : TypeRef) : Prop :=
  catalog.Contains t u ∧ u ∈ fresh

variable {catalog : Catalog} {t u : TypeRef}

theorem Embeds.contains (h : catalog.Embeds t u) : catalog.Contains t u := by
  obtain ⟨f, mem, embeds⟩ := h
  exact ⟨f, mem, by rw [embeds]; rfl⟩

theorem not_contains_of_undeclared (absent : t ∉ catalog.types) : ¬ catalog.Contains t u := by
  rintro ⟨f, mem, -⟩
  rw [describe_of_undeclared absent] at mem
  cases mem

end Catalog

namespace Schema

variable {catalog : Catalog} {config : Config} {t u : TypeRef} {fresh : List TypeRef}
  {f : MappedField} {fs : List MappedField} {seen keys ks : List String}

theorem contains_iff :
    catalog.Contains t u ↔ ∃ f ∈ declared catalog config t, f.type.element? = some u := by
  simp only [declared, List.mem_map, exists_exists_and_eq_and]
  rfl

theorem embeds_iff :
    catalog.Embeds t u ↔ ∃ f ∈ declared catalog config t, f.type = .embedded u := by
  simp only [declared, List.mem_map, exists_exists_and_eq_and]
  rfl

/-! ### Types whose attributes go together -/

/-- The declared attributes of a type go together: at most one is its id, and no two share a name
or a key. -/
def Together (catalog : Catalog) (config : Config) (t : TypeRef) : Prop :=
  (declared catalog config t).Pairwise Compatible

/-- What holds all the way down from a type holds of the type, and all the way down from what it
contains when the type itself is not entered again. -/
theorem forall_below_iff {P : TypeRef → Prop} :
    (∀ v, ReflTransGen (catalog.Within fresh) t v → P v) ↔
      P t ∧ ∀ u, catalog.Within (fresh.erase t) t u →
        ∀ v, ReflTransGen (catalog.Within (fresh.erase t)) u v → P v := by
  constructor
  · intro all
    have wider : catalog.Within (fresh.erase t) ≤ catalog.Within fresh :=
      fun x y step => ⟨step.1, List.mem_of_mem_erase step.2⟩
    refine ⟨all t .refl, fun u first v way => all v ?_⟩
    exact .head (wider t u first) (ReflTransGen.mono wider _ _ way)
  · rintro ⟨here, below⟩ v way
    by_cases same : v = t
    · exact same ▸ here
    · obtain ⟨u, first, apart, rest⟩ := exists_step_avoiding way same
      refine below u ⟨first.1, (List.mem_erase_of_ne apart).2 first.2⟩ v ?_
      refine ReflTransGen.mono (fun x y step => ?_) _ _ rest
      exact ⟨step.1.1, (List.mem_erase_of_ne step.2).2 step.1.2⟩

theorem exists_bind_eq_ok {α β : Type} {x : Except MapperError α}
    {f : α → Except MapperError β} :
    (∃ b, (x >>= f) = .ok b) ↔ ∃ a, x = .ok a ∧ ∃ b, f a = .ok b := by
  constructor
  · rintro ⟨b, h⟩
    obtain ⟨a, ha, hb⟩ := bind_eq_ok h
    exact ⟨a, ha, b, hb⟩
  · rintro ⟨a, rfl, b, h⟩
    exact ⟨b, h⟩

theorem exists_fieldsOf_bind {β : Type} {search : List MappedField → Except MapperError β} :
    (∃ b, (fieldsOf config (catalog.describe t) >>= search) = .ok b) ↔
      Together catalog config t ∧ ∃ b, search (declared catalog config t) = .ok b := by
  rw [exists_bind_eq_ok]
  constructor
  · rintro ⟨fs, fields, found⟩
    obtain ⟨rfl, together⟩ := fieldsOf_eq_ok.1 fields
    exact ⟨together, found⟩
  · rintro ⟨together, found⟩
    exact ⟨_, fieldsOf_eq_ok.2 ⟨rfl, together⟩, found⟩

/-- Every type that can be entered from a type on goes together. -/
def AllTogether (catalog : Catalog) (config : Config) (fresh : List TypeRef) (t : TypeRef) : Prop :=
  t ∈ fresh → ∀ v, ReflTransGen (catalog.Within fresh) t v → Together catalog config v

theorem forall_within_iff :
    (∀ u, catalog.Within fresh t u →
      ∀ v, ReflTransGen (catalog.Within fresh) u v → Together catalog config v) ↔
    ∀ f ∈ declared catalog config t, ∀ u, f.type.element? = some u →
      AllTogether catalog config fresh u := by
  constructor
  · intro below f mem u object entered
    exact below u ⟨contains_iff.2 ⟨f, mem, object⟩, entered⟩
  · rintro below u ⟨contains, entered⟩
    obtain ⟨f, mem, object⟩ := contains_iff.1 contains
    exact below f mem u object entered

theorem allTogether_iff :
    AllTogether catalog config fresh t ↔ (t ∈ fresh → Together catalog config t ∧
      ∀ f ∈ declared catalog config t, ∀ u, f.type.element? = some u →
        AllTogether catalog config (fresh.erase t) u) :=
  imp_congr_right fun _ => forall_below_iff.trans (and_congr_right fun _ => forall_within_iff)

/-- Some attributes are indexed if every type that can be entered below them goes together. -/
theorem exists_indexFields_iff {path native : String} {index : Keyed NativePath} :
    (∃ out, indexFields catalog config fresh path native index fs = .ok out) ↔
      ∀ f ∈ fs, ∀ u, f.type.element? = some u → AllTogether catalog config fresh u := by
  induction fresh, path, native, index, fs using indexFields.induct with
  | case1 fresh path native index =>
    rw [indexFields]
    simp
  | case2 fresh path native index f fs here inner rest =>
    rw [indexFields, exists_bind_eq_ok, List.forall_mem_cons]
    simp only [rest, exists_and_right]
    refine and_congr_left fun _ => ?_
    split
    · rename_i leaf
      simp [leaf]
    · rename_i u object
      simp only [object, Option.some.injEq, forall_eq']
      simp only [exists_bind_eq_ok, Except.ok.injEq, exists_eq', and_true]
      rw [allTogether_iff]
      split
      · rename_i entered
        rw [exists_fieldsOf_bind, inner u entered, forall_prop_of_true entered]
      · rename_i absent
        simp [absent]

/-! ### The keys of a record -/

/-- The keys that some attributes write into one record, in order: their own, and those of the
attributes of what is embedded. -/
inductive RecordLevel (catalog : Catalog) (config : Config) :
    List MappedField → List String → Prop where
  | nil : RecordLevel catalog config [] []
  | single {f : MappedField} {fs : List MappedField} {ks : List String}
      (single : ∀ u, f.type ≠ .embedded u) (rest : RecordLevel catalog config fs ks) :
      RecordLevel catalog config (f :: fs) (f.key :: ks)
  | embedded {f : MappedField} {fs : List MappedField} {u : TypeRef} {inner ks : List String}
      (embeds : f.type = .embedded u)
      (below : RecordLevel catalog config (declared catalog config u) inner)
      (rest : RecordLevel catalog config fs ks) :
      RecordLevel catalog config (f :: fs) (inner ++ ks)

/-- Keys that have been collected are those of the record, behind the ones seen before. -/
theorem recordLevel_of_collectKeys (h : collectKeys catalog config fresh seen fs = .ok keys) :
    ∃ ks, RecordLevel catalog config fs ks ∧ keys = seen ++ ks ∧ (seen.Nodup → keys.Nodup) := by
  induction fresh, seen, fs using collectKeys.induct generalizing keys with
  | case1 fresh seen =>
    rw [collectKeys] at h
    cases h
    exact ⟨[], .nil, (List.append_nil _).symm, id⟩
  | case2 fresh seen f fs inner rest =>
    rw [collectKeys] at h
    obtain ⟨between, own, h⟩ := bind_eq_ok h
    obtain ⟨ks, level, rfl, distinct⟩ := rest between h
    split at own
    · rename_i u embeds
      split at own
      · rename_i entered
        obtain ⟨children, fields, own⟩ := bind_eq_ok own
        obtain ⟨rfl, -⟩ := fieldsOf_eq_ok.1 fields
        obtain ⟨ls, below, rfl, distinct'⟩ := inner u entered _ own
        exact ⟨ls ++ ks, .embedded embeds below level, List.append_assoc .., distinct ∘ distinct'⟩
      · cases own
    · rename_i single
      split at own
      · cases own
      · rename_i new
        cases own
        refine ⟨f.key :: ks, .single single level, by simp, fun nodup => distinct ?_⟩
        exact List.nodup_append.2 ⟨nodup, List.pairwise_singleton ..,
          fun k hk l hl same => new (List.mem_singleton.1 hl ▸ same ▸ hk)⟩

theorem collectKeys_single (single : ∀ u, f.type ≠ .embedded u) (new : f.key ∉ seen) :
    collectKeys catalog config fresh seen (f :: fs) =
      collectKeys catalog config fresh (seen ++ [f.key]) fs := by
  rw [collectKeys]
  split
  · rename_i u embeds
    exact absurd embeds (single u)
  · rw [if_neg new]
    rfl

theorem collectKeys_embedded (embeds : f.type = .embedded u) (entered : u ∈ fresh)
    (together : Together catalog config u)
    (below : collectKeys catalog config (fresh.erase u) seen (declared catalog config u) =
      .ok keys) :
    collectKeys catalog config fresh seen (f :: fs) =
      collectKeys catalog config fresh keys fs := by
  rw [collectKeys]
  split
  · rename_i v embeds'
    obtain rfl : u = v := FieldType.embedded.inj (embeds.symm.trans embeds')
    rw [dif_pos entered, fieldsOf_eq_ok.2 ⟨rfl, together⟩]
    exact congrArg (· >>= fun seen => collectKeys catalog config fresh seen fs) below
  · rename_i single
    exact absurd embeds (single u)

/-- Keys of a record that come once each are collected, unless a type embeds itself or does not go
together. -/
theorem collectKeys_of_recordLevel (level : RecordLevel catalog config fs ks)
    (enterable : ∀ f ∈ fs, ∀ u, f.type = .embedded u → Enterable catalog config fresh u)
    (together : ∀ f ∈ fs, ∀ u, f.type = .embedded u →
      ∀ v, ReflTransGen catalog.Embeds u v → Together catalog config v)
    (distinct : (seen ++ ks).Nodup) :
    collectKeys catalog config fresh seen fs = .ok (seen ++ ks) := by
  induction level generalizing fresh seen with
  | nil => rw [collectKeys, List.append_nil]
  | @single f fs ks single rest ih =>
    have new : f.key ∉ seen := fun old =>
      (List.nodup_append.1 distinct).2.2 _ old _ (List.mem_cons_self ..) rfl
    rw [List.append_cons] at distinct ⊢
    rw [collectKeys_single single new]
    exact ih (fun g hg => enterable g (List.mem_cons_of_mem _ hg))
      (fun g hg => together g (List.mem_cons_of_mem _ hg)) distinct
  | @embedded f fs u inner ks embeds below rest ih_below ih_rest =>
    rw [← List.append_assoc] at distinct ⊢
    have there := together f (List.mem_cons_self ..) u embeds
    obtain ⟨entered, inside⟩ := enterable f (List.mem_cons_self ..) u embeds
    have collected := ih_below inside (fun g hg v hv w way =>
      there w (.head (embeds_iff.2 ⟨g, hg, hv⟩) way)) (List.nodup_append.1 distinct).1
    rw [collectKeys_embedded embeds entered (there u .refl) collected]
    exact ih_rest (fun g hg => enterable g (List.mem_cons_of_mem _ hg))
      (fun g hg => together g (List.mem_cons_of_mem _ hg)) distinct

/-! ### Cycles -/

/-- A type can be entered if what it embeds stays among the types that may be entered and never
leads back. -/
theorem enterable_of_acyclic (inside : ∀ v, ReflTransGen catalog.Embeds t v → v ∈ fresh)
    (acyclic : ∀ v, ReflTransGen catalog.Embeds t v → ¬ TransGen catalog.Embeds v v) :
    Enterable catalog config fresh t := by
  generalize size : fresh.length = n
  induction n generalizing fresh t with
  | zero =>
    have mem := inside t .refl
    rw [List.length_eq_zero_iff.1 size] at mem
    cases mem
  | succ n ih =>
    have mem := inside t .refl
    refine .intro mem fun f hf u embeds => ih (fun v way => ?_) (fun v way => ?_) ?_
    · have step : catalog.Embeds t u := embeds_iff.2 ⟨f, hf, embeds⟩
      have apart : v ≠ t := by
        rintro rfl
        exact acyclic v .refl (.head' step way)
      exact (List.mem_erase_of_ne apart).2 (inside v (.head step way))
    · exact acyclic v (.head (embeds_iff.2 ⟨f, hf, embeds⟩) way)
    · rw [List.length_erase_of_mem mem, size]
      rfl

/-! ### Accepted declarations -/

theorem exists_checkConstructible_iff {d : Descriptor} :
    (∃ x, checkConstructible d = .ok x) ↔
      d.suppliesInstances ∨ d.constructor.isSome ∨ d.isPolymorphic := by
  unfold checkConstructible
  split <;> simp_all [or_assoc]

theorem exists_checkVariants_iff {d : Descriptor} :
    (∃ x, checkVariants d = .ok x) ↔ (d.variants ≠ [] → d.isPolymorphic) := by
  unfold checkVariants
  split <;> simp_all [or_iff_not_imp_left]

theorem exists_nameAndBinding_iff {d : Descriptor} :
    (∃ x, nameAndBinding catalog config d = .ok x) ↔
      ∀ i, d.inheritance = some i → (catalog.describe i.parent).isPolymorphic := by
  unfold nameAndBinding
  split
  · rename_i own
    simp [own]
  · rename_i i inherits
    simp only [inherits, Option.some.injEq, forall_eq', Descriptor.isPolymorphic, bindVariant]
    split
    · rename_i concrete
      simp [concrete, Except.map]
    · rename_i declared polymorphic
      simp [polymorphic, Except.map]

/-- The checks of a declaration, one after the other. -/
theorem exists_build_iff :
    (∃ m, build catalog config t = .ok m) ↔ Together catalog config t ∧
      (∃ ks, recordKeys catalog config t (declared catalog config t) = .ok ks) ∧
      (∃ x, checkConstructible (catalog.describe t) = .ok x) ∧
      (∃ x, checkVariants (catalog.describe t) = .ok x) ∧
      (∃ p, nameAndBinding catalog config (catalog.describe t) = .ok p) ∧
      ∃ paths, pathIndex catalog config t (declared catalog config t) = .ok paths := by
  unfold build
  simp only [exists_fieldsOf_bind, exists_bind_eq_ok, exists_and_right, Except.ok.injEq,
    exists_eq', and_true]

/-- What a declaration needs to be accepted. -/
structure Acceptable (catalog : Catalog) (config : Config) (t : TypeRef) : Prop where
  /-- The type and every type inside it have at most one id and no name and no key twice. -/
  together : ∀ u, ReflTransGen catalog.Contains t u → Together catalog config u
  /-- The type does not embed itself, and embeds no type that does. -/
  acyclic : ∀ u, ReflTransGen catalog.Embeds t u → ¬ TransGen catalog.Embeds u u
  /-- The record of the type has no key twice. -/
  level : ∃ ks, RecordLevel catalog config (declared catalog config t) ks ∧ ks.Nodup
  /-- There is a way to get instances. -/
  constructible : (catalog.describe t).suppliesInstances ∨ (catalog.describe t).constructor.isSome ∨
    (catalog.describe t).isPolymorphic
  variants : (catalog.describe t).variants ≠ [] → (catalog.describe t).isPolymorphic
  parent : ∀ i, (catalog.describe t).inheritance = some i →
    (catalog.describe i.parent).isPolymorphic

theorem mem_types_of_constructible (h : (catalog.describe t).suppliesInstances ∨
    (catalog.describe t).constructor.isSome ∨ (catalog.describe t).isPolymorphic) :
    t ∈ catalog.types := by
  refine Classical.byContradiction fun absent => ?_
  rw [Catalog.describe_of_undeclared absent] at h
  simp [Descriptor.isPolymorphic] at h

section Closed

variable (objects : ∀ t ∈ catalog.types, ∀ f ∈ (catalog.describe t).fields,
  ∀ u, f.type.element? = some u → u ∈ catalog.types)

include objects

theorem mem_types_of_contains (h : catalog.Contains t u) : u ∈ catalog.types := by
  obtain ⟨f, mem, object⟩ := h
  by_cases declared : t ∈ catalog.types
  · exact objects t declared f mem u object
  · exact absurd ⟨f, mem, object⟩ (Catalog.not_contains_of_undeclared declared)

/-- The attributes of everything inside a type go together if those of the type do and its paths
can be indexed. -/
theorem together_iff :
    (∀ u, ReflTransGen catalog.Contains t u → Together catalog config u) ↔
      Together catalog config t ∧
        ∃ paths, pathIndex catalog config t (declared catalog config t) = .ok paths := by
  have everywhere : catalog.Within catalog.types = catalog.Contains := by
    funext x y
    exact propext ⟨And.left, fun h => ⟨h, mem_types_of_contains objects h⟩⟩
  rw [pathIndex, exists_indexFields_iff, ← everywhere, forall_below_iff, forall_within_iff]

/-- The type can be entered if nothing that it embeds leads back to itself. -/
theorem acyclic_iff (config : Config) (mem : t ∈ catalog.types) :
    (∀ u, ReflTransGen catalog.Embeds t u → ¬ TransGen catalog.Embeds u u) ↔
      Enterable catalog config catalog.types t := by
  constructor
  · intro acyclic
    refine enterable_of_acyclic (fun u way => ?_) acyclic
    cases way with
    | refl => exact mem
    | tail _ step => exact mem_types_of_contains objects step.contains
  · intro enterable u way
    exact not_transGen_self_of_acc (acc_of_reflTransGen (Catalog.acc_embeds enterable) way)

/-- The keys of a record are collected if they come once each, nothing that is embedded leads back
to itself, and the attributes of everything inside go together. -/
theorem exists_recordKeys_iff (mem : t ∈ catalog.types)
    (together : ∀ u, ReflTransGen catalog.Contains t u → Together catalog config u) :
    (∃ ks, recordKeys catalog config t (declared catalog config t) = .ok ks) ↔
      (∀ u, ReflTransGen catalog.Embeds t u → ¬ TransGen catalog.Embeds u u) ∧
        ∃ ks, RecordLevel catalog config (declared catalog config t) ks ∧ ks.Nodup := by
  rw [acyclic_iff objects config mem]
  constructor
  · rintro ⟨ks, collected⟩
    obtain ⟨ls, level, rfl, distinct⟩ := recordLevel_of_collectKeys collected
    exact ⟨.intro mem (collected_of_collectKeys collected).enterable,
      ks, level, distinct List.nodup_nil⟩
  · rintro ⟨⟨-, enterable⟩, ks, level, distinct⟩
    refine ⟨_, collectKeys_of_recordLevel level enterable (fun f hf u embeds v way => ?_) distinct⟩
    refine together v (.head (embeds_iff.2 ⟨f, hf, embeds⟩).contains ?_)
    exact ReflTransGen.mono (fun _ _ => Catalog.Embeds.contains) _ _ way

/-- A declaration is accepted exactly if it is acceptable, in any closed catalog; one that is
refused is an error of the configuration. -/
theorem accepted_iff_acceptable (t : TypeRef) :
    ((∃ m, build catalog config t = .ok m) ↔ Acceptable catalog config t) ∧
      ∀ e, build catalog config t = .error e → e.kind = .configuration := by
  refine ⟨?_, blames_build catalog config t⟩
  rw [exists_build_iff, exists_checkConstructible_iff, exists_checkVariants_iff,
    exists_nameAndBinding_iff]
  constructor
  · rintro ⟨together, keys, constructible, variants, parent, paths⟩
    have mem := mem_types_of_constructible constructible
    have all := (together_iff objects).2 ⟨together, paths⟩
    obtain ⟨acyclic, level⟩ := (exists_recordKeys_iff objects mem all).1 keys
    exact { together := all, acyclic, level, constructible, variants, parent }
  · intro h
    have mem := mem_types_of_constructible h.constructible
    obtain ⟨together, paths⟩ := (together_iff objects).1 h.together
    have keys := (exists_recordKeys_iff objects mem h.together).2 ⟨h.acyclic, h.level⟩
    exact ⟨together, keys, h.constructible, h.variants, h.parent, paths⟩

end Closed

/-! ### Families -/

namespace Families

def person : TypeRef := ⟨0, "Person"⟩

def home : TypeRef := ⟨1, "Home"⟩

def nest : TypeRef := ⟨2, "Nest"⟩

/-- Persons have a home and children, a home has a keeper, and a nest lies in a nest. -/
def families : Catalog where
  valueName := "Value"
  descriptors := [
    { name := "Person", type := person, suppliesInstances := true
      fields := [⟨.of "name", .plain .string ""⟩, ⟨.of "home", .embedded home⟩,
        ⟨.of "children", .embeddables person⟩] },
    { name := "Home", type := home, suppliesInstances := true
      fields := [⟨.of "street", .plain .string ""⟩, ⟨.of "keeper", .entity person⟩] },
    { name := "Nest", type := nest, suppliesInstances := true
      fields := [⟨.of "outer", .embedded nest⟩] }]

theorem objects : ∀ t ∈ families.types, ∀ f ∈ (families.describe t).fields,
    ∀ u, f.type.element? = some u → u ∈ families.types := by
  decide

end Families

open Families in
/-- Objects may come back to their type, but not in one record. -/
theorem accepted_iff_acceptable_person :
    (∀ t ∈ families.types, ∀ f ∈ (families.describe t).fields,
        ∀ u, f.type.element? = some u → u ∈ families.types) ∧
      Acceptable families {} person ∧ ¬ Acceptable families {} nest := by
  have accepted : (build families {} person).isOk = true := by cbv
  have refused : (build families {} nest).isOk = false := by cbv
  refine ⟨objects, (accepted_iff_acceptable objects person).1.1 ?_, fun h => ?_⟩
  · cases built : build families {} person with
    | ok m => exact ⟨m, rfl⟩
    | error e =>
      rw [built] at accepted
      cases accepted
  · obtain ⟨m, built⟩ := (accepted_iff_acceptable objects nest).1.2 h
    rw [built] at refused
    cases refused

end Schema

end EntityMapping
