import EntityMapping.Proofs.Conversion.Parts
import Mathlib.Data.List.Pairwise

/-!
Keys that come once. Accepting a type compares the native keys of its attributes with each other,
and with nothing else: neither with the discriminator of the type itself, nor with that of a variant
that it embeds, nor with what the variant writes that an embedded polymorphic object holds. So a key
comes twice in what is written for an instance exactly if one of these is written beside something
else of the same key, there or in an object further down; and then the record has only the last of
the values.
-/

namespace EntityMapping

open Effect Environment Registry Schema

variable {env : Environment}

/-- An attribute of an instance holds an object, alone or in a list. -/
def HoldsObject (i : Instance) (f : MappedField) (o : Instance) : Prop :=
  i.read f = .ok (.object o) ∨ ∃ os, i.read f = .ok (.objects os) ∧ o ∈ os

/-- For an instance or for an object in it a key is written twice on one level of a record. -/
inductive Clash (env : Environment) : TypeRef → Instance → Prop where
  /-- By an attribute that writes it unchecked, and by another one. -/
  | attributes {t v : TypeRef} {i j : Instance} {f g : MappedField} {k : String}
      (written : WrittenAs env t i v j) (mem : f ∈ declared env.catalog env.config v)
      (mem' : g ∈ declared env.catalog env.config v) (other : g ≠ f)
      (unchecked : Unchecked env j f k) (writes : Writes env j f k) (writes' : Writes env j g k) :
      Clash env t i
  /-- By an attribute, and by the variant that has the attribute, as its discriminator. -/
  | mark {t v : TypeRef} {i j : Instance} {f : MappedField} {b : VariantBinding}
      (written : WrittenAs env t i v j)
      (bound : declaredBinding env.catalog env.config v = some b)
      (mem : f ∈ declared env.catalog env.config v) (writes : Writes env j f b.column) :
      Clash env t i
  /-- Further down, for an object of an attribute. -/
  | inner {t u v : TypeRef} {i j o : Instance} {f : MappedField} (written : WrittenAs env t i v j)
      (mem : f ∈ declared env.catalog env.config v) (element : f.type.element? = some u)
      (holds : HoldsObject j f o) (below : Clash env u o) : Clash env t i

/-- A record in what is written for an instance: the whole, and those in what is written for an
object of it, which stands in the record of its owner or in one of its own. -/
inductive RecordIn (env : Environment) : TypeRef → Instance → Elements → Elements → Prop where
  | whole {t : TypeRef} {i : Instance} {es : Elements} : RecordIn env t i es es
  | embedded {t u v : TypeRef} {i j o : Instance} {f : MappedField} {es inner : Elements}
      (written : WrittenAs env t i v j) (mem : f ∈ declared env.catalog env.config v)
      (embeds : f.type = .embedded u) (read : j.read f = .ok (.object o))
      (below : RecordIn env u o es inner) : RecordIn env t i es inner
  | entity {t u v : TypeRef} {i j o : Instance} {f : MappedField} {es nested inner : Elements}
      (written : WrittenAs env t i v j) (mem : f ∈ declared env.catalog env.config v)
      (nests : f.type = .entity u) (read : j.read f = .ok (.object o))
      (there : (f.key, .record nested) ∈ es) (below : RecordIn env u o nested inner) :
      RecordIn env t i es inner
  | item {t u v : TypeRef} {i j o : Instance} {f : MappedField} {es nested inner : Elements}
      {os : List Instance} {records : List Value} (written : WrittenAs env t i v j)
      (mem : f ∈ declared env.catalog env.config v) (lists : f.type = .embeddables u)
      (read : j.read f = .ok (.objects os)) (there : (f.key, .list records) ∈ es)
      (place : (o, .record nested) ∈ os.zip records) (below : RecordIn env u o nested inner) :
      RecordIn env t i es inner

variable {i j o : Instance} {t u v : TypeRef} {f g : MappedField} {es own inner : Elements}

theorem Gives.exists_part (h : Gives env (env.elements i t) own) (sub : own.Sublist es)
    (written : WrittenAs env t i v j) (mem : f ∈ declared env.catalog env.config v) :
    ∃ part, Gives env (env.ownElements j f) part ∧ part.Sublist es := by
  obtain ⟨v', j', n, fields, as, built, given, rfl⟩ := h.elements_inv
  obtain ⟨rfl, rfl⟩ := written.unique as
  obtain ⟨part, given, sub'⟩ := given.exists_own mem
  exact ⟨part, given, (sub'.trans (List.sublist_append_left ..)).trans sub⟩

/-! ### A key that comes twice -/

theorem Gives.not_writes_both {fs : List MappedField} {k : String}
    (h : Gives env (env.fieldElements i fs) es) (nodup : es.keys.Nodup) (mem : f ∈ fs)
    (mem' : g ∈ fs) (other : g ≠ f) (writes : Writes env i f k) : ¬ Writes env i g k := by
  have : Std.Symm fun f g => ∀ k, Writes env i f k → ¬ Writes env i g k :=
    ⟨fun f g apart k hg hf => apart k hf hg⟩
  exact (h.nodup_keys_fields.1 nodup).2.forall mem mem' other.symm k writes

/-- Where there is a clash, a record has a key twice. -/
theorem Clash.exists_repeated (h : Clash env t i) (given : Gives env (env.elements i t) own)
    (sub : own.Sublist es) : ∃ inner, RecordIn env t i es inner ∧ ¬ inner.keys.Nodup := by
  induction h generalizing own es with
  | @attributes t v i j f g k written mem mem' other unchecked writes writes' =>
    obtain ⟨v', j', n, fields, as, built, given, rfl⟩ := given.elements_inv
    obtain ⟨rfl, rfl⟩ := written.unique as
    refine ⟨es, .whole, fun nodup => ?_⟩
    have once : fields.keys.Nodup :=
      nodup.sublist (((List.sublist_append_left ..).trans sub).map _)
    exact given.not_writes_both once mem mem' other writes writes'
  | @mark t v i j f b written bound mem writes =>
    obtain ⟨v', j', n, fields, as, built, given, rfl⟩ := given.elements_inv
    obtain ⟨rfl, rfl⟩ := written.unique as
    refine ⟨es, .whole, fun nodup => ?_⟩
    have once : (Keyed.keys (fields ++ n.marks)).Nodup := nodup.sublist (sub.map _)
    have field : b.column ∈ fields.keys := given.mem_keys_fields.2 ⟨f, mem, writes⟩
    have marked : b.column ∈ n.marks.keys := by
      rw [built.marks_eq, bound]
      exact List.mem_singleton_self _
    rw [Keyed.keys_append, List.nodup_append] at once
    exact once.2.2 _ field _ marked rfl
  | @inner t u v i j o f written mem element holds below ih =>
    obtain ⟨part, given, sub⟩ := given.exists_part sub written mem
    rcases holds with read | ⟨os, read, place⟩
    · obtain ⟨u', nested, given, ⟨embeds, rfl⟩ | ⟨nests, rfl⟩⟩ := given.own_of_object read
      · rw [embeds] at element
        cases element
        obtain ⟨inner, record, repeated⟩ := ih given sub
        exact ⟨inner, .embedded written mem embeds read record, repeated⟩
      · rw [nests] at element
        cases element
        obtain ⟨inner, record, repeated⟩ := ih given (.refl _)
        have there := sub.subset (List.mem_singleton_self _)
        exact ⟨inner, .entity written mem nests read there record, repeated⟩
    · obtain ⟨u', records, given, lists, rfl⟩ := given.own_of_objects read
      rw [lists] at element
      cases element
      obtain ⟨nested, given, place⟩ := given.exists_record place
      obtain ⟨inner, record, repeated⟩ := ih given (.refl _)
      have there := sub.subset (List.mem_singleton_self _)
      exact ⟨inner, .item written mem lists read there place record, repeated⟩

/-! ### Keys that come once -/

theorem WrittenAs.sizeOf_le (h : WrittenAs env t i v j) : sizeOf j ≤ sizeOf i := by
  rw [WrittenAs] at h
  split at h
  · exact Nat.le_of_lt (Instance.sizeOf_held h.1)
  · exact Nat.le_of_eq (congrArg sizeOf h.2)

theorem Writes.fieldKey {k : String} (h : Writes env i f k) : FieldKey env i f k := by
  obtain ⟨own, given, mem⟩ := writes_iff.1 h
  exact (given.of_yields (yields_ownElements i f)).2 k mem

/-- Without a clash no two attributes write a key: their native keys were compared. -/
theorem pairwise_writes {m : Metadata} (clear : ¬ Clash env t i) (written : WrittenAs env t i v j)
    (built : Built env.catalog env.config v m) :
    (declared env.catalog env.config v).Pairwise fun f g =>
      ∀ k, Writes env j f k → ¬ Writes env j g k := by
  have distinct := built.pairwise_ne
  rw [built.fields] at distinct
  refine distinct.imp_of_mem fun {f g} mem mem' other k writes writes' => ?_
  rcases writes.fieldKey with native | unchecked
  · rcases writes'.fieldKey with native' | unchecked
    · exact built.not_nativeKey mem mem' other.symm native native'
    · exact clear (.attributes written mem' mem other unchecked writes' writes)
  · exact clear (.attributes written mem mem' other.symm unchecked writes writes')

/-- Without a clash every key of an instance comes once. -/
theorem nodup_of_not_clash (clear : ¬ Clash env t i) (given : Gives env (env.elements i t) es) :
    es.keys.Nodup := by
  induction size : sizeOf i using Nat.strongRecOn generalizing i t es with
  | _ size ih =>
  subst size
  obtain ⟨v, j, n, fields, written, built, parts, rfl⟩ := given.elements_inv
  have once : fields.keys.Nodup := by
    refine parts.nodup_keys_fields.2 ⟨fun f mem own part => ?_, pairwise_writes clear written built⟩
    refine part.nodup_own fun u o embeds read es below => ?_
    have element : f.type.element? = some u := by rw [embeds]; rfl
    have inner : ¬ Clash env u o := fun h => clear (.inner written mem element (.inl read) h)
    have smaller : sizeOf o < sizeOf i :=
      Nat.lt_of_lt_of_le (Instance.weight_read read) written.sizeOf_le
    exact ih _ smaller inner below rfl
  refine Keyed.nodup_keys_append once ?_ fun k field marked => ?_
  · rw [built.marks_eq]
    cases declaredBinding env.catalog env.config v with
    | none => exact .nil
    | some b => exact List.pairwise_singleton _ _
  · obtain ⟨b, bound, rfl⟩ := built.mem_keys_marks marked
    obtain ⟨f, mem, writes⟩ := parts.mem_keys_fields.1 field
    exact clear (.mark written bound mem writes)

/-- Without a clash every key comes once in every record of what is written. -/
theorem RecordIn.nodup (h : RecordIn env t i es inner) (clear : ¬ Clash env t i)
    (given : Gives env (env.elements i t) own) (sub : own.Sublist es) (nodup : es.keys.Nodup) :
    inner.keys.Nodup := by
  induction h generalizing own with
  | whole => exact nodup
  | @embedded t u v i j o f es inner written mem embeds read below ih =>
    have element : f.type.element? = some u := by rw [embeds]; rfl
    obtain ⟨part, given, sub⟩ := given.exists_part sub written mem
    obtain ⟨u', es', given, ⟨embeds', rfl⟩ | ⟨nests, -⟩⟩ := given.own_of_object read
    · cases embeds.symm.trans embeds'
      exact ih (fun h => clear (.inner written mem element (.inl read) h)) given sub nodup
    · cases embeds.symm.trans nests
  | @entity t u v i j o f es nested inner written mem nests read there below ih =>
    have element : f.type.element? = some u := by rw [nests]; rfl
    have clear' : ¬ Clash env u o := fun h => clear (.inner written mem element (.inl read) h)
    obtain ⟨part, given, sub⟩ := given.exists_part sub written mem
    obtain ⟨u', es', given, ⟨embeds, -⟩ | ⟨nests', rfl⟩⟩ := given.own_of_object read
    · cases embeds.symm.trans nests
    · cases nests.symm.trans nests'
      cases Keyed.eq_of_mem nodup there (sub.subset (List.mem_singleton_self _))
      exact ih clear' given (.refl _) (nodup_of_not_clash clear' given)
  | @item t u v i j o f es nested inner os records written mem lists read there place below ih =>
    have element : f.type.element? = some u := by rw [lists]; rfl
    have holds : HoldsObject j f o := .inr ⟨os, read, (List.of_mem_zip place).1⟩
    have clear' : ¬ Clash env u o := fun h => clear (.inner written mem element holds h)
    obtain ⟨part, given, sub⟩ := given.exists_part sub written mem
    obtain ⟨u', records', given, lists', rfl⟩ := given.own_of_objects read
    cases lists.symm.trans lists'
    cases Keyed.eq_of_mem nodup there (sub.subset (List.mem_singleton_self _))
    have given := given.of_mem_zip place
    exact ih clear' given (.refl _) (nodup_of_not_clash clear' given)

/-- In what is written for an instance, and in every record of an object in it, each key comes once,
so that a record of the elements replaces none of them, exactly if there is no clash. -/
theorem keys_distinct_iff_not_clash (env : Environment) (c : Context) (used : Mapping.Used env c)
    (t : TypeRef) (i : Instance) (es : Elements) (s : Registry)
    (written : (env.elements i t).run c.registry = (.ok es, s)) :
    (∀ inner, RecordIn env t i es inner →
      inner.keys.Nodup ∧ ∀ name, (Record.ofElements name inner).elements = inner) ↔
      ¬ Clash env t i := by
  have given : Gives env (env.elements i t) es := ⟨c.registry, s, used.2.consistent, written⟩
  constructor
  · intro distinct clash
    obtain ⟨inner, record, repeated⟩ := clash.exists_repeated given (.refl _)
    exact repeated (distinct inner record).1
  · intro clear inner record
    have nodup := record.nodup clear given (.refl _) (nodup_of_not_clash clear given)
    exact ⟨nodup, fun name => Record.elements_ofElements_iff.2 nodup⟩

/-! ### Vehicles -/

namespace Depot

def vehicle : TypeRef := ⟨0, "Vehicle"⟩

def car : TypeRef := ⟨1, "Car"⟩

def van : TypeRef := ⟨2, "Van"⟩

/-- Vehicles are cars or vans, told apart by their kind; and cars have a kind of their own. -/
def environment : Environment where
  catalog := {
    valueName := "Value"
    descriptors := [
      { name := "Vehicle", type := vehicle, polymorphism := some (some "kind")
        variants := [car, van] },
      { name := "Car", type := car, suppliesInstances := true, inheritance := some ⟨vehicle, "car"⟩
        fields := [⟨.of "kind", .plain .string ""⟩] },
      { name := "Van", type := van, suppliesInstances := true, inheritance := some ⟨vehicle, "van"⟩
        fields := [⟨.of "load", .plain .string ""⟩] }] }
  config := {}

def context : Context := { environment, registry := ((environment.load vehicle).run {}).2 }

theorem used_context : Mapping.Used environment context := ⟨rfl, .load .empty vehicle⟩

def urgent : Instance := .mk car [("kind", .plain .string "urgent")] none

def loaded : Instance := .mk van [("load", .plain .string "sand")] none

def ofUrgent : Elements := [("kind", .text "urgent"), ("kind", .text "car")]

def ofLoaded : Elements := [("load", .text "sand"), ("kind", .text "van")]

theorem run_elements_urgent : ∃ s, (environment.elements urgent car).run context.registry =
    (.ok ofUrgent, s) := by
  have answer : ((environment.elements urgent car).run context.registry).1 = .ok ofUrgent := by cbv
  exact ⟨_, Prod.ext answer rfl⟩

theorem run_elements_loaded : ∃ s, (environment.elements loaded van).run context.registry =
    (.ok ofLoaded, s) := by
  have answer : ((environment.elements loaded van).run context.registry).1 = .ok ofLoaded := by cbv
  exact ⟨_, Prod.ext answer rfl⟩

/-- Vans have a value only, so there is one record. -/
theorem recordIn_loaded {es inner : Elements} (h : RecordIn environment van loaded es inner) :
    inner = es := by
  have plain : ∀ {v : TypeRef} {j : Instance} {f : MappedField},
      WrittenAs environment van loaded v j →
      f ∈ declared environment.catalog environment.config v → f.type.element? = none := by
    intro v j f written mem
    rw [written.1, show declared environment.catalog environment.config van =
      [⟨"load", "load", false, .plain .string "", van⟩] by cbv] at mem
    rw [List.mem_singleton.1 mem]
    rfl
  cases h with
  | whole => rfl
  | embedded written mem embeds => cases (embeds ▸ plain written mem)
  | entity written mem nests => cases (nests ▸ plain written mem)
  | item written mem lists => cases (lists ▸ plain written mem)

end Depot

open Depot in
theorem keys_distinct_iff_not_clash_van :
    ∃ s, Mapping.Used environment context ∧
      (environment.elements loaded van).run context.registry = (.ok ofLoaded, s) ∧
      ¬ Clash environment van loaded := by
  obtain ⟨s, run⟩ := run_elements_loaded
  refine ⟨s, used_context, run, (keys_distinct_iff_not_clash environment context used_context van
    loaded ofLoaded s run).1 fun inner record => ?_⟩
  rw [recordIn_loaded record]
  have nodup : ofLoaded.keys.Nodup := by decide
  exact ⟨nodup, Record.elements_ofElements nodup⟩

open Depot in
/-- The kind of a car is written beside the discriminator of cars, and is lost. -/
theorem discriminator_repeats_kind :
    ∃ m s, Mapping.Used environment context ∧ context.registry.find? car = some m ∧
      Conforms environment (fun _ => True) car urgent ∧
      (environment.elements urgent car).run context.registry = (.ok ofUrgent, s) ∧
      RecordIn environment car urgent ofUrgent ofUrgent ∧ ¬ ofUrgent.keys.Nodup ∧
      (Record.ofElements m.name ofUrgent).elements = [("kind", .text "car")] := by
  have known : (context.registry.find? car).isSome = true := by cbv
  obtain ⟨m, found⟩ := Option.isSome_iff_exists.1 known
  obtain ⟨s, run⟩ := run_elements_urgent
  exact ⟨m, s, used_context, found, .concrete rfl (.cons (.plain _) .nil), run, .whole, by decide,
    rfl⟩

end EntityMapping
