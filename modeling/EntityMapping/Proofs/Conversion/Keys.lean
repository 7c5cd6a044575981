import EntityMapping.Proofs.Conversion.Steps
import EntityMapping.Proofs.Registry.Loading
import EntityMapping.Proofs.Schema.Level

/-!
The keys that an instance writes. Beside the native keys of its attributes there are others in its
record, which accepting its type has not compared with them: the discriminators of variants that
are embedded, and whatever the variant writes that an embedded polymorphic object holds.
-/

namespace EntityMapping

open Effect Environment Registry Schema

variable {env : Environment}

/-- For an instance `i`, taken as one of type `t`, the instance `j` is written as one of type `v`:
the instance itself, or the one of a variant that it holds. -/
def WrittenAs (env : Environment) (t : TypeRef) (i : Instance) (v : TypeRef) (j : Instance) :
    Prop :=
  if (env.catalog.describe t).isPolymorphic then i.held = some j ∧ v = j.type else v = t ∧ j = i

/-- An attribute of an instance may write a key that was not compared with the native keys of the
other attributes. -/
inductive Unchecked (env : Environment) : Instance → MappedField → String → Prop where
  /-- The discriminator of an embedded variant. -/
  | mark {i o j : Instance} {f : MappedField} {u v : TypeRef} {b : VariantBinding}
      (embeds : f.type = .embedded u) (read : i.read f = .ok (.object o))
      (written : WrittenAs env u o v j)
      (bound : declaredBinding env.catalog env.config v = some b) : Unchecked env i f b.column
  /-- A native key of the variant that an embedded polymorphic object holds. -/
  | native {i o j : Instance} {f g : MappedField} {u v : TypeRef} {k : String}
      (embeds : f.type = .embedded u) (read : i.read f = .ok (.object o))
      (polymorphic : (env.catalog.describe u).isPolymorphic = true)
      (written : WrittenAs env u o v j) (mem : g ∈ declared env.catalog env.config v)
      (below : NativeKey env.catalog env.config g k) : Unchecked env i f k
  /-- Such a key of an embedded object. -/
  | inner {i o j : Instance} {f g : MappedField} {u v : TypeRef} {k : String}
      (embeds : f.type = .embedded u) (read : i.read f = .ok (.object o))
      (written : WrittenAs env u o v j) (mem : g ∈ declared env.catalog env.config v)
      (below : Unchecked env j g k) : Unchecked env i f k

/-- A key that an attribute of an instance may write. -/
def FieldKey (env : Environment) (i : Instance) (f : MappedField) (k : String) : Prop :=
  NativeKey env.catalog env.config f k ∨ Unchecked env i f k

/-- A key that an instance may write, taken as one of a type. -/
def RecordKey (env : Environment) (t : TypeRef) (i : Instance) (k : String) : Prop :=
  (∃ f ∈ declared env.catalog env.config t, FieldKey env i f k) ∨
    ∃ b, declaredBinding env.catalog env.config t = some b ∧ b.column = k

/-- What an embedded object writes is written by the attribute that embeds it. -/
theorem RecordKey.fieldKey {i o j : Instance} {f : MappedField} {u v : TypeRef} {k : String}
    (h : RecordKey env v j k) (embeds : f.type = .embedded u) (read : i.read f = .ok (.object o))
    (written : WrittenAs env u o v j) : FieldKey env i f k := by
  rcases h with ⟨g, mem, native | unchecked⟩ | ⟨b, bound, rfl⟩
  · cases polymorphic : (env.catalog.describe u).isPolymorphic with
    | true => exact .inr (.native embeds read polymorphic written mem native)
    | false =>
      have single := written
      rw [WrittenAs, polymorphic] at single
      obtain ⟨rfl, rfl⟩ := single
      exact .inl (.inner embeds mem native)
  · exact .inr (.inner embeds read written mem unchecked)
  · exact .inr (.mark embeds read written bound)

theorem WrittenAs.unique {t u v : TypeRef} {i j k : Instance} (h : WrittenAs env t i u j)
    (h' : WrittenAs env t i v k) : u = v ∧ j = k := by
  rw [WrittenAs] at h h'
  split at h
  · rename_i polymorphic
    rw [if_pos polymorphic] at h'
    have same : j = k := Option.some.inj (h.1.symm.trans h'.1)
    exact ⟨h.2.trans (same ▸ h'.2.symm), same⟩
  · rename_i single
    rw [if_neg single] at h'
    exact ⟨h.1.trans h'.1.symm, h.2.trans h'.2.symm⟩

/-! ### Metadata -/

theorem Registry.Consistent.build_find? {r : Registry} {t : TypeRef} {m : Metadata}
    (h : Consistent env r) (found : r.find? t = some m) :
    Schema.build env.catalog env.config t = .ok m := by
  obtain ⟨mem, rfl⟩ := find?_of_some found
  exact h.built m mem

theorem yields_load (t : TypeRef) : Yields (Consistent env) (env.load t) fun m =>
    Schema.build env.catalog env.config t = .ok m := by
  intro r m s consistent run
  obtain ⟨grown, found⟩ := consistent.grown_load run
  exact ⟨grown.consistent.build_find? (found m rfl), grown.consistent⟩

/-- An instance is written by the metadata of the type that it is written as. -/
theorem yields_concreteMetadata {I : Registry → Prop} (consistent : ∀ r, I r → Consistent env r)
    {t : TypeRef} {m : Metadata} {i j : Instance}
    (build : Schema.build env.catalog env.config t = .ok m) (h : concrete m i = .ok j) :
    Yields I (concreteMetadata m j) fun n =>
      ∃ v, WrittenAs env t i v j ∧ Schema.build env.catalog env.config v = .ok n := by
  have polymorphic := (built_of_build build).isPolymorphic
  unfold concrete at h
  unfold concreteMetadata
  cases hp : m.isPolymorphic with
  | true =>
    rw [hp] at h polymorphic
    split at h
    · split at h
      · split at h
        · rename_i held
          cases h
          refine (yields_ask _).imp ?_
          rintro n ⟨r, hr, known⟩
          refine ⟨j.type, ?_, (consistent r hr).build_find? (known_eq_ok.1 known)⟩
          rw [WrittenAs, ← polymorphic, if_pos rfl]
          exact ⟨held, rfl⟩
        · cases h
      · cases h
    · rename_i none
      exact absurd rfl none
  | false =>
    rw [hp] at h polymorphic
    cases h
    refine .pure ⟨t, ?_, build⟩
    rw [WrittenAs, ← polymorphic]
    exact ⟨rfl, rfl⟩

/-! ### Writing -/

/-- What an attribute writes unless it embeds an object is one element under its key. -/
theorem keys_leafElements {f : MappedField} {c : Content} {es : Elements}
    (h : env.leafElements f c = .ok es) :
    f.kind ≠ .embedded ∧ ∃ v, es = [(f.key, v)] := by
  unfold leafElements at h
  split at h
  case h_1 | h_2 | h_3 =>
    rename_i kind
    split at h
    · cases h
    · obtain ⟨k, -, h⟩ := bind_eq_ok h
      obtain ⟨v, -, h⟩ := bind_eq_ok h
      cases h
      exact ⟨by rw [kind]; nofun, v, rfl⟩
  case h_4 | h_5 | h_6 =>
    rename_i kind
    cases h
    exact ⟨by rw [kind]; nofun, _, rfl⟩
  · cases h

theorem fieldKey_single {i : Instance} {f : MappedField} {k : String} {v : Value}
    (kind : f.kind ≠ .embedded) (h : k ∈ Keyed.keys [(f.key, v)]) : FieldKey env i f k := by
  rw [List.mem_singleton.1 h]
  exact .inl (.own fun u embeds => kind (kind_eq_embedded.2 ⟨u, embeds⟩))

/-- Whatever is written stands under keys that the attributes of the instance may write. -/
theorem yields_keys :
    (∀ i t, Yields (Consistent env) (env.elements i t) fun es =>
      ∃ v j, WrittenAs env t i v j ∧ ∀ k ∈ es.keys, RecordKey env v j k) ∧
    (∀ i m, ∀ t, Schema.build env.catalog env.config t = .ok m →
      Yields (Consistent env) (env.elementsWith i m) fun p =>
        ∃ v j, WrittenAs env t i v j ∧ ∀ k ∈ Keyed.keys p.1, RecordKey env v j k) ∧
    (∀ i fs, Yields (Consistent env) (env.fieldElements i fs) fun es =>
      ∀ k ∈ es.keys, ∃ f ∈ fs, FieldKey env i f k) ∧
    (∀ f c, ∀ i : Instance, i.read f = .ok c →
      Yields (Consistent env) (env.contentElements f c) fun es =>
        ∀ k ∈ es.keys, FieldKey env i f k) ∧
    (∀ t os, Yields (Consistent env) (env.objectRecords t os) fun _ => True) := by
  refine elements.mutual_induct _ _ _ _ _ ?_ ?_ ?_ ?_ ?_ ?_ ?_ ?_ ?_ ?_ ?_
  · intro i t written
    rw [elements]
    exact (yields_load t).bind fun m build => (written m t build).bind fun p h => .pure h
  · intro i m e h t build
    rw [elementsWith_of_error h]
    exact .throw e
  · intro i m j h fields t build
    rw [elementsWith_of_ok h]
    refine (yields_concreteMetadata (fun _ consistent => consistent) build h).bind fun n hn => ?_
    obtain ⟨v, written, build'⟩ := hn
    have built := built_of_build build'
    refine (fields n).bind fun es keys => .pure ⟨v, j, written, fun k hk => ?_⟩
    rw [Keyed.keys_append, List.mem_append] at hk
    rcases hk with hk | hk
    · rw [built.fields] at keys
      exact .inl (keys k hk)
    · exact .inr (built.mem_keys_marks hk)
  · intro i
    rw [fieldElements]
    exact .pure fun k hk => by cases hk
  · intro i f fs own rest
    rw [fieldElements_cons]
    have first : Yields (Consistent env) (env.ownElements i f) fun es =>
        ∀ k ∈ es.keys, FieldKey env i f k := by
      refine yields_own (fun _ _ k hk => by cases hk) fun c read => ?_
      exact (own c read i read).imp fun es keys k hk => keys k (Keyed.mem_keys_of_filter hk)
    refine first.bind fun es written => rest.bind fun more others => .pure fun k hk => ?_
    rw [Keyed.keys_append, List.mem_append] at hk
    rcases hk with hk | hk
    · exact ⟨f, List.mem_cons_self .., written k hk⟩
    · obtain ⟨g, mem, key⟩ := others k hk
      exact ⟨g, List.mem_cons_of_mem _ mem, key⟩
  · intro f o kind written i read
    obtain ⟨u, embeds⟩ := kind_eq_embedded.1 kind
    rw [contentElements_embedded embeds]
    refine (written u).imp ?_
    rintro es ⟨v, j, written, keys⟩ k hk
    exact (keys k hk).fieldKey embeds read written
  · intro f o kind written i read
    obtain ⟨u, nests⟩ := kind_eq_entity.1 kind
    rw [contentElements_entity nests]
    exact (written u).bind fun es _ => .pure fun k hk => fieldKey_single (by simp [kind]) hk
  · intro f os kind written i read
    rw [contentElements.eq_3 _ _ _ kind]
    exact (yields_ofExcept _).bind fun t _ => (written t).bind fun es _ =>
      .pure fun k hk => fieldKey_single (by simp [kind]) hk
  · intro f c embedded entity collection i read
    rw [contentElements.eq_4 _ _ _ embedded entity collection]
    refine (yields_ofExcept _).imp fun es written k hk => ?_
    obtain ⟨kind, v, rfl⟩ := keys_leafElements written
    exact fieldKey_single kind hk
  · intro t
    rw [objectRecords]
    exact .pure trivial
  · intro t o os first rest
    rw [objectRecords]
    exact first.bind fun es _ => rest.bind fun vs _ => .pure trivial

/-- What is written for an instance are the elements of what it is written as, with its mark. -/
theorem yields_elementsWith {t v : TypeRef} {i j : Instance} {m n : Metadata}
    {P : Elements → Prop} (build : Schema.build env.catalog env.config t = .ok m)
    (written : WrittenAs env t i v j) (build' : Schema.build env.catalog env.config v = .ok n)
    (fields : Yields (Consistent env) (env.fieldElements j n.fields) P) :
    Yields (Consistent env) (env.elementsWith i m) fun p =>
      p.2 = n ∧ ∃ es, P es ∧ p.1 = es ++ n.marks := by
  cases single : concrete m i with
  | error e =>
    rw [elementsWith_of_error single]
    exact .throw e
  | ok k =>
    rw [elementsWith_of_ok single]
    refine (yields_concreteMetadata (fun _ h => h) build single).bind ?_
    rintro n' ⟨u, written', build''⟩
    obtain ⟨rfl, rfl⟩ := written.unique written'
    rw [build'] at build''
    cases build''
    exact fields.bind fun es h => .pure ⟨rfl, es, h, rfl⟩

end EntityMapping
