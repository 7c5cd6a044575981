import EntityMapping.Proofs.Conversion.Lookup
import EntityMapping.Proofs.Registry.Reachable

/-!
What is written, taken apart. What an instance becomes does not depend on which types have been
loaded before, so one can speak of what is written for it, for one of its attributes or for an
object that it holds: the elements of an instance are those of its attributes one after the other,
followed by its discriminator, and the elements of an attribute are made of those of its objects.
-/

namespace EntityMapping

open Effect Environment Registry Schema

variable {env : Environment}

/-! ### Answers -/

/-- A step gives an answer, in some consistent registry. -/
def Gives (env : Environment) {α : Type} (x : Loading α) (a : α) : Prop :=
  ∃ r s, Consistent env r ∧ x.run r = (.ok a, s)

variable {α β : Type}

theorem Gives.of_yields {x : Loading α} {a : α} {P : α → Prop} (h : Gives env x a)
    (yields : Yields (Consistent env) x P) : P a := by
  obtain ⟨r, s, consistent, run⟩ := h
  exact (yields r a s consistent run).1

/-- A step that only loads answers with what it gives. -/
theorem yields_gives {x : Loading α} (h : OnlyLoads env x.run) :
    Yields (Consistent env) x (Gives env x) := by
  intro r a s consistent run
  have kept : Consistent env (x.run r).2 :=
    h _ (fun t r before => (before.grown_load rfl).1.consistent) r consistent
  rw [run] at kept
  exact ⟨⟨r, s, consistent, run⟩, kept⟩

/-- What a step answers does not depend on the registry. -/
def Determined (env : Environment) {α : Type} (x : Loading α) : Prop :=
  ∀ a, Gives env x a → Yields (Consistent env) x fun b => b = a

theorem Gives.unique {x : Loading α} {a b : α} (h : Gives env x a) (h' : Gives env x b)
    (determined : Determined env x) : a = b :=
  h.of_yields (determined b h')

theorem Determined.pure (a : α) : Determined env (pure a : Loading α) := by
  rintro b ⟨r, s, consistent, run⟩
  cases run
  exact .pure rfl

theorem Determined.throw (e : MapperError) : Determined env (throw e : Loading α) :=
  fun _ _ => .throw e

theorem Determined.bind {x : Loading α} {f : α → Loading β} (hx : Determined env x)
    (hf : ∀ a, Determined env (f a)) : Determined env (x >>= f) := by
  rintro b ⟨r, u, consistent, run⟩
  obtain ⟨a, s, first, second⟩ := run_bind_eq_ok.1 run
  have same := hx a ⟨r, s, consistent, first⟩
  have rest := hf a b ⟨s, u, (same r a s consistent first).2, second⟩
  exact same.bind fun c hc => hc ▸ rest

/-- Metadata is what the declaration makes of a type, wherever it comes from. -/
theorem determined_of_build {x : Loading Metadata} {t : TypeRef}
    (h : Yields (Consistent env) x fun m => Schema.build env.catalog env.config t = .ok m) :
    Determined env x := by
  intro m given
  have build := given.of_yields h
  exact h.imp fun n build' => Except.ok.inj (build'.symm.trans build)

theorem passedOn_determined : PassedOn env (Determined env) where
  pure := .pure
  throw := .throw
  bind := .bind
  load t := determined_of_build (yields_load t)
  known t := by
    refine determined_of_build (t := t) ((yields_ask _).imp ?_)
    rintro m ⟨r, consistent, known⟩
    exact consistent.build_find? (known_eq_ok.1 known)

theorem determined_ownElements (i : Instance) (f : MappedField) :
    Determined env (env.ownElements i f) :=
  passedOn_determined.ownElements fun c _ => passedOn_determined.elements.2.2.2.1 f c

theorem Gives.bind_inv {x : Loading α} {f : α → Loading β} {b : β} (h : Gives env (x >>= f) b)
    (loads : OnlyLoads env x.run) : ∃ a, Gives env x a ∧ Gives env (f a) b := by
  obtain ⟨r, u, consistent, run⟩ := h
  obtain ⟨a, s, first, second⟩ := run_bind_eq_ok.1 run
  obtain ⟨given, consistent'⟩ := yields_gives loads r a s consistent first
  exact ⟨a, given, s, u, consistent', second⟩

theorem gives_pure_iff {a b : α} : Gives env (pure a : Loading α) b ↔ b = a := by
  constructor
  · rintro ⟨r, s, -, run⟩
    cases run
    rfl
  · rintro rfl
    exact ⟨{}, {}, consistent_empty, rfl⟩

theorem not_gives_throw {e : MapperError} {a : α} : ¬ Gives env (throw e : Loading α) a :=
  fun ⟨_, _, _, run⟩ => by cases run

/-! ### Instances -/

variable {i o : Instance} {t u : TypeRef} {f g : MappedField} {fs : List MappedField}
  {es own : Elements} {k : String}

/-- The elements of an instance are those of the attributes of what it is written as, and its
mark. -/
theorem Gives.elements_inv (h : Gives env (env.elements i t) es) :
    ∃ v j n fields, WrittenAs env t i v j ∧ Built env.catalog env.config v n ∧
      Gives env (env.fieldElements j (declared env.catalog env.config v)) fields ∧
      es = fields ++ n.marks := by
  rw [elements] at h
  obtain ⟨m, loaded, h⟩ := h.bind_inv (.load t)
  have build := loaded.of_yields (yields_load t)
  obtain ⟨⟨es', n⟩, written, h⟩ := h.bind_inv (onlyLoads_elements.2.1 i m)
  obtain rfl := gives_pure_iff.1 h
  cases single : concrete m i with
  | error e =>
    rw [elementsWith_of_error single] at written
    exact absurd written not_gives_throw
  | ok j =>
    rw [elementsWith_of_ok single] at written
    obtain ⟨n', known, written⟩ := written.bind_inv (passedOn_onlyLoads.concreteMetadata m j)
    obtain ⟨v, as, build'⟩ :=
      known.of_yields (yields_concreteMetadata (fun _ consistent => consistent) build single)
    obtain ⟨fields, given, written⟩ := written.bind_inv (onlyLoads_elements.2.2.1 j n'.fields)
    cases gives_pure_iff.1 written
    have built := built_of_build build'
    rw [built.fields] at given
    exact ⟨v, j, n, fields, as, built, given, rfl⟩

theorem Gives.kept (h : Gives env (env.elements i t) es) : ∀ e ∈ es, env.keeps e.2 = true := by
  obtain ⟨v, j, n, fields, -, built, given, rfl⟩ := h.elements_inv
  intro e he
  rcases List.mem_append.1 he with he | he
  · exact given.of_yields (yields_kept j _) e he
  · obtain ⟨b, -, rfl⟩ := built.mem_marks he
    exact keeps_text b.discriminator

/-! ### Attributes in a row -/

theorem Gives.cons_inv (h : Gives env (env.fieldElements i (f :: fs)) es) :
    ∃ own rest, Gives env (env.ownElements i f) own ∧ Gives env (env.fieldElements i fs) rest ∧
      es = own ++ rest := by
  rw [fieldElements_cons] at h
  obtain ⟨own, first, h⟩ :=
    h.bind_inv (passedOn_onlyLoads.ownElements fun c _ => onlyLoads_elements.2.2.2.1 f c)
  obtain ⟨rest, others, h⟩ := h.bind_inv (onlyLoads_elements.2.2.1 i fs)
  exact ⟨own, rest, first, others, gives_pure_iff.1 h⟩

theorem Gives.exists_own (h : Gives env (env.fieldElements i fs) es) (mem : f ∈ fs) :
    ∃ own, Gives env (env.ownElements i f) own ∧ own.Sublist es := by
  induction fs generalizing es with
  | nil => cases mem
  | cons g fs ih =>
    obtain ⟨own, rest, first, others, rfl⟩ := h.cons_inv
    rcases List.mem_cons.1 mem with rfl | mem
    · exact ⟨own, first, List.sublist_append_left ..⟩
    · obtain ⟨own', given, sub⟩ := ih others mem
      exact ⟨own', given, sub.trans (List.sublist_append_right ..)⟩

theorem writes_iff : Writes env i f k ↔ ∃ own, Gives env (env.ownElements i f) own ∧ k ∈ own.keys :=
  ⟨fun ⟨r, own, s, consistent, run, mem⟩ => ⟨own, ⟨r, s, consistent, run⟩, mem⟩,
    fun ⟨own, ⟨r, s, consistent, run⟩, mem⟩ => ⟨r, own, s, consistent, run, mem⟩⟩

theorem Gives.mem_keys_own (h : Gives env (env.ownElements i f) own) :
    k ∈ own.keys ↔ Writes env i f k := by
  rw [writes_iff]
  constructor
  · exact fun mem => ⟨own, h, mem⟩
  · rintro ⟨own', given, mem⟩
    rwa [h.unique given (determined_ownElements i f)]

theorem Gives.mem_keys_fields (h : Gives env (env.fieldElements i fs) es) :
    k ∈ es.keys ↔ ∃ f ∈ fs, Writes env i f k := by
  induction fs generalizing es with
  | nil =>
    rw [fieldElements, gives_pure_iff] at h
    subst h
    simp [Keyed.keys]
  | cons f fs ih =>
    obtain ⟨own, rest, first, others, rfl⟩ := h.cons_inv
    rw [Keyed.keys_append, List.mem_append, first.mem_keys_own, ih others]
    simp only [List.mem_cons, exists_eq_or_imp]

/-- A key comes once, if every attribute writes it once and no two write it. -/
theorem Gives.nodup_keys_fields (h : Gives env (env.fieldElements i fs) es) :
    es.keys.Nodup ↔
      (∀ f ∈ fs, ∀ own, Gives env (env.ownElements i f) own → own.keys.Nodup) ∧
      fs.Pairwise fun f g => ∀ k, Writes env i f k → ¬ Writes env i g k := by
  induction fs generalizing es with
  | nil =>
    rw [fieldElements, gives_pure_iff] at h
    subst h
    simp [Keyed.keys]
  | cons f fs ih =>
    obtain ⟨own, rest, first, others, rfl⟩ := h.cons_inv
    rw [Keyed.keys_append, List.nodup_append, ih others, List.pairwise_cons, List.forall_mem_cons]
    constructor
    · rintro ⟨once, ⟨all, pairwise⟩, apart⟩
      refine ⟨⟨fun own' given => ?_, all⟩, fun g mem k writes writes' => ?_, pairwise⟩
      · rwa [given.unique first (determined_ownElements i f)]
      · exact apart k (first.mem_keys_own.2 writes) k (others.mem_keys_fields.2 ⟨g, mem, writes'⟩)
          rfl
    · rintro ⟨⟨once, all⟩, apart, pairwise⟩
      refine ⟨once own first, ⟨all, pairwise⟩, ?_⟩
      rintro k hk l hl rfl
      obtain ⟨g, mem, writes⟩ := others.mem_keys_fields.1 hl
      exact apart g mem k (first.mem_keys_own.1 hk) writes

/-! ### Contents -/

/-- An attribute writes nothing for a null that is left out, and what is kept of its content
otherwise. -/
theorem Gives.own_inv (h : Gives env (env.ownElements i f) own) :
    (i.read f = .ok (.native .null) ∧ own = []) ∨
      ∃ c es, i.read f = .ok c ∧ Gives env (env.contentElements f c) es ∧
        own = es.filter fun e => env.keeps e.2 := by
  have yields : Yields (Consistent env) (env.ownElements i f) fun own =>
      (i.read f = .ok (.native .null) ∧ own = []) ∨
        ∃ c es, i.read f = .ok c ∧ Gives env (env.contentElements f c) es ∧
          own = es.filter fun e => env.keeps e.2 := by
    refine yields_own (fun read _ => .inl ⟨read, rfl⟩) fun c read => ?_
    exact (yields_gives (onlyLoads_elements.2.2.2.1 f c)).imp fun es given =>
      .inr ⟨c, es, read, given, rfl⟩
  exact h.of_yields yields

/-- What an attribute writes for an object: the elements of the object among those of its owner, if
it is embedded, and otherwise a record of them. -/
theorem Gives.own_of_object (h : Gives env (env.ownElements i f) own)
    (read : i.read f = .ok (.object o)) :
    ∃ u es, Gives env (env.elements o u) es ∧
      (f.type = .embedded u ∧ own = es ∨ f.type = .entity u ∧ own = [(f.key, .record es)]) := by
  obtain ⟨null, -⟩ | ⟨c, es, read', given, rfl⟩ := h.own_inv
  · rw [read] at null
    cases null
  rw [read] at read'
  cases read'
  by_cases embedded : f.kind = .embedded
  · obtain ⟨u, embeds⟩ := kind_eq_embedded.1 embedded
    rw [contentElements_embedded embeds] at given
    exact ⟨u, es, given, .inl ⟨embeds, List.filter_eq_self.2 given.kept⟩⟩
  by_cases entity : f.kind = .entity
  · obtain ⟨u, nests⟩ := kind_eq_entity.1 entity
    rw [contentElements_entity nests] at given
    obtain ⟨inner, below, last⟩ := given.bind_inv (onlyLoads_elements.1 o u)
    obtain rfl := gives_pure_iff.1 last
    exact ⟨u, inner, below, .inr ⟨nests, by simp [keeps, Value.isNull]⟩⟩
  · rw [contentElements.eq_4 _ _ _ (fun _ h => absurd h embedded) (fun _ h => absurd h entity)
      (fun _ _ h => by cases h), leafElements_object] at given
    exact absurd given not_gives_throw

theorem type_eq_embeddables (kind : f.kind = .collection) (element : elementType f = .ok u) :
    f.type = .embeddables u := by
  unfold elementType MappedField.element? at element
  unfold MappedField.kind at kind
  cases type : f.type <;> simp_all [FieldType.kind, FieldType.element?]

/-- For a list of objects it writes a list of their records. -/
theorem Gives.own_of_objects {os : List Instance} (h : Gives env (env.ownElements i f) own)
    (read : i.read f = .ok (.objects os)) :
    ∃ u records, Gives env (env.objectRecords u os) records ∧ f.type = .embeddables u ∧
      own = [(f.key, .list records)] := by
  obtain ⟨null, -⟩ | ⟨c, es, read', given, rfl⟩ := h.own_inv
  · rw [read] at null
    cases null
  rw [read] at read'
  cases read'
  by_cases collection : f.kind = .collection
  · rw [contentElements.eq_3 _ _ _ collection] at given
    obtain ⟨u, element, given⟩ := given.bind_inv (.ofExcept _)
    obtain ⟨records, below, last⟩ := given.bind_inv (onlyLoads_elements.2.2.2.2 u os)
    obtain rfl := gives_pure_iff.1 last
    have lists := type_eq_embeddables collection (element.of_yields (yields_ofExcept _))
    exact ⟨u, records, below, lists, by simp [keeps, Value.isNull]⟩
  · rw [contentElements.eq_4 _ _ _ (fun _ _ h => by cases h) (fun _ _ h => by cases h)
      (fun _ h => absurd h collection), leafElements_objects] at given
    exact absurd given not_gives_throw

theorem Gives.records_inv {os : List Instance} {vs : List Value}
    (h : Gives env (env.objectRecords u (o :: os)) vs) :
    ∃ es rest, Gives env (env.elements o u) es ∧ Gives env (env.objectRecords u os) rest ∧
      vs = .record es :: rest := by
  rw [objectRecords] at h
  obtain ⟨es, first, h⟩ := h.bind_inv (onlyLoads_elements.1 o u)
  obtain ⟨rest, others, h⟩ := h.bind_inv (onlyLoads_elements.2.2.2.2 u os)
  exact ⟨es, rest, first, others, gives_pure_iff.1 h⟩

theorem Gives.exists_record {os : List Instance} {vs : List Value}
    (h : Gives env (env.objectRecords u os) vs) (mem : o ∈ os) :
    ∃ es, Gives env (env.elements o u) es ∧ (o, .record es) ∈ os.zip vs := by
  induction os generalizing vs with
  | nil => cases mem
  | cons p os ih =>
    obtain ⟨es, rest, first, others, rfl⟩ := h.records_inv
    rw [List.zip_cons_cons]
    rcases List.mem_cons.1 mem with rfl | mem
    · exact ⟨es, first, List.mem_cons_self ..⟩
    · obtain ⟨es, given, there⟩ := ih others mem
      exact ⟨es, given, List.mem_cons_of_mem _ there⟩

/-- What stands at the place of an object is the record of its elements. -/
theorem Gives.of_mem_zip {os : List Instance} {vs : List Value}
    (h : Gives env (env.objectRecords u os) vs) (there : (o, .record es) ∈ os.zip vs) :
    Gives env (env.elements o u) es := by
  induction os generalizing vs with
  | nil => cases there
  | cons p os ih =>
    obtain ⟨es', rest, first, others, rfl⟩ := h.records_inv
    rw [List.zip_cons_cons] at there
    rcases List.mem_cons.1 there with same | there
    · cases same
      exact first
    · exact ih others there

/-- An attribute writes a key twice only if it embeds an object that does. -/
theorem Gives.nodup_own (h : Gives env (env.ownElements i f) own)
    (inner : ∀ u o, f.type = .embedded u → i.read f = .ok (.object o) →
      ∀ es, Gives env (env.elements o u) es → es.keys.Nodup) : own.keys.Nodup := by
  have leaf : ∀ c es, Gives env (Loading.ofExcept (env.leafElements f c)) es →
      (Keyed.keys (es.filter fun e => env.keeps e.2)).Nodup := by
    intro c es given
    obtain ⟨-, v, rfl⟩ := keys_leafElements (given.of_yields (yields_ofExcept _))
    exact List.Nodup.sublist (List.filter_sublist.map _) (List.pairwise_singleton _ _)
  obtain ⟨-, rfl⟩ | ⟨c, es, read, given, rfl⟩ := h.own_inv
  · exact .nil
  rcases c with v | a | o | os
  · rw [contentElements_native] at given
    exact leaf _ es given
  · rw [contentElements_attribute] at given
    exact leaf _ es given
  · obtain ⟨u, es', written, ⟨embeds, same⟩ | ⟨-, same⟩⟩ := h.own_of_object read
    · rw [same]
      exact inner u o embeds read es' written
    · rw [same]
      exact List.pairwise_singleton _ _
  · obtain ⟨u, records, -, -, same⟩ := h.own_of_objects read
    rw [same]
    exact List.pairwise_singleton _ _

end EntityMapping
