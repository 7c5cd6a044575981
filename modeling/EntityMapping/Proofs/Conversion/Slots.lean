import EntityMapping.Proofs.Conversion.Written

/-!
What each kind of attribute writes says what its slot holds. A value that is left out is the one
that the slot starts with. An embedded object writes what it would write by itself; another object
writes one record, and a list of objects one list of records.
-/

namespace EntityMapping

open Effect Environment Registry Schema

variable {env : Environment} {family : List TypeRef} {R : Registry} {f : MappedField}

/-! ### Values -/

/-- What a value under the key of an attribute says about the slot. -/
theorem SlotWritten.single {s : Slot} {v : Value} (single : ∀ u, f.type ≠ .embedded u)
    (reads : ∀ E : Elements, E.find? f.key = (if env.keeps v then some v else none) →
      ∀ R r fresh, Holds env family R → Consistent env r → Le r R →
        (∃ c, Answers env R r (env.contentFrom fresh f E) (some c) ∧ Instance.toSlot f c = .ok s) ∨
          Answers env R r (env.contentFrom fresh f E) none ∧
            ∀ fresh, env.catalog.blankSlot fresh f.type = s) :
    SlotWritten env family f s ([(f.key, v)].filter fun e => env.keeps e.2) := by
  cases hv : env.keeps v with
  | false =>
    rw [List.filter_cons_of_neg (by simpa using hv), List.filter_nil]
    refine ⟨nofun, .nil, nofun, fun E agree R r fresh holds consistent le _ => ?_⟩
    refine reads E ?_ R r fresh holds consistent le
    rw [agree f.key ((levelKey_single single).2 rfl), hv]
    rfl
  | true =>
    rw [List.filter_cons_of_pos (by simpa using hv), List.filter_nil]
    refine ⟨?_, List.pairwise_singleton _ _, ?_, fun E agree R r fresh holds consistent le _ => ?_⟩
    · intro k hk
      exact (levelKey_single single).2 (List.mem_singleton.1 hk)
    · intro e he
      rw [List.mem_singleton.1 he]
      exact hv
    · refine reads E ?_ R r fresh holds consistent le
      rw [agree f.key ((levelKey_single single).2 rfl), hv]
      simp [Keyed.find?]

theorem answers_ofExcept {α : Type} {r : Registry} {x : Except MapperError α} {a : α}
    (h : Consistent env r) (le : Le r R) (answer : x = .ok a) :
    Answers env R r (Loading.ofExcept x) a := by
  rw [answer]
  exact .pure h le a

/-- A plain value that is read back says what comes back of its slot. -/
theorem SlotWritten.plain {type : AttributeType} {initial x : type.Carrier} {v : Value}
    (kind : f.type = .plain type initial) (back : type.ofValue v = .ok x) :
    SlotWritten env family f (.plain type (if env.keeps v then x else initial))
      ([(f.key, v)].filter fun e => env.keeps e.2) := by
  have leaf : f.type.element? = none := by rw [kind]; rfl
  refine .single (fun u => by rw [kind]; nofun) fun E found R r fresh _ consistent le => ?_
  rw [contentFrom_leaf leaf, found]
  cases hv : env.keeps v with
  | false =>
    refine .inr ⟨.pure consistent le none, fun fresh => ?_⟩
    rw [kind]
    rfl
  | true =>
    refine .inl ⟨.native v, ?_, ?_⟩
    · refine answers_ofExcept consistent le ?_
      rw [contentOf, MappedField.converter?, kind]
      rfl
    · simp only [Instance.toSlot, kind, back]
      rfl

/-- A converted attribute says what comes back of its slot, if it is read back from anything but
null. -/
theorem SlotWritten.converted {c : ConverterRef} {initial v : Value} {k : Converter} {a : Attribute}
    (kind : f.type = .converted c initial) (there : env.converters.get c = .ok k)
    (type : a.typeName = c.attributeType) (back : v ≠ .null → k.toAttribute v = .ok a) :
    SlotWritten env family f (.converted (if v.isNull then ⟨c.attributeType, initial⟩ else a))
      ([(f.key, v)].filter fun e => env.keeps e.2) := by
  have leaf : f.type.element? = none := by rw [kind]; rfl
  have content : env.contentOf f v =
      if v.isNull then .ok none else .ok (some (.attribute a)) := by
    rw [contentOf, MappedField.converter?, kind]
    simp only [FieldType.converter?, there]
    cases null : v.isNull with
    | true => rfl
    | false =>
      have other : v ≠ .null := by
        rintro rfl
        cases null
      exact congrArg (Except.map fun a => some (Content.attribute a)) (back other)
  have blank : ∀ fresh, env.catalog.blankSlot fresh f.type =
      .converted ⟨c.attributeType, initial⟩ := by
    intro fresh
    rw [kind]
    rfl
  refine .single (fun u => by rw [kind]; nofun) fun E found R r fresh _ consistent le => ?_
  rw [contentFrom_leaf leaf, found]
  cases null : v.isNull with
  | true =>
    refine .inr ⟨?_, blank⟩
    cases hv : env.keeps v with
    | false => exact .pure consistent le none
    | true => exact answers_ofExcept consistent le (by rw [content, null]; rfl)
  | false =>
    have kept : env.keeps v = true := by rw [keeps, null, Bool.not_false, Bool.or_true]
    rw [kept]
    refine .inl ⟨.attribute a, answers_ofExcept consistent le ?_, ?_⟩
    · rw [content, null]
      rfl
    · simp only [Instance.toSlot, kind, if_pos type]
      rfl

/-! ### Objects -/

theorem filter_kept {es : Elements} (kept : ∀ e ∈ es, env.keeps e.2 = true) :
    es.filter (fun e => env.keeps e.2) = es := List.filter_eq_self.2 kept

theorem answers_object {α : Type} {u : TypeRef} {r : Registry} {x : Metadata → Loading α} {a : α}
    (holds : Holds env family R) (mem : u ∈ family) (h : Consistent env r) (le : Le r R)
    (rest : ∀ m s, Consistent env s → Le s R → s.find? u = some m → Answers env R s (x m) a) :
    Answers env R r (env.load u >>= x) a := by
  obtain ⟨m, found⟩ := holds.loaded u mem
  refine (holds.consistent.answers_load found h le).bind fun s run grown le' => ?_
  exact rest m s grown.consistent le' ((h.grown_load run).2 m rfl)

theorem SlotWritten.embedded {u : TypeRef} {o : Instance} {es : Elements}
    (kind : f.type = .embedded u) (mem : u ∈ family)
    (concrete : (env.catalog.describe u).isPolymorphic = false) (type : o.type = u)
    (written : Written env family u o es) :
    SlotWritten env family f (.object o) (es.filter fun e => env.keeps e.2) := by
  rw [filter_kept written.kept]
  have level : ∀ k, InstanceKey env u k ↔ LevelKey env.catalog env.config f k := by
    intro k
    rw [levelKey_embedded kind, InstanceKey, concrete]
    simp
  refine ⟨fun k hk => (level k).1 (written.keys k hk), written.nodup, written.kept, ?_⟩
  intro E agree R r fresh holds consistent le enterable
  refine .inl ⟨.object o, ?_, ?_⟩
  · rw [contentFrom_embedded kind]
    refine answers_object holds mem consistent le fun m s hs les loaded => ?_
    have plain : m.isPolymorphic = true → fresh = env.catalog.types := by
      intro h
      rw [(hs.built_find? loaded).isPolymorphic, concrete] at h
      cases h
    refine (written.reads E (fun k hk => agree k ((level k).1 hk)) R m s fresh holds hs les loaded
      (enterable u kind) plain).bind fun w _ grown within => ?_
    exact .pure grown.consistent within _
  · simp only [Instance.toSlot, kind, if_pos type]

theorem SlotWritten.entity {u : TypeRef} {o : Instance} {es : Elements}
    (kind : f.type = .entity u) (mem : u ∈ family)
    (type : o.type = u) (written : Written env family u o es) :
    SlotWritten env family f (.object o) ([(f.key, .record es)].filter fun e => env.keeps e.2) := by
  refine .single (fun v => by rw [kind]; nofun) fun E there R r fresh holds consistent le => ?_
  refine .inl ⟨.object o, ?_, ?_⟩
  · rw [contentFrom_entity kind, there, if_pos (by simp [keeps, Value.isNull])]
    refine answers_object holds mem consistent le fun m s hs les loaded => ?_
    refine (written.reads es (fun _ _ => rfl) R m s _ holds hs les loaded
      (hs.built_find? loaded).enterable
      fun _ => rfl).bind fun w _ grown within => ?_
    exact .pure grown.consistent within _
  · simp only [Instance.toSlot, kind, if_pos type]

/-- Some records say what objects of a type hold. -/
def RecordsWritten (env : Environment) (family : List TypeRef) (u : TypeRef) (os : List Instance)
    (vs : List Value) : Prop :=
  ∀ R f m r, Holds env family R → Consistent env r → Le r R → r.find? u = some m →
    Answers env R r (env.instantiateAll f m vs) os

theorem RecordsWritten.nil {u : TypeRef} : RecordsWritten env family u [] [] := by
  intro R f m r _ consistent le _
  rw [instantiateAll]
  exact .pure consistent le []

theorem RecordsWritten.cons {u : TypeRef} {o : Instance} {os : List Instance} {es : Elements}
    {vs : List Value} (one : Written env family u o es) (more : RecordsWritten env family u os vs) :
    RecordsWritten env family u (o :: os) (.record es :: vs) := by
  intro R f m r holds consistent le loaded
  rw [instantiateAll]
  refine (one.reads es (fun _ _ => rfl) R m r _ holds consistent le loaded
    (consistent.built_find? loaded).enterable fun _ => rfl).bind fun s _ grown within => ?_
  have still := grown.consistent.find?_mono grown.le loaded
  refine (more R f m s holds grown.consistent within still).bind fun w _ grown' within' => ?_
  exact .pure grown'.consistent within' _

theorem SlotWritten.embeddables {u : TypeRef} {os : List Instance} {vs : List Value}
    (kind : f.type = .embeddables u) (mem : u ∈ family)
    (types : ∀ o ∈ os, o.type = u) (written : RecordsWritten env family u os vs) :
    SlotWritten env family f (.objects os) ([(f.key, .list vs)].filter fun e => env.keeps e.2) := by
  refine .single (fun v => by rw [kind]; nofun) fun E there R r fresh holds consistent le => ?_
  refine .inl ⟨.objects os, ?_, ?_⟩
  · rw [contentFrom_embeddables kind, there, if_pos (by simp [keeps, Value.isNull])]
    refine answers_object holds mem consistent le fun m s hs les loaded => ?_
    refine (written R f m s holds hs les loaded).bind fun w _ grown within => ?_
    exact .pure grown.consistent within _
  · simp only [Instance.toSlot, kind]
    rw [if_pos (List.all_eq_true.2 fun o ho => by simpa using types o ho)]

end EntityMapping
