import EntityMapping.Proofs.Conversion.Misfires
import EntityMapping.Proofs.Registry.NullSetting

/-!
Writing with nulls and without. A writing that leaves nulls out takes the same steps as one that
writes them, and fails where that one fails. What it answers is what the other one answers after the
nulls have been shed: at the level of the instance, of the objects that are embedded in it, and of
the records of its objects. Nulls inside values are not looked at.
-/

namespace EntityMapping

open Effect Environment Registry Schema

def Elements.withoutNulls (es : Elements) : Elements := es.filter fun e => !e.2.isNull

/-- What marks the records of a type: a variant writes its discriminator. -/
def Environment.marksOf (env : Environment) (t : TypeRef) : Elements :=
  ((declaredBinding env.catalog env.config t).map VariantBinding.element).toList

mutual

/-- The elements of an instance of a type, and what is left of them after nulls are shed from its
record and from the records in that. -/
inductive Sheds (env : Environment) : TypeRef → Instance → Elements → Elements → Prop where
  | mk {t v : TypeRef} {i j : Instance} {all shed : Elements} (written : WrittenAs env t i v j)
      (fields : FieldsShed env j (declared env.catalog env.config v) all shed) :
      Sheds env t i (all ++ env.marksOf v) (shed ++ env.marksOf v).withoutNulls

/-- The elements of some attributes of an instance; the nulls in the records of their objects are
shed, those beside them are not yet. -/
inductive FieldsShed (env : Environment) :
    Instance → List MappedField → Elements → Elements → Prop where
  | nil {i : Instance} : FieldsShed env i [] [] []
  | cons {i : Instance} {f : MappedField} {fs : List MappedField} {c : Content}
      {own own' rest rest' : Elements} (read : i.read f = .ok c) (one : FieldSheds env f c own own')
      (more : FieldsShed env i fs rest rest') :
      FieldsShed env i (f :: fs) (own ++ rest) (own' ++ rest')

/-- The elements of what an attribute holds. A value stays as it is, whatever is in it. -/
inductive FieldSheds (env : Environment) :
    MappedField → Content → Elements → Elements → Prop where
  | value {f : MappedField} {c : Content} (leaf : f.type.element? = none) (v : Value) :
      FieldSheds env f c [(f.key, v)] [(f.key, v)]
  | embedded {f : MappedField} {u : TypeRef} {o : Instance} {all shed : Elements}
      (type : f.type = .embedded u) (inner : Sheds env u o all shed) :
      FieldSheds env f (.object o) all shed
  | entity {f : MappedField} {u : TypeRef} {o : Instance} {all shed : Elements}
      (type : f.type = .entity u) (inner : Sheds env u o all shed) :
      FieldSheds env f (.object o) [(f.key, .record all)] [(f.key, .record shed)]
  | embeddables {f : MappedField} {u : TypeRef} {os : List Instance} {all shed : List Value}
      (type : f.type = .embeddables u) (inner : RecordsShed env u os all shed) :
      FieldSheds env f (.objects os) [(f.key, .list all)] [(f.key, .list shed)]

/-- The records of some instances of a type. -/
inductive RecordsShed (env : Environment) :
    TypeRef → List Instance → List Value → List Value → Prop where
  | nil {u : TypeRef} : RecordsShed env u [] [] []
  | cons {u : TypeRef} {o : Instance} {os : List Instance} {all shed : Elements}
      {rest rest' : List Value} (one : Sheds env u o all shed)
      (more : RecordsShed env u os rest rest') :
      RecordsShed env u (o :: os) (.record all :: rest) (.record shed :: rest')

end

/-! ### What is left -/

variable {env : Environment}

/-- Elements that begin with what an instance writes leave the same of that. -/
theorem Sheds.prefix_unique {t : TypeRef} {i : Instance} {all shed : Elements}
    (h : Sheds env t i all shed) : ∀ {all' shed' : Elements} (x y : Elements),
    Sheds env t i all' shed' → all ++ x = all' ++ y → all = all' ∧ shed = shed' := by
  -- Nothing in the list tells where the elements of an embedded object end and those of its owner
  -- go on, so the statement is about the beginning of a list.
  refine @Sheds.rec env
    (fun t i all shed _ => ∀ {all' shed'} (x y : Elements), Sheds env t i all' shed' →
      all ++ x = all' ++ y → all = all' ∧ shed = shed')
    (fun i fs all shed _ => ∀ {all' shed'} (x y : Elements), FieldsShed env i fs all' shed' →
      all ++ x = all' ++ y → all = all' ∧ shed = shed')
    (fun f c all shed _ => ∀ {all' shed'} (x y : Elements), FieldSheds env f c all' shed' →
      all ++ x = all' ++ y → all = all' ∧ shed = shed')
    (fun u os all shed _ => ∀ {shed'}, RecordsShed env u os all shed' → shed = shed')
    ?elements ?noFields ?field ?value ?embedded ?entity ?embeddables ?noRecords ?record t i all
    shed h
  case elements =>
    intro t v i j all shed written fields unique all' shed' x y h' same
    cases h' with
    | mk written' fields' =>
      obtain ⟨rfl, rfl⟩ := written.unique written'
      rw [List.append_assoc, List.append_assoc] at same
      obtain ⟨rfl, rfl⟩ := unique _ _ fields' same
      exact ⟨rfl, rfl⟩
  case noFields =>
    intro i all' shed' x y h' same
    cases h'
    exact ⟨rfl, rfl⟩
  case field =>
    intro i f fs c own own' rest rest' read one more first others all' shed' x y h' same
    cases h' with
    | cons read' one' more' =>
      cases read.symm.trans read'
      rw [List.append_assoc, List.append_assoc] at same
      obtain ⟨rfl, rfl⟩ := first _ _ one' same
      obtain ⟨rfl, rfl⟩ := others _ _ more' (List.append_cancel_left same)
      exact ⟨rfl, rfl⟩
  case value =>
    intro f c leaf v all' shed' x y h' same
    cases h' with
    | value =>
      cases same
      exact ⟨rfl, rfl⟩
    | embedded type | entity type | embeddables type =>
      rw [type] at leaf
      cases leaf
  case embedded =>
    intro f u o all shed type inner unique all' shed' x y h' same
    cases h' with
    | value leaf =>
      rw [type] at leaf
      cases leaf
    | embedded type' inner' =>
      cases type.symm.trans type'
      exact unique x y inner' same
    | entity type' => cases type.symm.trans type'
  case entity =>
    intro f u o all shed type inner unique all' shed' x y h' same
    cases h' with
    | value leaf =>
      rw [type] at leaf
      cases leaf
    | embedded type' => cases type.symm.trans type'
    | entity type' inner' =>
      cases type.symm.trans type'
      obtain ⟨rfl, rfl⟩ := unique [] [] inner' (by cases same; rfl)
      exact ⟨rfl, rfl⟩
  case embeddables =>
    intro f u os all shed type inner unique all' shed' x y h' same
    cases h' with
    | value leaf =>
      rw [type] at leaf
      cases leaf
    | embeddables type' inner' =>
      cases type.symm.trans type'
      cases same
      exact ⟨rfl, by rw [unique inner']⟩
  case noRecords =>
    intro u shed' h'
    cases h'
    rfl
  case record =>
    intro u o os all shed rest rest' one more first others shed' h'
    cases h' with
    | cons one' more' =>
      obtain ⟨-, rfl⟩ := first [] [] one' rfl
      rw [others more']

theorem Sheds.unique {t : TypeRef} {i : Instance} {all shed shed' : Elements}
    (h : Sheds env t i all shed) (h' : Sheds env t i all shed') : shed = shed' :=
  (h.prefix_unique [] [] h' rfl).2

/-! ### Two writings -/

variable {family : List TypeRef} {i j o : Instance} {t u : TypeRef} {f : MappedField} {c : Content}
  {m : Metadata}

theorem alike_load (t : TypeRef) :
    Alike (Consistent env) ((env.withNulls true).load t) ((env.withNulls false).load t)
      fun m n => m = n ∧ Schema.build env.catalog env.config t = .ok m := by
  rw [load_withNulls, load_withNulls]
  exact .of_yields (yields_load t)

theorem alike_leafElements (leaf : f.type.element? = none) :
    Alike (Consistent env) (Loading.ofExcept ((env.withNulls true).leafElements f c))
      (Loading.ofExcept ((env.withNulls false).leafElements f c)) (FieldSheds env f c) := by
  have same : (env.withNulls false).leafElements f c = (env.withNulls true).leafElements f c := rfl
  rw [same]
  refine (Alike.of_yields (yields_ofExcept _)).imp ?_
  rintro es _ ⟨rfl, answer⟩
  obtain ⟨-, v, rfl⟩ := keys_leafElements answer
  exact .value leaf v

theorem withoutNulls_append_marksOf (es : Elements) (t : TypeRef) :
    (es ++ env.marksOf t).withoutNulls = es.withoutNulls ++ env.marksOf t := by
  rw [Elements.withoutNulls, List.filter_append]
  congr 1
  rw [marksOf]
  cases declaredBinding env.catalog env.config t <;> rfl

/-- An attribute writes its elements, or what is left of them when nulls are shed. -/
theorem Shaped.alike_ownElements (h : Shaped env.catalog family i)
    (mem : f ∈ declared env.catalog env.config i.type)
    (content : ∀ c, i.read f = .ok c →
      Alike (Consistent env) ((env.withNulls true).contentElements f c)
        ((env.withNulls false).contentElements f c) (FieldSheds env f c)) :
    Alike (Consistent env) ((env.withNulls true).ownElements i f)
      ((env.withNulls false).ownElements i f) fun all left =>
        ∃ c shed, i.read f = .ok c ∧ FieldSheds env f c all shed ∧
          left = shed.withoutNulls := by
  have kept : ∀ es : Elements, es.filter (fun e => (env.withNulls true).keeps e.2) = es :=
    fun es => List.filter_eq_self.2 fun _ _ => rfl
  unfold ownElements
  cases read : i.read f with
  | error e => exact .throw e
  | ok c =>
    have all : (c.isEmpty && !(env.withNulls true).config.materializeNulls) = false :=
      Bool.and_false _
    have some : (c.isEmpty && !(env.withNulls false).config.materializeNulls) = c.isEmpty :=
      Bool.and_true _
    simp only [all, some, Bool.false_eq_true, if_false, kept]
    cases empty : c.isEmpty with
    | false =>
      simp only [Bool.false_eq_true, if_false]
      exact (content c read).bind fun es es' sheds => .pure ⟨c, es', rfl, sheds, rfl⟩
    | true =>
      -- A null that is left out before it is looked at would have been one element that is shed.
      obtain ⟨rfl, -⟩ := eq_null_of_isEmpty (some.trans empty)
      obtain ⟨fits, -⟩ := h.fits mem read
      generalize type : f.type = T at fits
      cases fits with
      | native =>
        rw [if_pos rfl, contentElements_native, leafElements_plain type]
        have leaf : f.type.element? = none := by rw [type]; rfl
        exact .pure ⟨_, _, rfl, .value leaf .null, rfl⟩

/-- Writing with nulls and writing without take the same steps. -/
theorem alike_elements (env : Environment) (family : List TypeRef) :
    (∀ i t, Shaped env.catalog family i → i.type = t →
      Alike (Consistent env) ((env.withNulls true).elements i t)
        ((env.withNulls false).elements i t) (Sheds env t i)) ∧
    (∀ i m, Shaped env.catalog family i → Schema.build env.catalog env.config i.type = .ok m →
      Alike (Consistent env) ((env.withNulls true).elementsWith i m)
        ((env.withNulls false).elementsWith i m) fun p q => Sheds env i.type i p.1 q.1) ∧
    (∀ i fs, Shaped env.catalog family i → fs ⊆ declared env.catalog env.config i.type →
      Alike (Consistent env) ((env.withNulls true).fieldElements i fs)
        ((env.withNulls false).fieldElements i fs) fun all left =>
          ∃ shed, FieldsShed env i fs all shed ∧ left = shed.withoutNulls) ∧
    (∀ f c, c.Fits f.type → (∀ o ∈ c.nested, Shaped env.catalog family o) →
      Alike (Consistent env) ((env.withNulls true).contentElements f c)
        ((env.withNulls false).contentElements f c) (FieldSheds env f c)) ∧
    (∀ t os, (∀ o ∈ os, o.type = t ∧ Shaped env.catalog family o) →
      Alike (Consistent env) ((env.withNulls true).objectRecords t os)
        ((env.withNulls false).objectRecords t os) (RecordsShed env t os)) := by
  refine elements.mutual_induct _ _ _ _ _ ?elements ?refused ?written ?noFields ?field ?embedded
    ?entity ?embeddables ?value ?noRecords ?record
  case elements =>
    rintro i _ written shaped rfl
    rw [elements, elements]
    refine (alike_load i.type).bind fun m _ loaded => ?_
    obtain ⟨rfl, build⟩ := loaded
    exact (written m shaped build).bind fun _ _ sheds => .pure sheds
  case refused =>
    intro i m e failed shaped build
    rw [elementsWith_of_error failed, elementsWith_of_error failed]
    exact .throw e
  case written =>
    intro i m j single fields shaped build
    rw [elementsWith_of_ok single, elementsWith_of_ok single]
    have known := yields_concreteMetadata (I := Consistent env) (fun _ h => h) build single
    refine (Alike.of_yields known).bind fun n _ same => ?_
    obtain ⟨rfl, v, written, build'⟩ := same
    obtain ⟨rfl, shaped'⟩ := shaped.writtenAs written
    have built := built_of_build build'
    refine (fields n shaped' (built.fields ▸ List.Subset.refl _)).bind fun all left sheds => ?_
    obtain ⟨shed, sheds, rfl⟩ := sheds
    rw [built.fields] at sheds
    have marks : n.marks = env.marksOf j.type := built.marks_eq
    refine .pure ?_
    rw [marks, ← withoutNulls_append_marksOf]
    exact .mk written sheds
  case noFields =>
    intro i _ _
    rw [fieldElements, fieldElements]
    exact .pure ⟨[], .nil, rfl⟩
  case field =>
    intro i f fs own rest shaped sub
    have mem := sub (List.mem_cons_self ..)
    rw [fieldElements_cons, fieldElements_cons]
    refine (shaped.alike_ownElements mem fun c read => ?_).bind fun all left first => ?_
    · obtain ⟨fits, inner⟩ := shaped.fits mem read
      exact own c read fits inner
    obtain ⟨c, shed, read, sheds, rfl⟩ := first
    refine (rest shaped fun g hg => sub (List.mem_cons_of_mem _ hg)).bind fun all' left' more => ?_
    obtain ⟨shed', sheds', rfl⟩ := more
    exact .pure ⟨_, .cons read sheds sheds', (List.filter_append _ _).symm⟩
  case embedded =>
    intro f o kind written fits inner
    obtain ⟨u, embeds⟩ := kind_eq_embedded.1 kind
    rw [contentElements_embedded embeds, contentElements_embedded embeds]
    rw [embeds] at fits
    cases fits with
    | embedded type =>
      exact (written u (inner o (List.mem_singleton_self o)) type).imp fun _ _ => .embedded embeds
  case entity =>
    intro f o kind written fits inner
    obtain ⟨u, nests⟩ := kind_eq_entity.1 kind
    rw [contentElements_entity nests, contentElements_entity nests]
    rw [nests] at fits
    cases fits with
    | entity type =>
      exact (written u (inner o (List.mem_singleton_self o)) type).bind fun _ _ sheds =>
        .pure (.entity nests sheds)
  case embeddables =>
    intro f os kind written fits inner
    generalize lists : f.type = T at fits
    cases fits with
    | embeddables types =>
      rw [contentElements_embeddables lists, contentElements_embeddables lists]
      exact (written _ fun o ho => ⟨types o ho, inner o ho⟩).bind fun _ _ sheds =>
        .pure (.embeddables lists sheds)
  case value =>
    intro f c embedded entity collection fits inner
    rw [contentElements.eq_4 _ _ _ embedded entity collection,
      contentElements.eq_4 _ _ _ embedded entity collection]
    exact alike_leafElements (fits.leaf embedded entity collection)
  case noRecords =>
    intro t _
    rw [objectRecords, objectRecords]
    exact .pure .nil
  case record =>
    intro t o os first rest all
    rw [objectRecords, objectRecords]
    obtain ⟨one, others⟩ := List.forall_mem_cons.1 all
    exact (first one.2 one.1).bind fun _ _ sheds => (rest others).bind fun _ _ more =>
      .pure (.cons sheds more)

/-- Writing nulls only adds them. With nulls and without, an instance that is as its types declare
it fails to be written with one error, or is written both times: without nulls, as what is left of
its elements after nulls are shed, which is one thing only. The types that are loaded are the
same. -/
theorem nulls_are_only_added (shaped : Shaped env.catalog family i) {r : Registry}
    (reached : Reachable env r) :
    (∃ e s, ((env.withNulls true).elements i i.type).run r = (.error e, s) ∧
      ((env.withNulls false).elements i i.type).run r = (.error e, s)) ∨
    ∃ all left s, ((env.withNulls true).elements i i.type).run r = (.ok all, s) ∧
      ((env.withNulls false).elements i i.type).run r = (.ok left, s) ∧
      Sheds env i.type i all left ∧ ∀ shed, Sheds env i.type i all shed → shed = left := by
  obtain failed | ⟨all, left, s, run, run', sheds, -⟩ :=
    (alike_elements env family).1 i i.type shaped rfl r reached.consistent
  · exact .inl failed
  · exact .inr ⟨all, left, s, run, run', sheds, fun shed h => h.unique sheds⟩

/-- What is written for someone without a nickname, as long as nulls are left out. -/
def Household.adaElements : Elements :=
  [("motto", .text "Onward"), ("city", .text "London"),
    ("pet", .record [("name", .text "Rex"), ("dtype", .text "dog")]),
    ("former", .list [.record [("city", .text "Marylebone")], .record [("city", .text "Kirkby")]])]

open Household in
theorem nulls_are_only_added_ada :
    Shaped environment.catalog types ada ∧ Reachable environment {} ∧
      (((environment.withNulls false).elements ada person).run {}).1 = .ok adaElements ∧
      Sheds environment person ada (("nickname", .null) :: adaElements) adaElements := by
  have written : (((environment.withNulls true).elements ada person).run {}).1 =
      .ok (("nickname", .null) :: adaElements) := by
    cbv
  have unwritten : (((environment.withNulls false).elements ada person).run {}).1 =
      .ok adaElements := by
    cbv
  obtain ⟨e, s, failed, -⟩ | ⟨all, left, s, run, run', sheds, -⟩ :=
    nulls_are_only_added shaped_ada (.empty : Reachable environment {})
  · have failed : (((environment.withNulls true).elements ada person).run {}).1 = .error e :=
      congrArg Prod.fst failed
    cases written.symm.trans failed
  · cases written.symm.trans (congrArg Prod.fst run)
    cases unwritten.symm.trans (congrArg Prod.fst run')
    exact ⟨shaped_ada, .empty, unwritten, sheds⟩

end EntityMapping
