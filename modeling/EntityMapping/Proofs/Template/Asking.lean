import EntityMapping.Proofs.Query.Spelling
import EntityMapping.Proofs.Template.ById

/-!
Asking for an id. The argument of a look-up becomes a clause on the id of the type, or, converted
first, one on the key of the first variant that has an id. Where the name of the id leads to the id,
an argument that stands for a native value asks what the value itself asks, whether the type has
been loaded before or not, and whether it can be loaded at all.
-/

namespace EntityMapping

open Effect Environment Registry Schema

variable {env : Environment} {c c' : Context} {t : TypeRef} {m : Metadata} {f : MappedField}
  {path : String} {T : AttributeType} {initial : T.Carrier} {a : QueryArgument} {v : Value}

/-- The id of a type, if the type is accepted and has one. -/
def Environment.idOf? (env : Environment) (t : TypeRef) : Option MappedField :=
  (Schema.build env.catalog env.config t).toOption.bind Metadata.id?

/-- What the ids of a type are compared with, and the path that leads there. -/
inductive SoughtBy (env : Environment) (t : TypeRef) (m : Metadata) :
    MappedField → String → Prop where
  /-- Its own id, by a name that no path through objects is spelled like. -/
  | own {f : MappedField} (isId : m.id? = some f)
      (distinctive : Distinctive env.catalog env.config t f) : SoughtBy env t m f f.field
  /-- Without an id of its own, the id of the first variant that has one, by its key. -/
  | ofVariant {f : MappedField} (noId : m.id? = none)
      (first : m.variants.findSome? env.idOf? = some f) : SoughtBy env t m f f.key

namespace Mapping

theorem Used.run_load_eq_ok (used : Used env c) (run : (load t).run c = (.ok m, c')) :
    Used env c' ∧ c'.registry.find? t = some m := by
  obtain ⟨rfl, reached⟩ := used
  obtain ⟨r, loaded, rfl⟩ := run_ofLoading_eq_ok.1 run
  have after : ((c.environment.load t).run c.registry).2 = r := congrArg Prod.snd loaded
  exact ⟨⟨rfl, after ▸ .load reached t⟩, (reached.consistent.grown_load loaded).2 m rfl⟩

theorem Used.variants_loaded (used : Used env c) (found : c.registry.find? t = some m) :
    ∀ w ∈ m.variants, w ∈ c.registry.loaded.map (·.type) :=
  used.2.consistent.stacked.variants_loaded (find?_of_some found).1

theorem run_variantId (used : Used env c) {vs : List TypeRef}
    (loaded : ∀ w ∈ vs, w ∈ c.registry.loaded.map (·.type)) :
    (Persisting.variantId vs).run c = (.ok (vs.findSome? env.idOf?), c) := by
  induction vs with
  | nil => rfl
  | cons w vs ih =>
    obtain ⟨n, found⟩ := exists_find? (loaded w (List.mem_cons_self ..))
    have own : env.idOf? w = n.id? := by
      rw [idOf?, used.2.consistent.build_find? found]
      rfl
    rw [Persisting.variantId, run_bind_of_ok (run_load_of_found found), List.findSome?_cons, own]
    cases n.id? with
    | some f => rfl
    | none => exact ih fun u mem => loaded u (List.mem_cons_of_mem _ mem)

/-- The clause of a look-up has the condition that the path leads to the native value. -/
theorem exists_run_idClause (used : Used env c) (found : c.registry.find? t = some m)
    (sought : SoughtBy env t m f path) (type : f.type = .plain T initial)
    (spelled : T.isSpelled = true) (stands : QueryArgument.StandsFor T v a) :
    ∃ d, (Persisting.idClause t a).run c = (.ok d, c) ∧ d.join = .both ∧
      d.condition m env.converters =
        (Clause.equals path (.native v)).condition m env.converters := by
  cases sought with
  | own isId distinctive =>
    have looked : (Persisting.idLookup t a).run c = (.ok (f.field, a), c) := by
      rw [Persisting.idLookup, run_bind_of_ok (run_load_of_found found), isId]
      rfl
    have built := used.2.consistent.built_find? found
    have leaf : f.type.element? = none := by
      rw [type]
      rfl
    have entry := built.findNative?_field (List.mem_of_find?_eq_some isId) leaf distinctive
    refine ⟨.equals f.field a, ?_, rfl, ?_⟩
    · rw [Persisting.idClause, run_bind_of_ok looked]
      rfl
    · exact Clause.condition_withNatives (c := .equals f.field a) spelled entry type
        (Clause.operator_equals_ne _ _) (.cons stands .nil)
  | ofVariant noId first =>
    have variant := run_variantId used (used.variants_loaded found)
    obtain ⟨rfl, reached⟩ := used
    have converted : a.toNative c.environment.converters f = .ok v := stands.toNative spelled type
    have looked : (Persisting.idLookup t a).run c = (.ok (f.key, .native v), c) := by
      rw [Persisting.idLookup, run_bind_of_ok (run_load_of_found found), noId]
      show ((Persisting.variantId m.variants) >>= _).run c = _
      rw [run_bind_of_ok variant, first]
      show (ofExcept (a.toNative c.environment.converters f) >>= _).run c = _
      rw [converted]
      rfl
    refine ⟨.equals f.key (.native v), ?_, rfl, rfl⟩
    rw [Persisting.idClause, run_bind_of_ok looked]
    rfl

/-- The query that a clause on a type makes. -/
def asking {α : Type} (query : Metadata → Converters → Clause → Except MapperError α) (t : TypeRef)
    (d : Clause) : Mapping α := do
  let m ← load t
  ofExcept (query m (← converters) d)

theorem run_asking_of_found {α : Type}
    {query : Metadata → Converters → Clause → Except MapperError α} (used : Used env c)
    (found : c.registry.find? t = some m) (d : Clause) :
    (asking query t d).run c = (ofExcept (query m env.converters d)).run c := by
  obtain ⟨rfl, reached⟩ := used
  rw [asking, run_bind_of_ok (run_load_of_found found)]
  rfl

/-- A query sees only the condition of a clause and how it is joined. -/
def SeesCondition {α : Type} (query : Metadata → Converters → Clause → Except MapperError α) :
    Prop :=
  ∀ m cs c d, c.condition m cs = d.condition m cs → c.join = d.join → query m cs c = query m cs d

/-- A look-up for an argument makes the query that the path leads to the native value. -/
theorem run_idClause_asking {α : Type}
    {query : Metadata → Converters → Clause → Except MapperError α} (sees : SeesCondition query)
    (used : Used env c) (build : Schema.build env.catalog env.config t = .ok m)
    (sought : SoughtBy env t m f path) (type : f.type = .plain T initial)
    (spelled : T.isSpelled = true) (stands : QueryArgument.StandsFor T v a) :
    (Persisting.idClause t a >>= asking query t).run c =
      (asking query t (.equals path (.native v))).run c := by
  rcases load : (Mapping.load t).run c with ⟨e | n, c'⟩
  · -- The type cannot be loaded, and neither of the two comes further.
    have looked : (Persisting.idClause t a).run c = (.error e, c') := by
      rw [Persisting.idClause, Persisting.idLookup, run_bind, run_bind, load]
    rw [run_bind, looked, asking, run_bind, load]
  · obtain ⟨used', found⟩ := used.run_load_eq_ok load
    obtain rfl : n = m := Except.ok.inj ((used'.2.consistent.build_find? found).symm.trans build)
    have again := load.trans (run_load_of_found found).symm
    obtain ⟨d, looked, join, condition⟩ :=
      exists_run_idClause used' found sought type spelled stands
    calc (Persisting.idClause t a >>= asking query t).run c
        = (Persisting.idClause t a >>= asking query t).run c' :=
          run_bind_congr (run_bind_congr (run_bind_congr again))
      _ = (asking query t d).run c' := run_bind_of_ok looked
      _ = (asking query t (.equals path (.native v))).run c' := by
          rw [run_asking_of_found used' found, run_asking_of_found used' found,
            sees _ _ _ _ condition join]
      _ = (asking query t (.equals path (.native v))).run c := (run_bind_congr again).symm

theorem seesCondition_ofCalls : SeesCondition fun m cs d => SelectQuery.ofCalls m cs [.filter d] :=
  fun _ _ _ _ same join => SelectQuery.ofCalls_replace same join [] []

theorem seesCondition_ofClauses : SeesCondition fun m cs d => DeleteQuery.ofClauses m cs [d] :=
  fun _ _ _ _ same join => DeleteQuery.ofClauses_replace same join [] []

end Mapping

namespace Persisting

variable {α β : Type} {tp : Template}

theorem run_ofMapping_congr {x y : Mapping α} (h : x.run tp.context = y.run tp.context) :
    (ofMapping x).run tp = (ofMapping y).run tp := by
  rw [run_ofMapping, run_ofMapping, h]

theorem run_ofMapping_bind (x : Mapping α) (f : α → Mapping β) (tp : Template) :
    (ofMapping x >>= fun a => ofMapping (f a)).run tp = (ofMapping (x >>= f)).run tp := by
  rw [run_bind, run_ofMapping, run_ofMapping, run_bind]
  rcases x.run tp.context with ⟨e | a, c⟩
  · rfl
  · exact run_ofMapping (f a) _

theorem run_idClause_bind {query : Metadata → Converters → Clause → Except MapperError α}
    (sees : Mapping.SeesCondition query) (used : Mapping.Used env tp.context)
    (build : Schema.build env.catalog env.config t = .ok m) (sought : SoughtBy env t m f path)
    (type : f.type = .plain T initial) (spelled : T.isSpelled = true)
    (stands : QueryArgument.StandsFor T v a) (next : α → Persisting β) :
    (ofMapping (idClause t a) >>= fun d => ofMapping (Mapping.asking query t d) >>= next).run tp =
      (ofMapping (Mapping.asking query t (.equals path (.native v))) >>= next).run tp := by
  rw [← bind_assoc]
  refine run_bind_congr ((run_ofMapping_bind _ _ tp).trans (run_ofMapping_congr ?_))
  exact Mapping.run_idClause_asking sees used build sought type spelled stands

theorem exists_single (t : TypeRef) : ∃ next : SelectQuery → Persisting (Option Instance),
    ∀ calls, single t calls = ofMapping (selectQuery t calls) >>= next :=
  ⟨_, fun _ => bind_assoc ..⟩

/-- To find what an argument asks for is to find what the native value asks for. -/
theorem run_findById_of_standsFor (used : Mapping.Used env tp.context)
    (build : Schema.build env.catalog env.config t = .ok m) (sought : SoughtBy env t m f path)
    (type : f.type = .plain T initial) (spelled : T.isSpelled = true)
    (stands : QueryArgument.StandsFor T v a) :
    (findById t a).run tp = (single t [.filter (.equals path (.native v))]).run tp := by
  obtain ⟨next, single_eq⟩ := exists_single t
  rw [findById]
  simp only [single_eq]
  exact run_idClause_bind Mapping.seesCondition_ofCalls used build sought type spelled stands next

theorem run_deleteById_of_standsFor (used : Mapping.Used env tp.context)
    (build : Schema.build env.catalog env.config t = .ok m) (sought : SoughtBy env t m f path)
    (type : f.type = .plain T initial) (spelled : T.isSpelled = true)
    (stands : QueryArgument.StandsFor T v a) :
    (deleteById t a).run tp = (delete t [.equals path (.native v)]).run tp :=
  run_idClause_bind Mapping.seesCondition_ofClauses used build sought type spelled stands runDelete

end Persisting

/-- For an attribute of integers or of truth values, texts stand for the values that they spell.
Where a value can be written, its native form is stored as it is, and exactly the texts that spell
the value, what the form is displayed as among them, are stored as this form. So a clause whose
path leads to such an attribute compares with native values where its arguments spell them,
patterns apart, and may have these for its arguments; and to find or to delete by an id is to ask
for the native value, however the id is spelled. -/
theorem texts_stand_for_values (T : AttributeType) (spelled : T.isSpelled = true) :
    (∀ (x : T.Carrier) (v : Value), T.toValue x = .ok v →
      T.coerce v = .ok v ∧ T.SpelledBy x v.display ∧
        ∀ s, T.coerce (.text s) = .ok v ↔ T.SpelledBy x s) ∧
    (∀ (m : Metadata) (cs : Converters) (c : Clause) (p : NativePath) (initial : T.Carrier)
        (vs : List Value), m.findNative? c.path = some p → p.field.type = .plain T initial →
      c.operator ≠ .like → List.Forall₂ (QueryArgument.StandsFor T) vs c.arguments →
        c.comparison m cs = .ok (.compare c.operator p.native (Clause.operand c.operator vs)) ∧
        (∀ before after, SelectQuery.ofCalls m cs (before ++ .filter c :: after) =
          SelectQuery.ofCalls m cs (before ++ .filter (c.withNatives vs) :: after)) ∧
        ∀ before after, DeleteQuery.ofClauses m cs (before ++ c :: after) =
          DeleteQuery.ofClauses m cs (before ++ c.withNatives vs :: after)) ∧
    ∀ (env : Environment) (tp : Template) (t : TypeRef) (m : Metadata) (f : MappedField)
        (path : String) (initial : T.Carrier) (v : Value) (a : QueryArgument),
      Mapping.Used env tp.context → Schema.build env.catalog env.config t = .ok m →
      SoughtBy env t m f path → f.type = .plain T initial → QueryArgument.StandsFor T v a →
        (Persisting.findById t a).run tp = (Persisting.findById t (.native v)).run tp ∧
        (Persisting.findById t (.native v)).run tp =
          (Persisting.single t [.filter (.equals path (.native v))]).run tp ∧
        (Persisting.deleteById t a).run tp = (Persisting.deleteById t (.native v)).run tp ∧
        (Persisting.deleteById t (.native v)).run tp =
          (Persisting.delete t [.equals path (.native v)]).run tp := by
  refine ⟨fun x v written => ⟨?_, ?_, fun s => ?_⟩, ?_, ?_⟩
  · exact AttributeType.coerce_written spelled written
  · exact AttributeType.spelledBy_display spelled written
  · exact AttributeType.coerce_text_eq_ok_iff spelled written
  · intro m cs c p initial vs indexed type noPattern stand
    have same : c.condition m cs = (c.withNatives vs).condition m cs :=
      Clause.condition_withNatives spelled indexed type noPattern stand
    exact ⟨Clause.comparison_of_standsFor spelled indexed type noPattern stand,
      SelectQuery.ofCalls_replace same rfl, DeleteQuery.ofClauses_replace same rfl⟩
  · intro env tp t m f path initial v a used build sought type stands
    have found {b : QueryArgument} (stands : QueryArgument.StandsFor T v b) :=
      Persisting.run_findById_of_standsFor used build sought type spelled stands
    have deleted {b : QueryArgument} (stands : QueryArgument.StandsFor T v b) :=
      Persisting.run_deleteById_of_standsFor used build sought type spelled stands
    exact ⟨(found stands).trans (found stands.self).symm, found stands.self,
      (deleted stands).trans (deleted stands.self).symm, deleted stands.self⟩

/-! ### People, dogs and tickets -/

namespace Showground

def person : TypeRef := ⟨0, "Person"⟩

def pet : TypeRef := ⟨1, "Pet"⟩

def dog : TypeRef := ⟨2, "Dog"⟩

def ticket : TypeRef := ⟨3, "Ticket"⟩

def seat : TypeRef := ⟨4, "Seat"⟩

/-- People with children, dogs that are pets, and tickets whose id is spelled like the row of their
seat. -/
def environment : Environment where
  catalog := {
    valueName := "Value"
    descriptors := [
      { name := "Person", type := person, suppliesInstances := true
        fields := [⟨(Column.of "number").id, .plain .int64 (0 : Int64)⟩,
          ⟨.of "age", .plain .int64 (0 : Int64)⟩, ⟨.of "children", .embeddables person⟩] },
      { name := "Pet", type := pet, polymorphism := some none, variants := [dog] },
      { name := "Dog", type := dog, suppliesInstances := true
        fields := [⟨(Column.of "number").id, .plain .int64 (0 : Int64)⟩]
        inheritance := some ⟨pet, "dog"⟩ },
      { name := "Ticket", type := ticket, suppliesInstances := true
        fields := [⟨(Column.of "seat.row").id, .plain .int64 (0 : Int64)⟩,
          ⟨.of "seat", .entity seat⟩] },
      { name := "Seat", type := seat, suppliesInstances := true
        fields := [⟨.of "row", .plain .value .null⟩] }] }
  config := {}

def start : Template := ⟨{ environment }, {}⟩

theorem used_start : Mapping.Used environment start.context := ⟨rfl, .empty⟩

def idField (name : String) (owner : TypeRef) : MappedField :=
  ⟨"_id", name, true, .plain .int64 (0 : Int64), owner⟩

def ageField : MappedField := ⟨"age", "age", false, .plain .int64 (0 : Int64), person⟩

def childrenField : MappedField := ⟨"children", "children", false, .embeddables person, person⟩

theorem exists_person : ∃ m, Schema.build environment.catalog environment.config person = .ok m ∧
    m.id? = some (idField "number" person) ∧ m.findNative? "age" = some ⟨"age", ageField⟩ := by
  have known : (Schema.build environment.catalog environment.config person).map (fun m =>
      (m.id?, m.findNative? "age")) =
        .ok (some (idField "number" person), some ⟨"age", ageField⟩) := by
    cbv
  obtain ⟨m, build, same⟩ := map_eq_ok_iff.1 known
  simp only [Prod.mk.injEq] at same
  exact ⟨m, build, same⟩

theorem exists_pet : ∃ m, Schema.build environment.catalog environment.config pet = .ok m ∧
    SoughtBy environment pet m (idField "number" dog) "_id" := by
  have known : (Schema.build environment.catalog environment.config pet).map (fun m =>
      (m.id?, m.variants)) = .ok (none, [dog]) := by
    cbv
  have variant : environment.idOf? dog = some (idField "number" dog) := by cbv
  obtain ⟨m, build, same⟩ := map_eq_ok_iff.1 known
  simp only [Prod.mk.injEq] at same
  refine ⟨m, build, .ofVariant same.1 ?_⟩
  rw [same.2, List.findSome?_cons, variant]

def between (low : String) (high : Int64) : Clause where
  join := .both
  path := "age"
  operator := .between
  arguments := [.native (.text low), .native (.integer high)]

theorem spelledBy_twenty : AttributeType.int64.SpelledBy (20 : Int64) " +020\n" :=
  AttributeType.spelledBy_iff.2 (Numeral.int?_eq_some_iff.1 (by cbv))

end Showground

open Showground in
theorem texts_stand_for_values_showground :
    AttributeType.int64.coerce (.text " -09223372036854775808\t") =
      .ok (.integer Int64.minValue) ∧
    (∃ m, Schema.build environment.catalog environment.config person = .ok m ∧
      (between " +020\n" 30).comparison m [] =
        .ok (.compare .between "age" (.list [.integer 20, .integer 30])) ∧
      (Persisting.findById person (.native (.text " +020\n"))).run start =
        (Persisting.findById person (.native (.integer 20))).run start) ∧
    (Persisting.deleteById pet (.native (.text " +020\n"))).run start =
      (Persisting.deleteById pet (.native (.integer 20))).run start := by
  obtain ⟨values, clauses, ids⟩ := texts_stand_for_values .int64 rfl
  have twenty : QueryArgument.StandsFor .int64 (.integer 20) (.native (.text " +020\n")) :=
    .text rfl spelledBy_twenty
  refine ⟨?_, ?_, ?_⟩
  · exact ((values Int64.minValue _ rfl).2.2 _).2
      (AttributeType.spelledBy_iff.2 (Numeral.int?_eq_some_iff.1 (by cbv)))
  · obtain ⟨m, build, isId, indexed⟩ := exists_person
    have distinctive := (built_of_build build).distinctive (List.mem_of_find?_eq_some isId)
      (by decide)
    refine ⟨m, build, ?_, ?_⟩
    · exact (clauses m [] (between " +020\n" 30) _ _ [.integer 20, .integer 30] indexed rfl
        (by decide) (.cons twenty (.cons (.native rfl) .nil))).1
    · exact (ids environment start person m _ _ _ _ _ used_start build (.own isId distinctive) rfl
        twenty).1
  · obtain ⟨m, build, sought⟩ := exists_pet
    exact (ids environment start pet m _ _ _ _ _ used_start build sought rfl twenty).2.2.1

namespace Showground

/-! ### Texts that stay texts -/

def asked (path : String) (v : Value) : Except MapperError (Option Condition) :=
  (Schema.build environment.catalog environment.config person).bind fun m =>
    Condition.ofClauses m [] [.equals path (.native v)]

def askedById (v : Value) : Except MapperError (Option Condition) :=
  ((Persisting.idClause ticket (.native v) >>= fun d =>
    Persisting.selectQuery ticket [.filter d]).run start.context).1.map (·.condition)

end Showground

open Showground in
/-- The path to the ages of children is not indexed, since people are not entered twice, and the
name of the id of a ticket leads to the row of its seat. Ages and ids are integers, but a text does
not ask for the number that it spells there. -/
theorem texts_stay_beyond_index :
    (Way environment.catalog environment.config person [childrenField, ageField] ∧
      ageField.type = .plain .int64 (0 : Int64) ∧
      asked (spelling [childrenField, ageField]) (.text "20") ≠
        asked (spelling [childrenField, ageField]) (.integer 20)) ∧
    (∃ m, Schema.build environment.catalog environment.config ticket = .ok m ∧
      m.id? = some (idField "seat.row" ticket) ∧
      (idField "seat.row" ticket).type = .plain .int64 (0 : Int64) ∧
      askedById (.text "20") ≠ askedById (.integer 20)) ∧
    AttributeType.int64.SpelledBy (20 : Int64) "20" := by
  have path : spelling [childrenField, ageField] = "children.age" := rfl
  have text : asked "children.age" (.text "20") =
      .ok (some (.compare .equals "children.age" (.text "20"))) := by cbv
  have number : asked "children.age" (.integer 20) =
      .ok (some (.compare .equals "children.age" (.integer 20))) := by cbv
  have idText : askedById (.text "20") =
      .ok (some (.compare .equals "seat.row" (.text "20"))) := by cbv
  have idNumber : askedById (.integer 20) =
      .ok (some (.compare .equals "seat.row" (.integer 20))) := by cbv
  refine ⟨⟨?_, rfl, ?_⟩, ?_, ?_⟩
  · exact .step (.tail _ (.tail _ (.head _))) rfl (.last (.tail _ (.head _)))
  · simp [path, text, number]
  · have known : (Schema.build environment.catalog environment.config ticket).map (·.id?) =
        .ok (some (idField "seat.row" ticket)) := by
      cbv
    obtain ⟨m, build, isId⟩ := map_eq_ok_iff.1 known
    refine ⟨m, build, isId, rfl, ?_⟩
    simp [idText, idNumber]
  · exact AttributeType.spelledBy_display (v := .integer 20) rfl rfl

end EntityMapping
