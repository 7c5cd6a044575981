import EntityMapping.Conversion.Vertex
import EntityMapping.Proofs.Instance.Conforms
import EntityMapping.Proofs.Registry.Reachable

/-!
Filling an instance in place. The attributes are written one after the other, so a record of which
one attribute cannot be read has been taken over up to that attribute and no further: an instance
whose filling fails is neither as it was before nor as the record says. Filling from a vertex goes
the same way.
-/

namespace EntityMapping

open Effect Environment Schema

variable {env : Environment} {fresh : List TypeRef} {es : Elements} {i j : Instance}
  {f g : MappedField} {fs : List MappedField} {r s : Registry} {e : MapperError}

/-! ### Slots -/

theorem Instance.find?_setSlot (i : Instance) (field name : String) (s : Slot) :
    (i.setSlot field s).slots.find? name = if name = field then some s else i.slots.find? name :=
  Keyed.find?_put i.slots field name s

theorem Instance.write_eq_ok {c : Content} (h : i.write f c = .ok j) :
    ∃ s, toSlot f c = .ok s ∧ j = i.setSlot f.field s := by
  rw [Instance.write] at h
  split at h
  · cases slot : toSlot f c with
    | error e => rw [slot] at h; cases h
    | ok s =>
      rw [slot] at h
      cases h
      exact ⟨s, rfl, rfl⟩
  · cases h

/-! ### One attribute after the other -/

namespace Environment

/-- The attributes behind others are filled where these have been. -/
theorem run_fillFrom_append {before : List MappedField} (after : List MappedField)
    (h : (env.fillFrom fresh i es before).run r = ((.ok (), j), s)) :
    (env.fillFrom fresh i es (before ++ after)).run r = (env.fillFrom fresh j es after).run s := by
  induction before generalizing i r with
  | nil =>
    rw [run_fillFrom_nil] at h
    cases h
    rfl
  | cons f before ih =>
    rw [List.cons_append]
    rcases one : (env.contentFrom fresh f es).run r with ⟨e | c, u⟩
    · rw [run_fillFrom_of_error one] at h
      cases h
    · cases c with
      | none =>
        rw [run_fillFrom_of_none one] at h ⊢
        exact ih h
      | some c =>
        cases written : i.write f c with
        | error e =>
          rw [run_fillFrom_of_refused one written] at h
          cases h
        | ok k =>
          rw [run_fillFrom_of_some one written] at h ⊢
          exact ih h

/-- Filling fails exactly if it fails at an attribute after having filled those before it. -/
theorem run_fillFrom_eq_error :
    (∃ s, (env.fillFrom fresh i es fs).run r = ((.error e, j), s)) ↔
      ∃ before f after u, fs = before ++ f :: after ∧
        (env.fillFrom fresh i es before).run r = ((.ok (), j), u) ∧
        ∃ s, (env.fillFrom fresh j es [f]).run u = ((.error e, j), s) := by
  constructor
  · rintro ⟨s, run⟩
    induction fs generalizing i r with
    | nil =>
      rw [run_fillFrom_nil] at run
      cases run
    | cons f fs ih =>
      rcases one : (env.contentFrom fresh f es).run r with ⟨e' | c, u⟩
      · rw [run_fillFrom_of_error one] at run
        cases run
        exact ⟨[], f, fs, r, rfl, run_fillFrom_nil, _, run_fillFrom_of_error one⟩
      · cases c with
        | none =>
          rw [run_fillFrom_of_none one] at run
          obtain ⟨before, g, after, w, rfl, filled, fails⟩ := ih run
          refine ⟨f :: before, g, after, w, rfl, ?_, fails⟩
          rw [run_fillFrom_of_none one, filled]
        | some c =>
          cases written : i.write f c with
          | error e' =>
            rw [run_fillFrom_of_refused one written] at run
            cases run
            exact ⟨[], f, fs, r, rfl, run_fillFrom_nil, _, run_fillFrom_of_refused one written⟩
          | ok k =>
            rw [run_fillFrom_of_some one written] at run
            obtain ⟨before, g, after, w, rfl, filled, fails⟩ := ih run
            refine ⟨f :: before, g, after, w, rfl, ?_, fails⟩
            rw [run_fillFrom_of_some one written, filled]
  · rintro ⟨before, f, after, u, rfl, filled, s, fails⟩
    refine ⟨s, ?_⟩
    rw [run_fillFrom_append _ filled]
    rcases one : (env.contentFrom fresh f es).run u with ⟨e' | c, w⟩
    · rw [run_fillFrom_of_error one] at fails ⊢
      exact fails
    · cases c with
      | none =>
        rw [run_fillFrom_of_none one, run_fillFrom_nil] at fails
        cases fails
      | some c =>
        cases written : j.write f c with
        | error e' =>
          rw [run_fillFrom_of_refused one written] at fails ⊢
          exact fails
        | ok k =>
          rw [run_fillFrom_of_some one written, run_fillFrom_nil] at fails
          cases fails

/-- Filling changes the slots of the attributes that it is about only. -/
theorem find?_slots_fillFrom {answer : Except MapperError Unit}
    (run : (env.fillFrom fresh i es fs).run r = ((answer, j), s)) {name : String}
    (other : ∀ f ∈ fs, f.field ≠ name) : j.slots.find? name = i.slots.find? name := by
  induction fs generalizing i r with
  | nil =>
    rw [run_fillFrom_nil] at run
    cases run
    rfl
  | cons f fs ih =>
    have later : ∀ f ∈ fs, f.field ≠ name := fun g hg => other g (List.mem_cons_of_mem _ hg)
    rcases one : (env.contentFrom fresh f es).run r with ⟨e | c, u⟩
    · rw [run_fillFrom_of_error one] at run
      cases run
      rfl
    · cases c with
      | none =>
        rw [run_fillFrom_of_none one] at run
        exact ih run later
      | some c =>
        cases written : i.write f c with
        | error e =>
          rw [run_fillFrom_of_refused one written] at run
          cases run
          rfl
        | ok k =>
          rw [run_fillFrom_of_some one written] at run
          obtain ⟨slot, -, rfl⟩ := Instance.write_eq_ok written
          rw [ih run later, Instance.find?_setSlot,
            if_neg (Ne.symm (other f (List.mem_cons_self ..)))]

/-- After filling, the slot of an attribute with a value holds what the record says of it. Where the
record does not mention the attribute, or a converter is given null, the slot is as before. -/
def TakenOver (env : Environment) (es : Elements) (i j : Instance) (f : MappedField) : Prop :=
  match es.find? f.key with
  | none => j.slots.find? f.field = i.slots.find? f.field
  | some v => ∃ content, env.contentOf f v = .ok content ∧
    match content with
    | none => j.slots.find? f.field = i.slots.find? f.field
    | some c => ∃ s, Instance.toSlot f c = .ok s ∧ j.slots.find? f.field = some s

theorem run_contentFrom_leaf (leaf : f.type.element? = none) :
    (env.contentFrom fresh f es).run r =
      (match es.find? f.key with
        | none => .ok none
        | some v => env.contentOf f v, r) := by
  rw [contentFrom_leaf leaf]
  cases es.find? f.key with
  | none => rfl
  | some v =>
    dsimp only
    cases env.contentOf f v <;> rfl

/-- Filling one attribute with a value takes it over from the record. -/
theorem takenOver_of_single (leaf : f.type.element? = none)
    (run : (env.fillFrom fresh i es [f]).run r = ((.ok (), j), s)) : TakenOver env es i j f := by
  have one : (env.contentFrom fresh f es).run r =
      (match es.find? f.key with
        | none => .ok none
        | some v => env.contentOf f v, r) := run_contentFrom_leaf leaf
  rw [TakenOver]
  cases found : es.find? f.key with
  | none =>
    rw [found] at one
    rw [run_fillFrom_of_none one, run_fillFrom_nil] at run
    cases run
    rfl
  | some v =>
    rw [found] at one
    dsimp only at one ⊢
    cases content : env.contentOf f v with
    | error e =>
      rw [content] at one
      rw [run_fillFrom_of_error one] at run
      cases run
    | ok c =>
      rw [content] at one
      refine ⟨c, rfl, ?_⟩
      cases c with
      | none =>
        rw [run_fillFrom_of_none one, run_fillFrom_nil] at run
        cases run
        rfl
      | some c =>
        cases written : i.write f c with
        | error e =>
          rw [run_fillFrom_of_refused one written] at run
          cases run
        | ok k =>
          rw [run_fillFrom_of_some one written, run_fillFrom_nil] at run
          cases run
          obtain ⟨slot, made, rfl⟩ := Instance.write_eq_ok written
          exact ⟨slot, made, by rw [Instance.find?_setSlot, if_pos rfl]⟩

theorem TakenOver.congr {i' j' : Instance} (h : TakenOver env es i j f)
    (before : i.slots.find? f.field = i'.slots.find? f.field)
    (after : j'.slots.find? f.field = j.slots.find? f.field) : TakenOver env es i' j' f := by
  rw [TakenOver, after, ← before]
  exact h

/-- Attributes are filled together where they are filled in two parts. -/
theorem run_fillFrom_append_eq_ok {before after : List MappedField}
    (run : (env.fillFrom fresh i es (before ++ after)).run r = ((.ok (), j), s)) :
    ∃ k u, (env.fillFrom fresh i es before).run r = ((.ok (), k), u) ∧
      (env.fillFrom fresh k es after).run u = ((.ok (), j), s) := by
  rcases first : (env.fillFrom fresh i es before).run r with ⟨⟨e | x, k⟩, u⟩
  · obtain ⟨done, f, rest, w, rfl, filled, fails⟩ := run_fillFrom_eq_error.1 ⟨u, first⟩
    rw [List.append_assoc, List.cons_append] at run
    obtain ⟨s', error⟩ := run_fillFrom_eq_error.2
      ⟨done, f, rest ++ after, w, rfl, filled, fails⟩
    rw [run] at error
    cases error
  · exact ⟨k, u, rfl, (run_fillFrom_append after first).symm.trans run⟩

/-- Every attribute with a value is taken over where all attributes are filled. -/
theorem takenOver_of_fillFrom
    (run : (env.fillFrom fresh i es fs).run r = ((.ok (), j), s))
    (names : fs.Pairwise fun f g => f.field ≠ g.field) (mem : f ∈ fs)
    (leaf : f.type.element? = none) : TakenOver env es i j f := by
  obtain ⟨before, after, rfl⟩ := List.append_of_mem mem
  obtain ⟨-, later, apart⟩ := List.pairwise_append.1 names
  obtain ⟨k, u, first, rest⟩ := run_fillFrom_append_eq_ok run
  have one : (env.fillFrom fresh k es ([f] ++ after)).run u = ((.ok (), j), s) := rest
  obtain ⟨l, w, own, last⟩ := run_fillFrom_append_eq_ok one
  refine (takenOver_of_single leaf own).congr ?_ ?_
  · exact find?_slots_fillFrom first fun g hg => apart g hg f (List.mem_cons_self ..)
  · exact find?_slots_fillFrom last fun g hg => ((List.pairwise_cons.1 later).1 g hg).symm

/-- Filling an instance with the elements of a record fails at an attribute. Those before it have
been filled, and have taken over what the record says of them; the slots of the others, also of the
one that fails, are as they were. -/
structure FailsAt (env : Environment) (r : Registry) (es : Elements) (i : Instance)
    (before : List MappedField) (f : MappedField) (after : List MappedField) (e : MapperError)
    (j : Instance) : Prop where
  fails : ∃ u, (env.fillFrom env.catalog.types i es before).run r = ((.ok (), j), u) ∧
    ∃ s, (env.fillFrom env.catalog.types j es [f]).run u = ((.error e, j), s)
  taken : ∀ g ∈ before, g.type.element? = none → TakenOver env es i j g
  kept : ∀ g ∈ f :: after, j.slots.find? g.field = i.slots.find? g.field

theorem run_fillFrom_eq_error_failsAt (names : fs.Pairwise fun f g => f.field ≠ g.field) :
    (∃ s, (env.fillFrom env.catalog.types i es fs).run r = ((.error e, j), s)) ↔
      ∃ before f after, fs = before ++ f :: after ∧ FailsAt env r es i before f after e j := by
  constructor
  · intro fails
    obtain ⟨before, f, after, u, rfl, filled, fails⟩ := run_fillFrom_eq_error.1 fails
    obtain ⟨names', -, apart⟩ := List.pairwise_append.1 names
    refine ⟨before, f, after, rfl, ⟨u, filled, fails⟩, fun g hg leaf => ?_, fun g hg => ?_⟩
    · exact takenOver_of_fillFrom filled names' hg leaf
    · exact find?_slots_fillFrom filled fun h hh => apart h hh g hg
  · rintro ⟨before, f, after, rfl, ⟨u, filled, fails⟩, -, -⟩
    exact run_fillFrom_eq_error.2 ⟨before, f, after, u, rfl, filled, fails⟩

end Environment

/-! ### Records and vertices -/

/-- The record that a vertex stands for, with its id under the id key of a type. -/
def Vertex.recordFor (v : Vertex) (m : Metadata) : Except MapperError Record :=
  let r := Record.ofElements v.label v.properties
  match v.id, m.id? with
  | none, _ => .ok r
  | some id, some f => .ok (r.add f.key id)
  | some _, none => .error (.vertexWithoutId v.label m.type.name)

namespace Mapping

theorem run_toEntityInto {c : Context} {t : TypeRef} {m : Metadata}
    (loaded : c.registry.find? t = some m) (concrete : m.isPolymorphic = false) (i : Instance)
    (r : Record) :
    (toEntityInto t i r).run c =
      let filled := (c.environment.fillFrom c.environment.catalog.types i r.elements m.fields).run
        c.registry
      (filled.1, { c with registry := filled.2 }) := by
  rw [toEntityInto]
  show StateT.run (_ >>= _) c = _
  rw [StateT.run_bind, show StateT.run (ExceptT.run (load t)) c = _ from run_load_of_found loaded]
  show StateT.run (if m.isPolymorphic = true then _ else _) c = _
  rw [concrete, if_neg Bool.false_ne_true]
  rfl

/-- The record behind a vertex, for a type that is not polymorphic. -/
theorem run_recordOfVertex {m : Metadata} (concrete : m.isPolymorphic = false) (v : Vertex)
    (c : Context) : (recordOfVertex m v).run c = (v.recordFor m, c) := by
  have single : m.polymorphism = none := by simpa [Metadata.isPolymorphic] using concrete
  rw [recordOfVertex, Vertex.recordFor]
  cases v.id with
  | none => rfl
  | some id =>
    have reading : (ofLoading fun _ =>
        readingMetadata m (Record.ofElements v.label v.properties).elements).run c =
          (.ok m, c) := by
      rw [run_ofLoading, readingMetadata, single]
      rfl
    dsimp only
    rw [run_bind_of_ok reading]
    cases m.id? <;> rfl

theorem run_ofVertexInto {c : Context} {t : TypeRef} {m : Metadata}
    (loaded : c.registry.find? t = some m) (concrete : m.isPolymorphic = false) (i : Instance)
    (v : Vertex) :
    (ofVertexInto t i v).run c =
      match v.recordFor m with
      | .error e => ((.error e, i), c)
      | .ok r => (toEntityInto t i r).run c := by
  have record : (do
      let m ← load t
      recordOfVertex m v : Mapping Record).run c = (v.recordFor m, c) := by
    rw [run_bind_of_ok (run_load_of_found loaded), run_recordOfVertex concrete]
  rw [ofVertexInto]
  show StateT.run (_ >>= _) c = _
  rw [StateT.run_bind,
    show StateT.run (ExceptT.run (load t >>= fun m => recordOfVertex m v)) c = _ from record]
  cases v.recordFor m <;> rfl

end Mapping

/-- Filling an instance from a record fails exactly at an attribute, and leaves the attributes
before it filled and the others as they were. Filling from a vertex fails in the same way, or before
any attribute because the type has no place for the id of the vertex. -/
theorem failed_filling_stops_at_attribute (env : Environment) (c : Context)
    (used : Mapping.Used env c) (t : TypeRef) (m : Metadata)
    (loaded : c.registry.find? t = some m) (concrete : m.isPolymorphic = false) (i : Instance) :
    (∀ r e j, (∃ c', (Mapping.toEntityInto t i r).run c = ((.error e, j), c')) ↔
      ∃ before f after, m.fields = before ++ f :: after ∧
        FailsAt env c.registry r.elements i before f after e j) ∧
    ∀ v e j, (∃ c', (Mapping.ofVertexInto t i v).run c = ((.error e, j), c')) ↔
      v.recordFor m = .error e ∧ j = i ∨
        ∃ r before f after, v.recordFor m = .ok r ∧ m.fields = before ++ f :: after ∧
          FailsAt env c.registry r.elements i before f after e j := by
  obtain ⟨rfl, reached⟩ := used
  have names : m.fields.Pairwise fun f g => f.field ≠ g.field :=
    (reached.consistent.built_find? loaded).apart.imp And.left
  have record : ∀ r e j, (∃ c', (Mapping.toEntityInto t i r).run c = ((.error e, j), c')) ↔
      ∃ before f after, m.fields = before ++ f :: after ∧
        FailsAt c.environment c.registry r.elements i before f after e j := by
    intro r e j
    rw [← run_fillFrom_eq_error_failsAt names, Mapping.run_toEntityInto loaded concrete]
    constructor
    · rintro ⟨c', run⟩
      exact ⟨_, Prod.ext (Prod.mk.inj run).1 rfl⟩
    · rintro ⟨s, run⟩
      dsimp only
      rw [run]
      exact ⟨_, rfl⟩
  refine ⟨record, fun v e j => ?_⟩
  rw [Mapping.run_ofVertexInto loaded concrete]
  cases stands : v.recordFor m with
  | error e' =>
    constructor
    · rintro ⟨c', run⟩
      cases run
      exact .inl ⟨rfl, rfl⟩
    · rintro (⟨same, rfl⟩ | ⟨r, before, f, after, same, -⟩)
      · cases same
        exact ⟨c, rfl⟩
      · cases same
  | ok r =>
    refine (record r e j).trans ?_
    constructor
    · rintro ⟨before, f, after, fields, fails⟩
      exact .inr ⟨r, before, f, after, rfl, fields, fails⟩
    · rintro (⟨same, -⟩ | ⟨r', before, f, after, same, fields, fails⟩)
      · cases same
      · cases same
        exact ⟨before, f, after, fields, fails⟩

/-! ### A roster -/

namespace Roster

def person : TypeRef := ⟨0, "Person"⟩

/-- People with a name and an age. -/
def environment : Environment where
  catalog := {
    valueName := "Value"
    descriptors := [
      { name := "Person", type := person, suppliesInstances := true
        fields := [⟨.of "name", .plain .string ""⟩, ⟨.of "age", .plain .int64 (0 : Int64)⟩] }] }
  config := {}

def context : Context := { environment, registry := ((environment.load person).run {}).2 }

theorem used_context : Mapping.Used environment context := ⟨rfl, .load .empty person⟩

def named (name : String) : Instance :=
  .mk person [("name", .plain .string name), ("age", .plain .int64 (3 : Int64))] none

def misspelt : Record := ⟨"Person", [("name", .text "Ada"), ("age", .text "old")]⟩

theorem exists_loaded : ∃ m, context.registry.find? person = some m ∧ m.isPolymorphic = false := by
  have known : (context.registry.find? person).map (·.isPolymorphic) = some false := by cbv
  exact Option.map_eq_some_iff.1 known

theorem run_misspelt :
    ((Mapping.toEntityInto person (named "Bob") misspelt).run context).1 =
      (.error (.notConvertible "TEXT" "old" "i64"), named "Ada") := by
  cbv

end Roster

open Roster in
/-- The name of a person is taken over before the age fails. -/
theorem failed_filling_stops_at_attribute_age :
    ∃ m, Mapping.Used environment context ∧ context.registry.find? person = some m ∧
      m.isPolymorphic = false ∧
      ∃ before f after, m.fields = before ++ f :: after ∧
        FailsAt environment context.registry misspelt.elements (named "Bob") before f after
          (.notConvertible "TEXT" "old" "i64") (named "Ada") := by
  obtain ⟨m, loaded, concrete⟩ := exists_loaded
  refine ⟨m, used_context, loaded, concrete, ?_⟩
  exact ((failed_filling_stops_at_attribute environment context used_context person m loaded
    concrete (named "Bob")).1 misspelt _ _).1 ⟨_, Prod.ext run_misspelt rfl⟩

open Roster in
/-- Not every filling that fails leaves the attributes as they were. -/
theorem failed_filling_changes_attributes :
    ¬ ∀ (env : Environment) (c c' : Context) (t : TypeRef) (m : Metadata) (i j : Instance)
      (r : Record) (e : MapperError), Mapping.Used env c → c.registry.find? t = some m →
      m.isPolymorphic = false → (Mapping.toEntityInto t i r).run c = ((.error e, j), c') →
      ∀ name, j.slots.find? name = i.slots.find? name := by
  intro restored
  obtain ⟨m, loaded, concrete⟩ := exists_loaded
  have same := restored environment context _ person m (named "Bob") (named "Ada") misspelt _
    used_context loaded concrete (Prod.ext run_misspelt rfl) "name"
  have slots : some (Slot.plain .string "Ada") = some (Slot.plain .string "Bob") := same
  injection slots with slot
  injection slot with _ text
  exact absurd text (by decide)

end EntityMapping
