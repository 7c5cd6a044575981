import EntityMapping.Proofs.Conversion.Filling
import EntityMapping.Proofs.Conversion.Keys
import EntityMapping.Proofs.Conversion.Repeatable
import EntityMapping.Proofs.Instance.Blank
import EntityMapping.Proofs.Schema.Way

/-!
What filling an instance keeps. An attribute that the record does not mention keeps its slot. An
embedded object does not: whatever the record says, it is read anew from the elements of the record
and put in the place of the old one. So what the record does not mention of an embedded object is
not what it was before, but what a new object starts with.
-/

namespace EntityMapping

open Effect Environment Registry Schema

variable {env : Environment} {fresh : List TypeRef} {es : Elements} {i j o : Instance}
  {f g : MappedField} {fs w : List MappedField} {r s : Registry} {t u : TypeRef} {m : Metadata}

/-! ### Slots inside -/

/-- The slot at the end of a way through objects. -/
def Instance.slotAt (i : Instance) : List MappedField → Option Slot
  | [] => none
  | [f] => i.slots.find? f.field
  | f :: w =>
    match i.slots.find? f.field with
    | some (.object o) => o.slotAt w
    | _ => none

theorem Instance.slotAt_cons (further : w ≠ []) (held : i.slots.find? f.field = some (.object o)) :
    i.slotAt (f :: w) = o.slotAt w := by
  cases w with
  | nil => exact absurd rfl further
  | cons g w =>
    rw [slotAt, held]
    exact further

/-- What the slot of a value starts with. -/
def FieldType.initialSlot? : FieldType → Option Slot
  | .plain t initial => some (.plain t initial)
  | .converted r initial => some (.converted ⟨r.attributeType, initial⟩)
  | _ => none

namespace Catalog

variable {catalog : Catalog}

theorem blankSlot_leaf {T : FieldType} (leaf : T.element? = none) :
    some (catalog.blankSlot fresh T) = T.initialSlot? := by
  cases T with
  | plain t initial => rfl
  | converted r initial => rfl
  | embedded t => cases leaf
  | entity t => cases leaf
  | embeddables t => cases leaf

theorem find?_blanks (apart : fs.Pairwise fun f g => f.field ≠ g.field) (mem : f ∈ fs) :
    (catalog.blanks fresh fs).find? f.field = some (catalog.blankSlot fresh f.type) := by
  refine Keyed.find?_of_mem ?_ (List.mem_map_of_mem mem)
  rw [blanks, Keyed.keys, List.map_map]
  exact List.pairwise_map.2 apart

end Catalog

/-- A way through embedded objects to a value; each of the objects is had without arguments. -/
inductive EmbeddedWay (env : Environment) : TypeRef → List MappedField → Prop where
  | last {t : TypeRef} {f : MappedField} (mem : f ∈ declared env.catalog env.config t)
      (leaf : f.type.element? = none) : EmbeddedWay env t [f]
  | step {t u : TypeRef} {f : MappedField} {w : List MappedField} {m : Metadata}
      (mem : f ∈ declared env.catalog env.config t) (embeds : f.type = .embedded u)
      (build : build env.catalog env.config u = .ok m) (concrete : m.isPolymorphic = false)
      (supplied : m.isDefaultConstructed = true) (rest : EmbeddedWay env u w) :
      EmbeddedWay env t (f :: w)

theorem EmbeddedWay.ne_nil (h : EmbeddedWay env t w) : w ≠ [] := by
  cases h <;> exact List.cons_ne_nil _ _

namespace Environment

/-! ### One attribute -/

theorem contentFrom_of_absent (single : ∀ u, f.type ≠ .embedded u)
    (absent : es.find? f.key = none) :
    env.contentFrom fresh f es = pure none := by
  cases type : f.type with
  | plain t initial => rw [contentFrom_leaf (by rw [type]; rfl), absent]
  | converted r initial => rw [contentFrom_leaf (by rw [type]; rfl), absent]
  | embedded u => exact absurd type (single u)
  | entity u => rw [contentFrom_entity type, absent]
  | embeddables u => rw [contentFrom_embeddables type, absent]

theorem run_contentFrom_embedded {c : Option Content} (h : Consistent env r)
    (embeds : f.type = .embedded u) (run : (env.contentFrom fresh f es).run r = (.ok c, s)) :
    ∃ m o, s.find? u = some m ∧ (env.instantiate fresh m es).run s = (.ok o, s) ∧
      c = some (.object o) := by
  rw [contentFrom_embedded embeds] at run
  obtain ⟨m, q, loads, run⟩ := run_bind_eq_ok.1 run
  obtain ⟨o, q', reads, run⟩ := run_bind_eq_ok.1 run
  cases run
  obtain ⟨grown, found⟩ := h.grown_load loads
  obtain ⟨further, again⟩ := steady_instantiate fresh m es _ _ _ grown.consistent reads
  exact ⟨m, o, further.consistent.find?_mono further.le (found m rfl),
    again _ further.consistent (.refl _), rfl⟩

/-- Where all attributes are filled, each has been read, and its slot has what was read. -/
theorem content_of_fillFrom (h : Consistent env r)
    (run : (env.fillFrom fresh i es fs).run r = ((.ok (), j), s))
    (names : fs.Pairwise fun f g => f.field ≠ g.field) (mem : f ∈ fs) :
    ∃ c, (env.contentFrom fresh f es).run s = (.ok c, s) ∧
      match c with
      | none => j.slots.find? f.field = i.slots.find? f.field
      | some c => ∃ slot, Instance.toSlot f c = .ok slot ∧ j.slots.find? f.field = some slot := by
  obtain ⟨before, after, rfl⟩ := List.append_of_mem mem
  obtain ⟨-, later, apart⟩ := List.pairwise_append.1 names
  obtain ⟨k, q, first, rest⟩ := run_fillFrom_append_eq_ok run
  obtain ⟨c, q', l, own, written, last⟩ := run_fillFrom_cons_eq_ok rest
  have steady : HandedOn env (fun x => Steady env x) (SteadyFill env) := handedOn_steady
  obtain ⟨-, steadyFill, steadyContent, -⟩ := steady.instantiate
  obtain ⟨grown, -⟩ := steadyFill fresh i es before _ _ _ h first
  obtain ⟨further, again⟩ := steadyContent fresh f es _ _ _ grown.consistent own
  obtain ⟨whole, -⟩ := steadyFill fresh l es after _ _ _ further.consistent last
  have unchanged : j.slots.find? f.field = l.slots.find? f.field :=
    find?_slots_fillFrom last fun g hg => ((List.pairwise_cons.1 later).1 g hg).symm
  have before_kept : k.slots.find? f.field = i.slots.find? f.field :=
    find?_slots_fillFrom first fun g hg => apart g hg f (List.mem_cons_self ..)
  refine ⟨c, again _ whole.consistent whole.le, ?_⟩
  cases c with
  | none =>
    subst written
    exact unchanged.trans before_kept
  | some c =>
    obtain ⟨slot, made, rfl⟩ := Instance.write_eq_ok written
    refine ⟨slot, made, ?_⟩
    rw [unchanged, Instance.find?_setSlot, if_pos rfl]

/-! ### Embedded objects -/

/-- An embedded object that is filled holds what is read for it, whatever was there. -/
theorem find?_embedded_fillFrom (h : Consistent env r)
    (run : (env.fillFrom fresh i es fs).run r = ((.ok (), j), s))
    (names : fs.Pairwise fun f g => f.field ≠ g.field) (mem : f ∈ fs)
    (embeds : f.type = .embedded u) :
    ∃ m o, s.find? u = some m ∧ (env.instantiate fresh m es).run s = (.ok o, s) ∧
      j.slots.find? f.field = some (.object o) := by
  obtain ⟨c, own, written⟩ := content_of_fillFrom h run names mem
  obtain ⟨grown, -⟩ := handedOn_steady.instantiate.2.1 fresh i es fs _ _ _ h run
  obtain ⟨m, o, found, reads, rfl⟩ := run_contentFrom_embedded grown.consistent embeds own
  obtain ⟨slot, made, there⟩ := written
  refine ⟨m, o, found, reads, there.trans ?_⟩
  rw [Instance.toSlot, embeds] at made
  dsimp only at made
  split at made
  · exact congrArg some (Except.ok.inj made).symm
  · cases made

/-- An instance that is had without arguments is a new one, filled. -/
theorem exists_fill_of_instantiate (built : Built env.catalog env.config u m)
    (concrete : m.isPolymorphic = false) (supplied : m.isDefaultConstructed = true)
    (run : (env.instantiate fresh m es).run r = (.ok o, s)) :
    (env.fillFrom (fresh.erase m.type) (env.catalog.blank u) es m.fields).run r =
      ((.ok (), o), s) := by
  have unconstructed : m.isConstructed = false := by
    rw [Metadata.isConstructed, supplied, Bool.not_true, Bool.and_false]
  have single : m.polymorphism = none := by simpa [Metadata.isPolymorphic] using concrete
  have supplies : m.suppliesInstances = true := by
    rw [Metadata.isDefaultConstructed, Bool.and_eq_true] at supplied
    exact supplied.2
  have new : env.newInstance m = .ok (env.catalog.blank u) := by
    rw [newInstance, if_pos supplies, built.type]
  by_cases mem : m.type ∈ fresh
  · rw [instantiate_concrete unconstructed mem single, new] at run
    exact run_ofFill_eq_ok.1 run
  · rw [instantiate, if_neg (by simp [unconstructed]), dif_neg mem] at run
    cases run

/-- What is not mentioned and not embedded is left as it is. -/
theorem find?_absent_fillFrom (h : Consistent env r)
    (run : (env.fillFrom fresh i es fs).run r = ((.ok (), j), s))
    (names : fs.Pairwise fun f g => f.field ≠ g.field) (mem : f ∈ fs)
    (single : ∀ u, f.type ≠ .embedded u) (absent : es.find? f.key = none) :
    j.slots.find? f.field = i.slots.find? f.field := by
  obtain ⟨c, own, written⟩ := content_of_fillFrom h run names mem
  rw [contentFrom_of_absent single absent] at own
  cases own
  exact written

/-- A value that is not mentioned is left as it is, but one inside an embedded object is what a new
object has. -/
theorem slotAt_of_fillFrom (way : EmbeddedWay env t w) (last : w.getLast? = some g)
    (absent : es.find? g.key = none) (h : Consistent env r)
    (built : Built env.catalog env.config t m)
    (run : (env.fillFrom fresh i es m.fields).run r = ((.ok (), j), s)) :
    j.slotAt w = if w.length = 1 then i.slotAt w else g.type.initialSlot? := by
  induction way generalizing fresh m i j r s with
  | @last t f mem leaf =>
    obtain rfl : f = g := Option.some.inj last
    rw [← built.fields] at mem
    exact find?_absent_fillFrom h run (built.apart.imp And.left) mem (not_embedded_of_leaf leaf)
      absent
  | @step t u f w n mem embeds build concrete supplied rest ih =>
    rw [← built.fields] at mem
    obtain ⟨k, o, found, reads, held⟩ :=
      find?_embedded_fillFrom h run (built.apart.imp And.left) mem embeds
    have consistent := (handedOn_steady.instantiate.2.1 fresh i es _ _ _ _ h run).1.consistent
    obtain rfl : n = k := Except.ok.inj (build.symm.trans (consistent.build_find? found))
    have inner := built_of_build build
    rw [List.getLast?_cons_of_ne_nil rest.ne_nil] at last
    rw [Instance.slotAt_cons rest.ne_nil held, if_neg (by simpa using rest.ne_nil),
      ih last consistent inner (exists_fill_of_instantiate inner concrete supplied reads)]
    split
    · rename_i direct
      cases rest with
      | @last u f mem leaf =>
        obtain rfl : f = g := Option.some.inj last
        rw [Instance.slotAt, Catalog.blank_eq inner concrete, ← inner.fields]
        rw [← inner.fields] at mem
        exact (Catalog.find?_blanks (inner.apart.imp And.left) mem).trans
          (Catalog.blankSlot_leaf leaf)
      | step _ _ _ _ _ rest =>
        exact absurd direct (by simpa using rest.ne_nil)
    · rfl

end Environment

/-- Filling an instance keeps the attributes that the record does not mention, except those of
embedded objects: an embedded object is what is read from the record, whatever was there, and what
the record does not mention of it is what a new object starts with. -/
theorem filling_keeps_own_attributes {c c' : Context} (used : Mapping.Used env c)
    (loaded : c.registry.find? t = some m) (concrete : m.isPolymorphic = false) {rec : Record}
    (run : (Mapping.toEntityInto t i rec).run c = ((.ok (), j), c')) :
    (∀ f ∈ m.fields, (∀ u, f.type ≠ .embedded u) → rec.find? f.key = none →
      j.slots.find? f.field = i.slots.find? f.field) ∧
    (∀ f ∈ m.fields, ∀ u, f.type = .embedded u → ∃ n o, c'.registry.find? u = some n ∧
      (env.read n rec.elements).run c'.registry = (.ok o, c'.registry) ∧
      j.slots.find? f.field = some (.object o)) ∧
    ∀ w g, EmbeddedWay env t w → w.getLast? = some g → rec.find? g.key = none →
      j.slotAt w = if w.length = 1 then i.slotAt w else g.type.initialSlot? := by
  obtain ⟨rfl, reached⟩ := used
  have consistent := reached.consistent
  have built := consistent.built_find? loaded
  have names : m.fields.Pairwise fun f g => f.field ≠ g.field := built.apart.imp And.left
  have filled : (c.environment.fillFrom c.environment.catalog.types i rec.elements m.fields).run
      c.registry = ((.ok (), j), c'.registry) := by
    rw [Mapping.run_toEntityInto loaded concrete] at run
    obtain ⟨answer, rfl⟩ := Prod.mk.inj run
    exact Prod.ext answer rfl
  exact ⟨fun f mem single absent =>
      find?_absent_fillFrom consistent filled names mem single absent,
    fun f mem u embeds => find?_embedded_fillFrom consistent filled names mem embeds,
    fun w g way last absent => slotAt_of_fillFrom way last absent consistent built filled⟩

/-! ### Movers -/

namespace Movers

def person : TypeRef := ⟨0, "Person"⟩

def address : TypeRef := ⟨1, "Address"⟩

/-- People have a name and an address, and an address a street and a city. -/
def environment : Environment where
  catalog := {
    valueName := "Value"
    descriptors := [
      { name := "Person", type := person, suppliesInstances := true
        fields := [⟨.of "name", .plain .string ""⟩, ⟨.of "address", .embedded address⟩] },
      { name := "Address", type := address, suppliesInstances := true
        fields := [⟨.of "street", .plain .string ""⟩, ⟨.of "city", .plain .string ""⟩] }] }
  config := {}

def context : Context := { environment, registry := ((environment.load person).run {}).2 }

theorem used_context : Mapping.Used environment context := ⟨rfl, .load .empty person⟩

def living (name street city : String) : Instance :=
  .mk person [("name", .plain .string name), ("address", .object
    (.mk address [("street", .plain .string street), ("city", .plain .string city)] none))] none

def onlyName : Record := ⟨"Person", [("name", .text "Ada")]⟩

def addressField : MappedField := ⟨"address", "address", false, .embedded address, person⟩

def cityField : MappedField := ⟨"city", "city", false, .plain .string "", address⟩

theorem exists_loaded : ∃ m, context.registry.find? person = some m ∧ m.isPolymorphic = false ∧
    m.isDefaultConstructed = true := by
  have known : (context.registry.find? person).map
      (fun m => (m.isPolymorphic, m.isDefaultConstructed)) = some (false, true) := by
    cbv
  obtain ⟨m, loaded, forms⟩ := Option.map_eq_some_iff.1 known
  exact ⟨m, loaded, congrArg Prod.fst forms, congrArg Prod.snd forms⟩

theorem exists_run : ∃ c', (Mapping.toEntityInto person (living "Bob" "Main" "Genoa")
    onlyName).run context = ((.ok (), living "Ada" "" ""), c') := by
  have answer : ((Mapping.toEntityInto person (living "Bob" "Main" "Genoa") onlyName).run
      context).1 = (.ok (), living "Ada" "" "") := by
    cbv
  exact ⟨_, Prod.ext answer rfl⟩

theorem exists_build_address : ∃ m, Schema.build environment.catalog environment.config address =
    .ok m ∧ m.isPolymorphic = false ∧ m.isDefaultConstructed = true := by
  have built : (Schema.build environment.catalog environment.config address).map
      (fun m => (m.isPolymorphic, m.isDefaultConstructed)) = .ok (false, true) := by
    cbv
  obtain ⟨m, built, forms⟩ := map_eq_ok built
  exact ⟨m, built, congrArg Prod.fst forms, congrArg Prod.snd forms⟩

theorem embeddedWay_city : EmbeddedWay environment person [addressField, cityField] := by
  obtain ⟨m, built, concrete, supplied⟩ := exists_build_address
  have inner : EmbeddedWay environment address [cityField] :=
    .last (.tail _ (List.mem_singleton_self _)) rfl
  exact .step (.tail _ (List.mem_singleton_self _)) rfl built concrete supplied inner

end Movers

open Movers in
/-- A city that a record does not mention is not the old one afterwards, but none. -/
theorem filling_keeps_own_attributes_city :
    ∃ m c', Mapping.Used environment context ∧ context.registry.find? person = some m ∧
      m.isPolymorphic = false ∧
      (Mapping.toEntityInto person (living "Bob" "Main" "Genoa") onlyName).run context =
        ((.ok (), living "Ada" "" ""), c') ∧
      EmbeddedWay environment person [addressField, cityField] ∧
      onlyName.find? "city" = none ∧
      (living "Ada" "" "").slotAt [addressField, cityField] = some (.plain .string "") := by
  obtain ⟨m, loaded, concrete, -⟩ := exists_loaded
  obtain ⟨c', run⟩ := exists_run
  have inside := (filling_keeps_own_attributes used_context loaded concrete run).2.2 _ cityField
    embeddedWay_city rfl rfl
  exact ⟨m, c', used_context, loaded, concrete, run, embeddedWay_city, rfl, inside⟩

open Movers in
/-- Not every value that a record does not mention is the same afterwards. -/
theorem filling_loses_embedded_city :
    ¬ ∀ (env : Environment) (c c' : Context) (t : TypeRef) (m : Metadata) (i j : Instance)
      (rec : Record) (w : List MappedField) (g : MappedField), Mapping.Used env c →
      c.registry.find? t = some m → m.isPolymorphic = false → m.isDefaultConstructed = true →
      (Mapping.toEntityInto t i rec).run c = ((.ok (), j), c') → EmbeddedWay env t w →
      w.getLast? = some g → rec.find? g.key = none → j.slotAt w = i.slotAt w := by
  intro untouched
  obtain ⟨m, loaded, concrete, supplied⟩ := exists_loaded
  obtain ⟨c', run⟩ := exists_run
  have same := untouched environment context c' person m _ _ onlyName _ cityField used_context
    loaded concrete supplied run embeddedWay_city rfl rfl
  have slots : some (Slot.plain .string "") = some (Slot.plain .string "Genoa") := same
  injection slots with slot
  injection slot with _ text
  exact absurd text (by decide)

end EntityMapping
