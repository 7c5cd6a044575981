import EntityMapping.Proofs.Conversion.Repeatable
import EntityMapping.Proofs.Registry.Termination
import Mathlib.Data.List.Perm.Subperm

/-!
What a reading asks for. To read an instance, others are read: the variant that is named and the
embedded objects from the same elements, all other objects from records that are nested in them.
Records are nested only so deep. So a reading goes on forever only if it comes back to a type while
it is at the same elements, and if it does not, there is a bound for how far it goes: as often as
there are types, at every depth of the record.
-/

namespace EntityMapping

open Effect Environment Registry Relation

/-! ### Nested records -/

namespace Value

mutual

def nesting : Value → Nat
  | .list items => nestingOfItems items
  | .record elements => nestingOfElements elements + 1
  | _ => 0

def nestingOfItems : List Value → Nat
  | [] => 0
  | v :: rest => max v.nesting (nestingOfItems rest)

def nestingOfElements : List (String × Value) → Nat
  | [] => 0
  | (_, v) :: rest => max v.nesting (nestingOfElements rest)

end

theorem nesting_le_of_mem {v : Value} {items : List Value} (h : v ∈ items) :
    v.nesting ≤ nestingOfItems items := by
  induction items with
  | nil => cases h
  | cons w rest ih =>
    rw [nestingOfItems]
    rcases List.mem_cons.1 h with rfl | h
    · exact Nat.le_max_left ..
    · exact Nat.le_trans (ih h) (Nat.le_max_right ..)

end Value

def Elements.nesting (es : Elements) : Nat := Value.nestingOfElements es

namespace Elements

variable {es nested : Elements} {key : String} {v : Value}

theorem nesting_le_of_find? (h : Keyed.find? key es = some v) : v.nesting ≤ es.nesting := by
  induction es with
  | nil => cases h
  | cons e rest ih =>
    obtain ⟨k, w⟩ := e
    rw [nesting, Value.nestingOfElements]
    rw [Keyed.find?] at h
    split at h
    · cases h
      exact Nat.le_max_left ..
    · exact Nat.le_trans (ih h) (Nat.le_max_right ..)

theorem nesting_lt_of_record (h : Keyed.find? key es = some (.record nested)) :
    nested.nesting < es.nesting := by
  have le := nesting_le_of_find? h
  rw [Value.nesting] at le
  exact le

theorem nesting_lt_of_list {items : List Value} (h : Keyed.find? key es = some (.list items))
    (mem : .record nested ∈ items) : nested.nesting < es.nesting := by
  have le := nesting_le_of_find? h
  rw [Value.nesting] at le
  have below : nested.nesting + 1 ≤ Value.nestingOfItems items := Value.nesting_le_of_mem mem
  exact Nat.lt_of_lt_of_le below le

end Elements

namespace Reading

variable {env : Environment}

/-! ### Readings -/

/-- The reading of an instance: what is loaded then, the metadata of its type, and the elements. -/
structure Call where
  registry : Registry
  metadata : Metadata
  elements : Elements

/-- The reading of a new instance comes to an attribute, in the registry that is left when those
before it are filled. -/
inductive ComesTo (env : Environment) (a : Call) : MappedField → Registry → Prop where
  | mk {i j : Instance} {before after : List MappedField} {f : MappedField} {s : Registry}
      (supplied : a.metadata.isConstructed = false) (concrete : a.metadata.polymorphism = none)
      (new : env.newInstance a.metadata = .ok i) (listed : a.metadata.fields = before ++ f :: after)
      (filled : (env.fillFrom env.catalog.types i a.elements before).run a.registry =
        ((.ok (), j), s)) : ComesTo env a f s

/-- A reading asks for one from the same elements: of the variant that they name, or of an embedded
object. -/
inductive Here (env : Environment) (a : Call) : Call → Prop where
  | variant {p : Polymorphism} {b : VariantBinding} {n : Metadata}
      (polymorphic : a.metadata.polymorphism = some p)
      (named : variantIn (a.registry.group a.metadata.type) a.metadata p a.elements = .ok b)
      (loaded : a.registry.find? b.entity = some n) : Here env a ⟨a.registry, n, a.elements⟩
  | embedded {f : MappedField} {u : TypeRef} {n : Metadata} {s s' : Registry}
      (comes : ComesTo env a f s) (embeds : f.type = .embedded u)
      (loads : (env.load u).run s = (.ok n, s')) : Here env a ⟨s', n, a.elements⟩

/-- A reading asks for one from elements that are nested in its own: of an object with a record of
its own, or of one in a list, once those before it are read. -/
inductive Below (env : Environment) (a : Call) : Call → Prop where
  | entity {f : MappedField} {u : TypeRef} {n : Metadata} {s s' : Registry} {nested : Elements}
      (comes : ComesTo env a f s) (nests : f.type = .entity u)
      (found : a.elements.find? f.key = some (.record nested))
      (loads : (env.load u).run s = (.ok n, s')) : Below env a ⟨s', n, nested⟩
  | item {f : MappedField} {u : TypeRef} {n : Metadata} {s s' s'' : Registry} {nested : Elements}
      {items before after : List Value} {os : List Instance} (comes : ComesTo env a f s)
      (lists : f.type = .embeddables u) (found : a.elements.find? f.key = some (.list items))
      (loads : (env.load u).run s = (.ok n, s')) (split : items = before ++ .record nested :: after)
      (read : (env.instantiateAll f n before).run s' = (.ok os, s'')) : Below env a ⟨s'', n, nested⟩

/-- A reading asks for another one. -/
def Asks (env : Environment) (a b : Call) : Prop := Here env a b ∨ Below env a b

/-- A reading ends: it asks for readings, and these for others, only so often. -/
def Ends (env : Environment) (a : Call) : Prop := Acc (Function.swap (Asks env)) a

/-- Among the readings that a reading asks for is one that comes back to its type at the same
elements. -/
def ComesBack (env : Environment) (a : Call) : Prop :=
  ∃ b c, ReflTransGen (Asks env) a b ∧ TransGen (Here env) b c ∧ c.metadata.type = b.metadata.type

/-- A reading of a loaded type. -/
structure Sound (env : Environment) (a : Call) : Prop where
  consistent : Consistent env a.registry
  loaded : a.registry.find? a.metadata.type = some a.metadata

variable {a b c : Call} {f : MappedField} {s u : Registry} {n : Metadata}

theorem Sound.built (h : Sound env a) :
    Schema.Built env.catalog env.config a.metadata.type a.metadata :=
  h.consistent.built_find? h.loaded

/-! ### What a reading hands on -/

theorem ComesTo.grown (h : ComesTo env a f s) (sound : Sound env a) : Grown env a.registry s := by
  cases h with
  | mk _ _ _ _ filled =>
    exact (handedOn_steady.instantiate.2.1 _ _ _ _ _ _ _ sound.consistent filled).1

theorem ComesTo.mem_declared (h : ComesTo env a f s) (sound : Sound env a) :
    f ∈ Schema.declared env.catalog env.config a.metadata.type := by
  cases h with
  | mk _ _ _ listed _ =>
    rw [← sound.built.fields, listed]
    exact List.mem_append_right _ (List.mem_cons_self ..)

theorem sound_of_load {t : TypeRef} (consistent : Consistent env s)
    (loads : (env.load t).run s = (.ok n, u)) (es : Elements) :
    Grown env s u ∧ n.type = t ∧ Sound env ⟨u, n, es⟩ := by
  obtain ⟨grown, found⟩ := consistent.grown_load loads
  have loaded := found n rfl
  obtain rfl := (find?_of_some loaded).2
  exact ⟨grown, rfl, grown.consistent, loaded⟩

theorem Here.elements (h : Here env a b) : b.elements = a.elements := by
  cases h <;> rfl

theorem Here.grown (h : Here env a b) (sound : Sound env a) :
    Grown env a.registry b.registry ∧ Sound env b := by
  cases h with
  | variant _ _ loaded =>
    have type := (find?_of_some loaded).2
    exact ⟨sound.consistent.grown, sound.consistent, by rw [type]; exact loaded⟩
  | embedded comes _ loads =>
    have before := comes.grown sound
    obtain ⟨grown, -, sound'⟩ := sound_of_load before.consistent loads a.elements
    exact ⟨before.trans grown, sound'⟩

theorem Below.grown (h : Below env a b) (sound : Sound env a) :
    Grown env a.registry b.registry ∧ Sound env b := by
  cases h with
  | @entity _ _ _ _ _ nested comes _ _ loads =>
    have before := comes.grown sound
    obtain ⟨grown, -, sound'⟩ := sound_of_load before.consistent loads nested
    exact ⟨before.trans grown, sound'⟩
  | @item _ _ n _ s' s'' nested _ _ _ _ comes _ _ loads _ read =>
    have before := comes.grown sound
    obtain ⟨grown, -, sound'⟩ := sound_of_load before.consistent loads nested
    obtain ⟨further, -⟩ :=
      handedOn_steady.instantiate.2.2.2 _ _ _ _ _ _ sound'.consistent read
    exact ⟨(before.trans grown).trans further, further.consistent,
      further.consistent.find?_mono further.le sound'.loaded⟩

theorem Below.nesting_lt (h : Below env a b) : b.elements.nesting < a.elements.nesting := by
  cases h with
  | entity _ _ found _ => exact Elements.nesting_lt_of_record found
  | item _ _ found _ split _ =>
    refine Elements.nesting_lt_of_list found ?_
    exact split ▸ List.mem_append_right _ (List.mem_cons_self ..)

theorem Asks.grown (h : Asks env a b) (sound : Sound env a) :
    Grown env a.registry b.registry ∧ Sound env b :=
  h.elim (·.grown sound) (·.grown sound)

theorem Sound.of_reflTransGen (sound : Sound env a) (way : ReflTransGen (Asks env) a b) :
    Sound env b := by
  induction way with
  | refl => exact sound
  | tail _ asked ih => exact (asked.grown ih).2

theorem here_le_asks : Here env ≤ Asks env := fun _ _ asked => .inl asked

/-! ### Coming back -/

theorem ComesTo.again (h : ComesTo env a f s) (sound : Sound env a) (consistent : Consistent env u)
    (le : Le s u) : ComesTo env ⟨u, a.metadata, a.elements⟩ f u := by
  cases h with
  | mk supplied concrete new listed filled =>
    have steady := handedOn_steady.instantiate.2.1 _ _ _ _ _ _ _ sound.consistent filled
    exact .mk supplied concrete new listed (steady.2 u consistent le)

/-- A reading asks for what it asked for before, when this is loaded. -/
theorem Here.again (h : Here env a b) (sound : Sound env a) (consistent : Consistent env u)
    (le : Le b.registry u) :
    Here env ⟨u, a.metadata, a.elements⟩ ⟨u, b.metadata, b.elements⟩ := by
  cases h with
  | variant polymorphic named loaded =>
    obtain ⟨d, column, found⟩ := variantIn_eq_ok_iff.1 named
    have found' := sound.consistent.find?_group_mono consistent le found
    exact .variant polymorphic (variantIn_eq_ok_iff.2 ⟨d, column, found'⟩)
      (consistent.find?_mono le loaded)
  | embedded comes embeds loads =>
    have before := comes.grown sound
    obtain ⟨grown, again⟩ := Steady.load _ _ _ _ before.consistent loads
    have comes' := comes.again sound consistent (grown.le.trans le)
    exact .embedded comes' embeds (again u consistent le)

/-- A way on the same elements can be gone again from where it has led to. -/
theorem again_of_transGen (way : TransGen (Here env) b c) (sound : Sound env b) :
    Grown env b.registry c.registry ∧ Sound env c ∧
      TransGen (Here env) ⟨c.registry, b.metadata, b.elements⟩ c := by
  induction way using TransGen.head_induction_on with
  | single asked =>
    obtain ⟨grown, sound'⟩ := asked.grown sound
    exact ⟨grown, sound', .single (asked.again sound sound'.consistent (.refl _))⟩
  | head asked _ ih =>
    obtain ⟨grown, sound'⟩ := asked.grown sound
    obtain ⟨further, sound'', rest⟩ := ih sound'
    exact ⟨grown.trans further, sound'',
      .head (asked.again sound further.consistent further.le) rest⟩

theorem elements_of_transGen (way : TransGen (Here env) b c) : c.elements = b.elements := by
  induction way with
  | single asked => exact asked.elements
  | tail _ asked ih => exact asked.elements.trans ih

/-- A reading that comes back to a type at the same elements never ends: the same readings are asked
for again and again. -/
theorem Ends.not_comesBack (ends : Ends env a) (sound : Sound env a) : ¬ ComesBack env a := by
  rintro ⟨b, c, way, loop, type⟩
  have start := sound.of_reflTransGen way
  obtain ⟨grown, sound', again⟩ := again_of_transGen loop start
  have same : c.metadata = b.metadata := by
    have found := grown.consistent.find?_mono grown.le start.loaded
    rw [← type, sound'.loaded] at found
    exact Option.some.inj found
  rw [← same, ← elements_of_transGen loop] at again
  have there := ReflTransGen.mono here_le_asks _ _ loop.to_reflTransGen
  exact not_transGen_self_of_acc (acc_of_reflTransGen ends (way.trans there))
    (TransGen.mono here_le_asks _ _ again)

theorem ComesBack.of_asks (asked : Asks env a b) (h : ComesBack env b) : ComesBack env a := by
  obtain ⟨x, y, way, loop⟩ := h
  exact ⟨x, y, .head asked way, loop⟩

/-! ### How far a reading goes -/

/-- Readings on the way to another one at the same elements, none of which comes back. -/
def Before (env : Environment) (seen : List TypeRef) (a : Call) : Prop :=
  ∀ t ∈ seen, ∃ x, ¬ ComesBack env x ∧ TransGen (Here env) x a ∧ x.metadata.type = t

theorem Before.notMem {seen : List TypeRef} (h : Before env seen a) : a.metadata.type ∉ seen := by
  intro mem
  obtain ⟨x, straight, way, type⟩ := h _ mem
  exact straight ⟨x, a, .refl, way, type.symm⟩

theorem Before.length_lt {seen : List TypeRef} (h : Before env seen a) (sound : Sound env a)
    (nodup : seen.Nodup) (declared : seen ⊆ env.catalog.types) :
    seen.length < env.catalog.types.length := by
  have all : a.metadata.type :: seen ⊆ env.catalog.types :=
    List.cons_subset.2 ⟨sound.built.mem_types, declared⟩
  exact (List.subperm_of_subset (List.nodup_cons.2 ⟨h.notMem, nodup⟩) all).length_le

/-- A reading that never comes back goes on as far as there are types, at every depth of its
elements; less those that have been read from the same elements before. -/
theorem length_add_length_le {calls : List Call} (seen : List TypeRef) (sound : Sound env a)
    (straight : ¬ ComesBack env a) (chain : (a :: calls).IsChain (Asks env)) (nodup : seen.Nodup)
    (declared : seen ⊆ env.catalog.types) (before : Before env seen a) :
    (a :: calls).length + seen.length ≤
      env.catalog.types.length * (a.elements.nesting + 1) := by
  induction calls generalizing a seen with
  | nil =>
    have room := before.length_lt sound nodup declared
    rw [List.length_singleton, Nat.mul_succ]
    omega
  | cons b calls ih =>
    obtain ⟨asked, rest⟩ := List.isChain_cons_cons.1 chain
    have sound' := (asked.grown sound).2
    have straight' : ¬ ComesBack env b := mt (·.of_asks asked) straight
    simp only [List.length_cons] at ih ⊢
    rcases asked with here | below
    · -- one type more has been read from these elements
      have before' : Before env (a.metadata.type :: seen) b := by
        intro t mem
        rcases List.mem_cons.1 mem with rfl | mem
        · exact ⟨a, straight, .single here, rfl⟩
        · obtain ⟨x, clear, way, type⟩ := before t mem
          exact ⟨x, clear, way.tail here, type⟩
      have le := ih _ sound' straight' rest (List.nodup_cons.2 ⟨before.notMem, nodup⟩)
        (List.cons_subset.2 ⟨sound.built.mem_types, declared⟩) before'
      rw [here.elements, List.length_cons] at le
      omega
    · -- nothing has been read from the nested elements yet
      have room := before.length_lt sound nodup declared
      have le := ih [] sound' straight' rest .nil (List.nil_subset _) nofun
      have less : env.catalog.types.length * (b.elements.nesting + 1) ≤
          env.catalog.types.length * a.elements.nesting :=
        Nat.mul_le_mul_left _ below.nesting_lt
      rw [Nat.mul_succ]
      rw [List.length_nil] at le
      omega

/-- A chain that never gets longer than some bound comes to an end. -/
theorem acc_of_length_lt {α : Type} {R : α → α → Prop} {bound : Nat} {x : α}
    (h : ∀ ys, (x :: ys).IsChain R → ys.length < bound) : Acc (Function.swap R) x := by
  induction bound generalizing x with
  | zero => exact absurd (h [] (.singleton x)) (Nat.not_lt_zero _)
  | succ bound ih =>
    refine ⟨_, fun y asked => ih fun ys chain => ?_⟩
    have longer := h (y :: ys) (List.isChain_cons_cons.2 ⟨asked, chain⟩)
    rw [List.length_cons] at longer
    omega

/-- A reading that never comes back is of bounded depth: there is a bound that depends only on the
number of types and on how deep its elements are nested. -/
theorem length_lt_of_not_comesBack (sound : Sound env a) (straight : ¬ ComesBack env a)
    {calls : List Call} (chain : (a :: calls).IsChain (Asks env)) :
    calls.length < env.catalog.types.length * (a.elements.nesting + 1) := by
  have le := length_add_length_le [] sound straight chain .nil (List.nil_subset _) nofun
  rwa [List.length_nil, Nat.add_zero, List.length_cons] at le

/-- A reading ends exactly if it never comes back to a type at the same elements. -/
theorem ends_iff_not_comesBack (sound : Sound env a) : Ends env a ↔ ¬ ComesBack env a :=
  ⟨fun ends => ends.not_comesBack sound, fun straight =>
    acc_of_length_lt fun _ chain => length_lt_of_not_comesBack sound straight chain⟩

end Reading

end EntityMapping
