import EntityMapping.Proofs.Conversion.Keys
import EntityMapping.Proofs.Instance.Conforms
import EntityMapping.Proofs.Schema.Way
import EntityMapping.Proofs.Value.Path

/-!
Where the value of an attribute is found. A way from attribute to attribute, through embedded and
nested objects to a value, leads in an instance to the value and in what is written for the instance
to the same value, at every depth; unless another attribute on the way writes the same key without
having been compared, and so hides it.
-/

namespace EntityMapping

open Effect Environment Registry Schema

variable {env : Environment} {valid : Attribute → Prop}

/-! ### Values in an instance -/

/-- The native value of what an attribute holds. -/
inductive NativeOf (env : Environment) (f : MappedField) : Content → Value → Prop where
  | native (v : Value) : NativeOf env f (.native v) v
  | converted {r : ConverterRef} {k : Converter} {a : Attribute} {v : Value}
      (reference : f.converter? = some r) (there : env.converters.get r = .ok k)
      (value : k.toNative a = .ok v) : NativeOf env f (.attribute a) v

/-- The native value to which a way leads in an instance. -/
inductive ValueAt (env : Environment) : Instance → List MappedField → Value → Prop where
  | last {i : Instance} {f : MappedField} {c : Content} {v : Value} (read : i.read f = .ok c)
      (native : NativeOf env f c v) : ValueAt env i [f] v
  | step {i o : Instance} {f : MappedField} {w : List MappedField} {v : Value}
      (read : i.read f = .ok (.object o)) (rest : ValueAt env o w v) : ValueAt env i (f :: w) v

theorem NativeOf.unique {f : MappedField} {c : Content} {v w : Value} (h : NativeOf env f c v)
    (h' : NativeOf env f c w) : v = w := by
  cases h with
  | native => cases h' with | native => rfl
  | converted reference there value =>
    cases h' with
    | converted reference' there' value' =>
      have same := Option.some.inj (reference.symm.trans reference')
      subst same
      have same := Except.ok.inj (there.symm.trans there')
      subst same
      exact Except.ok.inj (value.symm.trans value')

/-- A way leads to one value. -/
theorem ValueAt.unique {i : Instance} {w : List MappedField} {u v : Value}
    (h : ValueAt env i w u) (h' : ValueAt env i w v) : u = v := by
  induction h with
  | last read native =>
    cases h' with
    | last read' native' =>
      have same := Except.ok.inj (read.symm.trans read')
      subst same
      exact native.unique native'
    | step _ rest => cases rest
  | step read rest ih =>
    cases h' with
    | last => cases rest
    | step read' rest' =>
      have same := Content.object.inj (Except.ok.inj (read.symm.trans read'))
      subst same
      exact ih rest'

/-- A way that ends on a value and passes only through embedded and nested objects whose types are
neither polymorphic nor variants. -/
inductive ValueWay (env : Environment) : TypeRef → List MappedField → Prop where
  | last {t : TypeRef} {f : MappedField} (mem : f ∈ declared env.catalog env.config t)
      (leaf : f.type.element? = none) : ValueWay env t [f]
  | step {t u : TypeRef} {f : MappedField} {w : List MappedField}
      (mem : f ∈ declared env.catalog env.config t)
      (object : f.type = .embedded u ∨ f.type = .entity u)
      (concrete : (env.catalog.describe u).isPolymorphic = false)
      (unbound : (env.catalog.describe u).inheritance = none) (rest : ValueWay env u w) :
      ValueWay env t (f :: w)

/-- An attribute of an instance writes a key. -/
def Writes (env : Environment) (i : Instance) (f : MappedField) (k : String) : Prop :=
  ∃ r es s, Consistent env r ∧ (env.ownElements i f).run r = (.ok es, s) ∧ k ∈ es.keys

/-- On a way through an instance, another attribute writes the key that the way takes next, without
having been compared with it. -/
inductive Hidden (env : Environment) : Instance → List MappedField → Prop where
  | here {i : Instance} {f g : MappedField} {w : List MappedField} {k : String} {ks : List String}
      (mem : g ∈ declared env.catalog env.config i.type) (other : g ≠ f)
      (key : levelKeys (f :: w) = k :: ks) (unchecked : Unchecked env i g k)
      (writes : Writes env i g k) : Hidden env i (f :: w)
  | deeper {i o : Instance} {f : MappedField} {w : List MappedField}
      (read : i.read f = .ok (.object o)) (rest : Hidden env o w) : Hidden env i (f :: w)

/-! ### Values in elements -/

/-- Some elements have at most one value under the first of some keys, and following the others
from there gives a certain answer. -/
def Finds (es : Elements) (ks : List String) (answer : Option Value) : Prop :=
  ∃ k rest x, ks = k :: rest ∧ Keyed.under k es = Option.toList x ∧
    (x.bind fun v => v.follow rest) = answer

/-- What is found of a value: nothing, if it is left out. -/
def shown (env : Environment) (v : Value) : Option Value := if env.keeps v then some v else none

theorem finds_element (f : MappedField) (v : Value) :
    Finds ([(f.key, v)].filter fun e => env.keeps e.2) [f.key] (shown env v) := by
  refine ⟨f.key, [], shown env v, rfl, ?_, ?_⟩
  · rw [shown]
    cases h : env.keeps v with
    | false =>
      rw [List.filter_cons_of_neg (by simp [h])]
      rfl
    | true =>
      rw [List.filter_cons_of_pos (by simp [h])]
      simp [Keyed.under_cons]
  · rw [shown]
    cases env.keeps v <;> rfl

theorem Finds.nested {es : Elements} {ks : List String} {answer : Option Value}
    (h : Finds es ks answer) (k : String) : Finds [(k, .record es)] (k :: ks) answer := by
  obtain ⟨l, rest, x, rfl, under, follow⟩ := h
  refine ⟨k, l :: rest, some (.record es), rfl, ?_, ?_⟩
  · simp [Keyed.under_cons]
  · rw [Option.bind_some, Value.follow_record_cons, Keyed.find?_eq_head?, under, ← follow]
    cases x <;> rfl

/-- Elements in between that lack the first key do not matter. -/
theorem Finds.of_under {es more : Elements} {k : String} {ks : List String} {answer : Option Value}
    (h : Finds es (k :: ks) answer) (same : Keyed.under k more = Keyed.under k es) :
    Finds more (k :: ks) answer := by
  obtain ⟨l, rest, x, keys, under, follow⟩ := h
  cases keys
  exact ⟨k, ks, x, rfl, same.trans under, follow⟩

/-! ### Keys of a way -/

theorem ValueWay.exists_key {t : TypeRef} {w : List MappedField} (h : ValueWay env t w) :
    ∃ f rest k ks, w = f :: rest ∧ f ∈ declared env.catalog env.config t ∧
      levelKeys w = k :: ks ∧ NativeKey env.catalog env.config f k := by
  induction h with
  | @last t f mem leaf =>
    have single := not_embedded_of_leaf leaf
    exact ⟨f, [], f.key, _, rfl, mem, levelKeys_single single, .own single⟩
  | @step t u f w mem object concrete unbound rest ih =>
    obtain ⟨g, rest, k, ks, rfl, inner, keys, native⟩ := ih
    rcases object with embeds | nests
    · exact ⟨f, _, k, ks, rfl, mem, (levelKeys_embedded embeds).trans keys,
        .inner embeds inner native⟩
    · have single : ∀ v, f.type ≠ .embedded v := by
        intro v
        rw [nests]
        nofun
      exact ⟨f, _, f.key, _, rfl, mem, levelKeys_single single, .own single⟩

theorem ValueWay.way {t : TypeRef} {w : List MappedField} (h : ValueWay env t w) :
    Way env.catalog env.config t w := by
  induction h with
  | last mem leaf => exact .last mem
  | step mem object _ _ rest ih =>
    refine .step mem ?_ ih
    rcases object with h | h
    · rw [h]; rfl
    · rw [h]; rfl

theorem ValueWay.leaf {t : TypeRef} {w : List MappedField} {f : MappedField}
    (h : ValueWay env t w) (last : w.getLast? = some f) : f.type.element? = none := by
  induction h with
  | last mem leaf =>
    cases last
    exact leaf
  | @step t u g w mem object concrete unbound rest ih =>
    apply ih
    cases w with
    | nil => cases rest
    | cons h w => simpa using last

/-- Different attributes of an accepted type write different native keys. -/
theorem Schema.Built.not_nativeKey {t : TypeRef} {m : Metadata} {f g : MappedField} {k : String}
    (h : Built env.catalog env.config t m) (hf : f ∈ declared env.catalog env.config t)
    (hg : g ∈ declared env.catalog env.config t) (other : g ≠ f)
    (key : NativeKey env.catalog env.config f k) : ¬ NativeKey env.catalog env.config g k := by
  have apart := h.keysApart
  rw [h.fields] at apart
  have : Std.Symm (KeysApart env.catalog env.config) := ⟨fun f g apart k hg hf => apart k hf hg⟩
  exact apart.forall hf hg other.symm k key

/-! ### Writing -/

theorem yields_ownElements (i : Instance) (f : MappedField) :
    Yields (Consistent env) (env.ownElements i f) fun es =>
      (∀ e ∈ es, env.keeps e.2 = true) ∧ ∀ k ∈ es.keys, FieldKey env i f k := by
  refine yields_own (fun _ _ => by constructor <;> (intro e he; cases he)) fun c read => ?_
  refine (yields_keys.2.2.2.1 f c i read).imp fun es keys => ⟨fun e he => ?_, fun k hk => ?_⟩
  · exact (List.mem_filter.1 he).2
  · exact keys k (Keyed.mem_keys_of_filter hk)

theorem yields_kept (i : Instance) (fs : List MappedField) :
    Yields (Consistent env) (env.fieldElements i fs) fun es => ∀ e ∈ es, env.keeps e.2 = true := by
  induction fs with
  | nil =>
    rw [fieldElements]
    exact .pure fun e he => by cases he
  | cons f fs ih =>
    rw [fieldElements_cons]
    refine (yields_ownElements i f).bind fun own h => ih.bind fun rest h' => .pure fun e he => ?_
    exact (List.mem_append.1 he).elim (h.1 e) (h' e)

/-- Where only one attribute writes a key, what stands under the key is written by it. -/
theorem yields_under {i : Instance} {f : MappedField} {fs : List MappedField} {k : String}
    {P : Elements → Prop} (distinct : fs.Pairwise (· ≠ ·)) (mem : f ∈ fs)
    (one : Yields (Consistent env) (env.ownElements i f) P)
    (others : ∀ g ∈ fs, g ≠ f →
      Yields (Consistent env) (env.ownElements i g) fun es => k ∉ es.keys) :
    Yields (Consistent env) (env.fieldElements i fs) fun es =>
      ∃ own, P own ∧ Keyed.under k es = Keyed.under k own := by
  -- The attributes behind the one in question write nothing under the key.
  have none : ∀ gs : List MappedField, (∀ g ∈ gs, g ∈ fs ∧ g ≠ f) →
      Yields (Consistent env) (env.fieldElements i gs) fun es => k ∉ es.keys := by
    intro gs hgs
    induction gs with
    | nil =>
      rw [fieldElements]
      exact .pure fun hk => by cases hk
    | cons g gs ih =>
      rw [fieldElements_cons]
      obtain ⟨hg, other⟩ := hgs g (List.mem_cons_self ..)
      refine (others g hg other).bind fun own h => ?_
      refine (ih fun g hg => hgs g (List.mem_cons_of_mem _ hg)).bind fun rest h' => .pure ?_
      rw [Keyed.keys_append, List.mem_append, not_or]
      exact ⟨h, h'⟩
  induction fs with
  | nil => cases mem
  | cons g fs ih =>
    obtain ⟨first, distinct⟩ := List.pairwise_cons.1 distinct
    rw [fieldElements_cons]
    by_cases same : g = f
    · subst same
      refine one.bind fun own h => ?_
      refine (none fs fun h hh => ⟨List.mem_cons_of_mem _ hh, (first h hh).symm⟩).bind
        fun rest h' => .pure ⟨own, h, ?_⟩
      rw [Keyed.under_append, Keyed.under_eq_nil.2 h', List.append_nil]
    · have mem : f ∈ fs := (List.mem_cons.1 mem).resolve_left (Ne.symm same)
      refine (others g (List.mem_cons_self ..) same).bind fun own h => ?_
      refine (ih distinct mem (fun g hg => others g (List.mem_cons_of_mem _ hg)) fun gs hgs =>
        none gs fun g hg => ⟨List.mem_cons_of_mem _ (hgs g hg).1, (hgs g hg).2⟩).bind
        fun rest hr => ?_
      obtain ⟨own', h', under⟩ := hr
      refine .pure ⟨own', h', ?_⟩
      rw [Keyed.under_append, Keyed.under_eq_nil.2 h, List.nil_append, under]

theorem leafElements_native_eq_ok {f : MappedField} {v : Value} {es : Elements}
    (h : env.leafElements f (.native v) = .ok es) : es = [(f.key, v)] := by
  unfold leafElements at h
  cases kind : f.kind <;> rw [kind] at h <;> cases h <;> rfl

/-- What a converter makes of an attribute is one element under the key of the attribute. -/
theorem leafElements_attribute_eq_ok {f : MappedField} {a : Attribute} {es : Elements}
    (h : env.leafElements f (.attribute a) = .ok es) :
    ∃ v, NativeOf env f (.attribute a) v ∧ es = [(f.key, v)] := by
  unfold leafElements at h
  split at h
  case h_1 same | h_2 same | h_3 same =>
    cases same
    split at h
    · cases h
    · rename_i r reference
      obtain ⟨k, there, h⟩ := bind_eq_ok h
      obtain ⟨v, value, h⟩ := bind_eq_ok h
      cases h
      exact ⟨v, .converted reference there value, rfl⟩
  case h_4 same | h_5 same | h_6 same => cases same
  · cases h

/-- What the first attribute of a way writes for the way is what the instance writes for it. -/
theorem yields_level {t : TypeRef} {f : MappedField} {w : List MappedField}
    (way : ValueWay env t (f :: w)) {i : Instance} {m : Metadata} {Q : Value → Prop}
    (build : Schema.build env.catalog env.config t = .ok m) (conforms : Conforms env valid t i)
    (clear : ¬ Hidden env i (f :: w))
    (one : Yields (Consistent env) (env.ownElements i f) fun es =>
      ∃ v, Q v ∧ Finds es (levelKeys (f :: w)) (shown env v)) :
    Yields (Consistent env) (env.fieldElements i m.fields) fun es =>
      ∃ v, Q v ∧ Finds es (levelKeys (f :: w)) (shown env v) := by
  have built := built_of_build build
  obtain ⟨g, rest, k, ks, same, mem, keys, native⟩ := way.exists_key
  cases same
  have distinct := built.pairwise_ne
  rw [built.fields] at distinct ⊢
  refine (yields_under (k := k) distinct mem one fun h hh other => ?_).imp ?_
  · intro r es s consistent run
    obtain ⟨⟨-, may⟩, consistent'⟩ := yields_ownElements i h r es s consistent run
    refine ⟨fun hk => ?_, consistent'⟩
    rcases may k hk with below | unchecked
    · exact built.not_nativeKey mem hh other native below
    · have declared : h ∈ declared env.catalog env.config i.type := by
        rw [conforms.type_eq]
        exact hh
      exact clear (.here declared other keys unchecked ⟨r, es, s, consistent, run, hk⟩)
  · rintro es ⟨own, ⟨v, hv, found⟩, under⟩
    rw [keys] at found ⊢
    exact ⟨v, hv, found.of_under under⟩

/-- The value of an attribute is what is written for it. -/
theorem yields_own_leaf {i : Instance} {f : MappedField} {s : Slot} (leaf : f.type.element? = none)
    (conforms : SlotConforms env valid f.type s) (read : i.read f = Instance.ofSlot s) :
    Yields (Consistent env) (env.ownElements i f) fun es =>
      ∃ v, ValueAt env i [f] v ∧ Finds es (levelKeys [f]) (shown env v) := by
  rw [levelKeys_single (not_embedded_of_leaf leaf), levelKeys]
  refine yields_own (fun null unkept => ?_) fun c hc => ?_
  · have found : Finds ([(f.key, .null)].filter fun e => env.keeps e.2) [f.key] (shown env .null) :=
      finds_element f .null
    rw [List.filter_cons_of_neg (by simp [unkept]), List.filter_nil] at found
    exact ⟨.null, .last null (.native .null), found⟩
  have slot : Instance.ofSlot s = .ok c := read.symm.trans hc
  rcases c with v | a | o | os
  · obtain ⟨T, initial, x, rfl, kind, value⟩ := conforms.native_inv slot
    rw [contentElements_native, leafElements_plain kind]
    exact .pure ⟨v, .last hc (.native v), finds_element f v⟩
  · obtain ⟨rfl, -, r, initial, kind, -⟩ := conforms.attribute_inv slot
    rw [contentElements_attribute]
    refine (yields_ofExcept _).imp fun es written => ?_
    obtain ⟨k, v, there, native, rfl⟩ := leafElements_converted kind written
    have reference : f.converter? = some r := by rw [MappedField.converter?, kind]; rfl
    exact ⟨v, .last hc (.converted reference there native), finds_element f v⟩
  · obtain ⟨-, u, -, type | type⟩ := conforms.object_inv slot
    · rw [type] at leaf
      cases leaf
    · rw [type] at leaf
      cases leaf
  · obtain ⟨-, u, -, type⟩ := conforms.objects_inv slot
    rw [type] at leaf
    cases leaf

/-- An object whose type is neither polymorphic nor a variant is written by its attributes only. -/
theorem yields_elements {o : Instance} {u : TypeRef} {P : Elements → Prop}
    (concrete : (env.catalog.describe u).isPolymorphic = false)
    (unbound : (env.catalog.describe u).inheritance = none)
    (written : ∀ m, Schema.build env.catalog env.config u = .ok m →
      Yields (Consistent env) (env.fieldElements o m.fields) P) :
    Yields (Consistent env) (env.elements o u) fun es =>
      P es ∧ ∀ e ∈ es, env.keeps e.2 = true := by
  rw [elements]
  refine (yields_load u).bind fun m build => ?_
  have built := built_of_build build
  rw [elementsWith_concrete (built.isPolymorphic.trans concrete), built.marks_of_unbound unbound]
  refine Yields.bind (P := fun p => P p.1 ∧ ∀ e ∈ p.1, env.keeps e.2 = true) ?_ fun p h => .pure h
  refine Yields.bind (P := fun es => P es ∧ ∀ e ∈ es, env.keeps e.2 = true) ?_ fun es h => ?_
  · intro r es s consistent run
    obtain ⟨h, consistent'⟩ := written m build r es s consistent run
    exact ⟨⟨h, (yields_kept o m.fields r es s consistent run).1⟩, consistent'⟩
  · rw [List.append_nil]
    exact .pure h

/-- An embedded object writes into the record of its owner. -/
theorem yields_own_embedded {i o : Instance} {f : MappedField} {u : TypeRef} {P : Elements → Prop}
    (embeds : f.type = .embedded u) (concrete : (env.catalog.describe u).isPolymorphic = false)
    (unbound : (env.catalog.describe u).inheritance = none) (read : i.read f = .ok (.object o))
    (written : ∀ m, Schema.build env.catalog env.config u = .ok m →
      Yields (Consistent env) (env.fieldElements o m.fields) P) :
    Yields (Consistent env) (env.ownElements i f) P := by
  refine yields_own (fun null _ => ?_) fun c hc => ?_
  · rw [read] at null
    cases null
  rw [read] at hc
  cases hc
  rw [contentElements_embedded embeds]
  refine (yields_elements concrete unbound written).imp fun es h => ?_
  rw [List.filter_eq_self.2 h.2]
  exact h.1

/-- Another object writes a record of its own. -/
theorem yields_own_entity {i o : Instance} {f : MappedField} {u : TypeRef} {P : Elements → Prop}
    (nests : f.type = .entity u) (concrete : (env.catalog.describe u).isPolymorphic = false)
    (unbound : (env.catalog.describe u).inheritance = none) (read : i.read f = .ok (.object o))
    (written : ∀ m, Schema.build env.catalog env.config u = .ok m →
      Yields (Consistent env) (env.fieldElements o m.fields) P) :
    Yields (Consistent env) (env.ownElements i f) fun es =>
      ∃ inner, P inner ∧ es = [(f.key, .record inner)] := by
  refine yields_own (fun null _ => ?_) fun c hc => ?_
  · rw [read] at null
    cases null
  rw [read] at hc
  cases hc
  rw [contentElements_entity nests]
  refine (yields_elements concrete unbound written).bind fun inner h => .pure ?_
  rw [List.filter_cons_of_pos (by simp [keeps, Value.isNull]), List.filter_nil]
  exact ⟨inner, h.1, rfl⟩

/-- What is written for an instance has the value of a way where the way leads. -/
theorem yields_finds {t : TypeRef} {w : List MappedField} (way : ValueWay env t w) {i : Instance}
    {m : Metadata} (build : Schema.build env.catalog env.config t = .ok m)
    (concrete : (env.catalog.describe t).isPolymorphic = false) (conforms : Conforms env valid t i)
    (clear : ¬ Hidden env i w) :
    Yields (Consistent env) (env.fieldElements i m.fields) fun es =>
      ∃ v, ValueAt env i w v ∧ Finds es (levelKeys w) (shown env v) := by
  induction way generalizing i m with
  | @last t f mem leaf =>
    have built := built_of_build build
    obtain ⟨s, read, slot⟩ := conforms.exists_slot concrete built mem
    exact yields_level (.last mem leaf) build conforms clear (yields_own_leaf leaf slot read)
  | @step t u f w mem object single unbound rest ih =>
    have built := built_of_build build
    obtain ⟨s, read, slot⟩ := conforms.exists_slot concrete built mem
    have inner : ∃ o, i.read f = .ok (.object o) ∧ Conforms env valid u o := by
      rcases object with h | h
      · rw [h] at slot
        cases slot with
        | embedded conforms => exact ⟨_, read, conforms⟩
      · rw [h] at slot
        cases slot with
        | entity conforms => exact ⟨_, read, conforms⟩
    obtain ⟨o, read, inner⟩ := inner
    have deeper : ¬ Hidden env o w := fun h => clear (.deeper read h)
    have written : ∀ n, Schema.build env.catalog env.config u = .ok n →
        Yields (Consistent env) (env.fieldElements o n.fields) fun es =>
          ∃ v, ValueAt env o w v ∧ Finds es (levelKeys w) (shown env v) :=
      fun n build' => ih build' single inner deeper
    refine yields_level (.step mem object single unbound rest) build conforms clear ?_
    rcases object with embeds | nests
    · refine (yields_own_embedded embeds single unbound read written).imp ?_
      rintro es ⟨v, value, found⟩
      refine ⟨v, .step read value, ?_⟩
      rw [levelKeys_embedded embeds]
      exact found
    · refine (yields_own_entity nests single unbound read written).imp ?_
      rintro es ⟨nested, ⟨v, value, found⟩, rfl⟩
      refine ⟨v, .step read value, ?_⟩
      rw [levelKeys_single (by rw [nests]; nofun)]
      exact found.nested f.key

end EntityMapping
