import EntityMapping.Proofs.Conversion.Calls
import EntityMapping.Proofs.Conversion.Filling
import EntityMapping.Proofs.Conversion.Settled

/-!
Readings that are endless. Reading carries the types that are not being read from the same elements,
to answer `endless` where it comes back to one of the others instead of going round forever. Where
it does not answer so, these types have not mattered. Where it does, so does a reading that it asks
for, and the other way round.
-/

namespace EntityMapping

open Effect Environment Registry Relation

/-- Every declared type loads, together with others or not; its variants and the types of its
objects are declared. No converter answers that a search is endless. -/
structure Environment.Loadable (env : Environment) : Prop where
  loads : ∀ t ∈ env.catalog.types, ∃ r m, Reachable env r ∧ r.find? t = some m
  variants : env.catalog.Closed
  objects : ∀ t ∈ env.catalog.types, ∀ f ∈ (env.catalog.describe t).fields,
    ∀ u, f.type.element? = some u → u ∈ env.catalog.types
  converters : env.ConvertersSettled

namespace Reading

variable {env : Environment} {α β : Type} {fresh more : List TypeRef} {es : Elements}
  {m : Metadata} {i j : Instance} {f : MappedField} {fs : List MappedField} {r s : Registry}
  {t : TypeRef} {a b : Call}

/-! ### Types that do not matter -/

/-- A step answers like another one, unless that one answers that a search is endless. -/
def Refines (x y : Loading α) : Prop := ∀ r, ¬ Endless (x.run r).1 → y.run r = x.run r

def RefinesFill (x y : StateM Registry (Except MapperError Unit × Instance)) : Prop :=
  ∀ r, ¬ Endless (x.run r).1.1 → y.run r = x.run r

namespace Refines

theorem refl (x : Loading α) : Refines x x := fun _ _ => rfl

theorem bind {x y : Loading α} {f g : α → Loading β} (hx : Refines x y)
    (hf : ∀ a, Refines (f a) (g a)) : Refines (x >>= f) (y >>= g) := by
  intro r ends
  rw [run_bind, run_bind, hx r (not_endless_of_bind ends)]
  rcases one : x.run r with ⟨e | a, s⟩
  · rfl
  · rw [run_bind_of_ok one] at ends
    exact hf a s ends

end Refines

theorem endless_error {e : MapperError} :
    Endless (.error e : Except MapperError α) ↔ ∃ name, e = .endless name := by
  simp [Endless]

theorem endless_ofFill {x : StateM Registry (Except MapperError Unit × Instance)} :
    Endless ((ofFill x).run r).1 ↔ Endless (x.run r).1.1 := by
  rw [ofFill, run_bind, run_lift]
  rcases x.run r with ⟨⟨e | u, i⟩, s⟩
  · constructor
    · rintro ⟨name, same⟩
      cases same
      exact ⟨name, rfl⟩
    · rintro ⟨name, same⟩
      cases same
      exact ⟨name, rfl⟩
  · exact ⟨fun h => absurd h (not_endless_ok i), fun h => absurd h (not_endless_ok u)⟩

theorem RefinesFill.ofFill {x y : StateM Registry (Except MapperError Unit × Instance)}
    (h : RefinesFill x y) : Refines (ofFill x) (ofFill y) := by
  intro r ends
  rw [Environment.ofFill, Environment.ofFill, run_bind, run_bind, run_lift, run_lift,
    h r (mt endless_ofFill.2 ends)]

theorem refines_contentFrom
    (inner : ∀ m, Refines (env.instantiate fresh m es) (env.instantiate more m es))
    (f : MappedField) : Refines (env.contentFrom fresh f es) (env.contentFrom more f es) := by
  cases type : f.type with
  | embedded t =>
    rw [contentFrom_embedded type, contentFrom_embedded type]
    exact (Refines.refl _).bind fun m => (inner m).bind fun o => .refl _
  | entity t =>
    rw [contentFrom_entity type, contentFrom_entity type]
    exact .refl _
  | embeddables t =>
    rw [contentFrom_embeddables type, contentFrom_embeddables type]
    exact .refl _
  | plain T initial =>
    have leaf : f.type.element? = none := by rw [type]; rfl
    rw [contentFrom_leaf leaf, contentFrom_leaf leaf]
    exact .refl _
  | converted c initial =>
    have leaf : f.type.element? = none := by rw [type]; rfl
    rw [contentFrom_leaf leaf, contentFrom_leaf leaf]
    exact .refl _

theorem refinesFill_fillFrom
    (inner : ∀ m, Refines (env.instantiate fresh m es) (env.instantiate more m es)) (i : Instance)
    (fs : List MappedField) :
    RefinesFill (env.fillFrom fresh i es fs) (env.fillFrom more i es fs) := by
  induction fs generalizing i with
  | nil =>
    intro r _
    rw [run_fillFrom_nil, run_fillFrom_nil]
  | cons f fs ih =>
    intro r ends
    rcases one : (env.contentFrom fresh f es).run r with ⟨e | c, s⟩
    · rw [run_fillFrom_of_error one] at ends ⊢
      have ends' : ¬ Endless ((env.contentFrom fresh f es).run r).1 := by
        rw [one]
        exact mt endless_error.1 (mt endless_error.2 ends)
      rw [run_fillFrom_of_error ((refines_contentFrom inner f r ends').trans one)]
    · have same := refines_contentFrom inner f r (by rw [one]; exact not_endless_ok c)
      rw [one] at same
      cases c with
      | none =>
        rw [run_fillFrom_of_none one] at ends ⊢
        rw [run_fillFrom_of_none same, ih i s ends]
      | some c =>
        cases written : i.write f c with
        | error e => rw [run_fillFrom_of_refused one written, run_fillFrom_of_refused same written]
        | ok k =>
          rw [run_fillFrom_of_some one written] at ends ⊢
          rw [run_fillFrom_of_some same written, ih k s ends]

/-- Where a reading is not endless, it does not matter which types are being read. -/
theorem refines_instantiate (sub : fresh.Sublist more) (m : Metadata) :
    Refines (env.instantiate fresh m es) (env.instantiate more m es) := by
  induction size : fresh.length using Nat.strongRecOn generalizing fresh more m with
  | _ k ih =>
    subst size
    by_cases constructed : m.isConstructed = true
    · rw [instantiate, instantiate, if_pos constructed, if_pos constructed]
      exact .refl _
    by_cases mem : m.type ∈ fresh
    · have inner : ∀ n, Refines (env.instantiate (fresh.erase m.type) n es)
          (env.instantiate (more.erase m.type) n es) :=
        fun n => ih _ (TypeRef.length_erase_lt mem) (sub.erase m.type) n rfl
      cases hp : m.polymorphism with
      | some p =>
        rw [instantiate_polymorphic mem hp, instantiate_polymorphic (sub.subset mem) hp]
        exact (Refines.refl _).bind fun b => (Refines.refl _).bind fun n =>
          (inner n).bind fun i => .refl _
      | none =>
        have supplied := Bool.eq_false_iff.2 constructed
        rw [instantiate_concrete supplied mem hp,
          instantiate_concrete supplied (sub.subset mem) hp]
        exact (Refines.refl _).bind fun i => (refinesFill_fillFrom inner i m.fields).ofFill
    · intro r ends
      rw [instantiate, if_neg constructed, dif_neg mem] at ends
      exact absurd ⟨m.type.name, rfl⟩ ends

/-! ### Where a step is endless -/

theorem endless_then {x : Loading α} {g : α → β} :
    Endless ((x >>= fun a => pure (g a)).run r).1 ↔ Endless (x.run r).1 := by
  rw [endless_bind, or_iff_left]
  rintro ⟨a, s, -, endless⟩
  exact not_endless_ok _ endless

theorem run_ofExcept (x : Except MapperError α) : (Loading.ofExcept x).run r = (x, r) := by
  cases x <;> rfl

theorem not_endless_ofExcept {x : Except MapperError α} (h : Settled x) :
    ¬ Endless ((Loading.ofExcept x).run r).1 := by
  rw [run_ofExcept]
  exact h.not_endless

theorem run_resolveVariant {p : Polymorphism} :
    (resolveVariant m p es).run r = (variantIn (r.group m.type) m p es, r) := run_ask ..

theorem endless_of_fillFrom_single {name : String}
    (fails : (env.fillFrom fresh i es [f]).run r = ((.error (.endless name), j), s)) :
    Endless ((env.contentFrom fresh f es).run r).1 := by
  rcases one : (env.contentFrom fresh f es).run r with ⟨e | c, u⟩
  · rw [run_fillFrom_of_error one] at fails
    cases fails
    exact ⟨name, rfl⟩
  · cases c with
    | none =>
      rw [run_fillFrom_of_none one, run_fillFrom_nil] at fails
      cases fails
    | some c =>
      cases written : i.write f c with
      | error e =>
        rw [run_fillFrom_of_refused one written] at fails
        cases fails
        exact absurd ⟨name, written⟩ (i.settled_write f c).not_endless
      | ok k =>
        rw [run_fillFrom_of_some one written, run_fillFrom_nil] at fails
        cases fails

/-- Filling is endless exactly if it is at an attribute, once those before it are filled. -/
theorem endless_fillFrom :
    Endless ((env.fillFrom fresh i es fs).run r).1.1 ↔
      ∃ before f after j s, fs = before ++ f :: after ∧
        (env.fillFrom fresh i es before).run r = ((.ok (), j), s) ∧
        Endless ((env.contentFrom fresh f es).run s).1 := by
  constructor
  · rintro ⟨name, answer⟩
    rcases run : (env.fillFrom fresh i es fs).run r with ⟨⟨e, j⟩, s⟩
    rw [run] at answer
    cases answer
    obtain ⟨before, f, after, u, split, filled, s, fails⟩ := run_fillFrom_eq_error.1 ⟨s, run⟩
    exact ⟨before, f, after, j, u, split, filled, endless_of_fillFrom_single fails⟩
  · rintro ⟨before, f, after, j, s, rfl, filled, name, endless⟩
    rw [run_fillFrom_append _ filled, run_fillFrom_of_error (Prod.ext endless rfl)]
    exact ⟨name, rfl⟩

/-- The same with the attributes before it filled while more types are not being read. -/
theorem endless_fillFrom_of_filled {before : List MappedField} (after : List MappedField)
    (inner : ∀ m, Refines (env.instantiate fresh m es) (env.instantiate more m es))
    (filled : (env.fillFrom more i es before).run r = ((.ok (), j), s))
    (endless : Endless ((env.contentFrom fresh f es).run s).1) :
    Endless ((env.fillFrom fresh i es (before ++ f :: after)).run r).1.1 := by
  by_cases earlier : Endless ((env.fillFrom fresh i es before).run r).1.1
  · obtain ⟨first, g, rest, k, u, rfl, filled, endless⟩ := endless_fillFrom.1 earlier
    exact endless_fillFrom.2 ⟨first, g, rest ++ f :: after, k, u, by simp, filled, endless⟩
  · have same := refinesFill_fillFrom inner i before r earlier
    exact endless_fillFrom.2 ⟨before, f, after, j, s, rfl, same.symm.trans filled, endless⟩

/-- Reading the records of a list is endless exactly if it is at one of them, once those before it
are read. -/
theorem endless_instantiateAll {vs : List Value} :
    Endless ((env.instantiateAll f m vs).run r).1 ↔
      ∃ before nested after os s, vs = before ++ .record nested :: after ∧
        (env.instantiateAll f m before).run r = (.ok os, s) ∧
        Endless ((env.instantiate env.catalog.types m nested).run s).1 := by
  induction vs generalizing r with
  | nil =>
    rw [instantiateAll]
    refine ⟨fun endless => absurd endless (not_endless_ok _), ?_⟩
    rintro ⟨before, nested, after, os, s, split, -, -⟩
    cases before <;> cases split
  | cons v rest ih =>
    by_cases record : ∃ nested, v = .record nested
    · obtain ⟨nested, rfl⟩ := record
      rw [instantiateAll, endless_bind]
      simp only [endless_then, ih]
      constructor
      · rintro (first | ⟨o, u, one, before, nested', after, os, s, rfl, read, endless⟩)
        · refine ⟨[], nested, rest, [], r, rfl, ?_, first⟩
          rw [instantiateAll]
          rfl
        · refine ⟨.record nested :: before, nested', after, o :: os, s, rfl, ?_, endless⟩
          rw [instantiateAll, run_bind_of_ok one, run_bind_of_ok read]
          rfl
      · rintro ⟨before, nested', after, os, s, split, read, endless⟩
        cases before with
        | nil =>
          cases split
          rw [instantiateAll] at read
          cases read
          exact .inl endless
        | cons w before =>
          cases split
          rw [instantiateAll] at read
          obtain ⟨o, u, one, read⟩ := run_bind_eq_ok.1 read
          obtain ⟨os', u', read, last⟩ := run_bind_eq_ok.1 read
          cases last
          exact .inr ⟨o, u, one, before, nested', after, os', s, rfl, read, endless⟩
    · have noRecord : ∀ nested, v = .record nested → False := fun nested same =>
        record ⟨nested, same⟩
      constructor
      · rw [instantiateAll.eq_3 _ _ _ _ _ noRecord]
        rintro ⟨name, same⟩
        cases same
      · rintro ⟨before, nested, after, os, s, split, read, endless⟩
        cases before with
        | nil =>
          cases split
          exact absurd ⟨nested, rfl⟩ record
        | cons w before =>
          cases split
          rw [instantiateAll.eq_3 _ _ _ _ _ noRecord] at read
          cases read

/-! ### Types that load -/

/-- The variants of a type that loads do not lead back to it, so its load is not endless. -/
theorem not_endless_load (loadable : env.Loadable) (declared : t ∈ env.catalog.types) :
    ¬ Endless ((env.load t).run r).1 := by
  intro endless
  obtain ⟨u, m, reached, found⟩ := loadable.loads t declared
  have consistent := reached.consistent
  have acc := consistent.acc_lists consistent.stacked (fun _ h => h) (find?_of_some found).1
  rw [(find?_of_some found).2] at acc
  obtain ⟨a, s, way, loop⟩ := comesBack_of_endless loadable.variants declared endless
  have lists := fun (x y : Registry × TypeRef) (asked : Nested env x y) => asked.lists
  exact not_transGen_self_of_acc (acc_of_reflTransGen acc (way.lift Prod.snd lists))
    (loop.lift Prod.snd lists)

theorem ComesTo.not_endless_load {u : TypeRef} (h : ComesTo env a f s) (sound : Sound env a)
    (loadable : env.Loadable) (element : f.type.element? = some u) :
    ¬ Endless ((env.load u).run s).1 := by
  obtain ⟨g, mem, rfl⟩ := List.mem_map.1 (h.mem_declared sound)
  exact Reading.not_endless_load loadable
    (loadable.objects _ sound.built.mem_types g mem u element)

/-! ### What an endless reading asks for -/

/-- A reading answers that it is endless, if only some types are not being read. -/
def EndlessAt (env : Environment) (fresh : List TypeRef) (a : Call) : Prop :=
  Endless ((env.instantiate fresh a.metadata a.elements).run a.registry).1

/-- Where it is endless to find out about an attribute, so is a reading of an object in it. -/
theorem ComesTo.exists_endlessAt (h : ComesTo env a f s) (sound : Sound env a)
    (loadable : env.Loadable) (endless : Endless ((env.contentFrom fresh f a.elements).run s).1) :
    (∃ b, Here env a b ∧ EndlessAt env fresh b) ∨
      ∃ b, Below env a b ∧ EndlessAt env env.catalog.types b := by
  have loads := fun u => h.not_endless_load (u := u) sound loadable
  cases type : f.type with
  | embedded u =>
    rw [contentFrom_embedded type, endless_bind, or_iff_right (loads u (by rw [type]; rfl))]
      at endless
    obtain ⟨n, s', loaded, endless⟩ := endless
    exact .inl ⟨_, .embedded h type loaded, endless_then.1 endless⟩
  | entity u =>
    rw [contentFrom_entity type] at endless
    split at endless
    · rename_i nested found
      rw [endless_bind, or_iff_right (loads u (by rw [type]; rfl))] at endless
      obtain ⟨n, s', loaded, endless⟩ := endless
      exact .inr ⟨_, .entity h type found loaded, endless_then.1 endless⟩
    · exact absurd endless (not_endless_ok _)
    · exact absurd endless (not_endless_ok _)
    · obtain ⟨name, same⟩ := endless
      cases same
  | embeddables u =>
    rw [contentFrom_embeddables type] at endless
    split at endless
    · rename_i items found
      rw [endless_bind, or_iff_right (loads u (by rw [type]; rfl))] at endless
      obtain ⟨n, s', loaded, endless⟩ := endless
      obtain ⟨before, nested, after, os, s'', split, read, endless⟩ :=
        endless_instantiateAll.1 (endless_then.1 endless)
      exact .inr ⟨_, .item h type found loaded split read, endless⟩
    · exact absurd endless (not_endless_ok _)
    · exact absurd endless (not_endless_ok _)
    · obtain ⟨name, same⟩ := endless
      cases same
  | plain T initial | converted c initial =>
    have leaf : f.type.element? = none := by rw [type]; rfl
    rw [run_contentFrom_leaf leaf] at endless
    cases found : a.elements.find? f.key with
    | none =>
      rw [found] at endless
      exact absurd endless (not_endless_ok _)
    | some v =>
      rw [found] at endless
      exact absurd endless (loadable.converters.contentOf f v).not_endless

/-- An endless reading is of a type that is being read, or asks for an endless reading. -/
theorem EndlessAt.exists_asks (endless : EndlessAt env fresh a) (sound : Sound env a)
    (loadable : env.Loadable) (sub : fresh.Sublist env.catalog.types)
    (mem : a.metadata.type ∈ fresh) :
    (∃ b, Here env a b ∧ EndlessAt env (fresh.erase a.metadata.type) b) ∨
      ∃ b, Below env a b ∧ EndlessAt env env.catalog.types b := by
  rw [EndlessAt] at endless
  cases hp : a.metadata.polymorphism with
  | some p =>
    rw [instantiate_polymorphic mem hp] at endless
    rcases endless_bind.1 endless with resolved | ⟨b, s, resolved, endless⟩
    · rw [run_resolveVariant] at resolved
      exact absurd resolved (settled_variantIn ..).not_endless
    obtain ⟨named, rfl⟩ := run_ask_eq_ok.1 resolved
    rcases endless_bind.1 endless with asked | ⟨n, s, asked, endless⟩
    · rw [run_ask] at asked
      exact absurd asked (settled_known ..).not_endless
    obtain ⟨known, rfl⟩ := run_ask_eq_ok.1 asked
    rcases endless_bind.1 endless with endless | ⟨i, u, -, lifted⟩
    · exact .inl ⟨_, .variant hp named (known_eq_ok.1 known), endless⟩
    · exact absurd lifted (not_endless_ofExcept (settled_lift b i))
  | none =>
    cases supplied : a.metadata.isConstructed with
    | true =>
      rw [instantiate, if_pos supplied] at endless
      exact absurd endless (not_endless_ofExcept (loadable.converters.construct ..))
    | false =>
      rw [instantiate_concrete supplied mem hp, endless_bind,
        or_iff_right (not_endless_ofExcept (settled_newInstance _))] at endless
      obtain ⟨i, s, made, endless⟩ := endless
      rw [run_ofExcept] at made
      obtain ⟨new, rfl⟩ := Prod.mk.inj made
      obtain ⟨before, f, after, j, s, listed, filled, endless⟩ :=
        endless_fillFrom.1 (endless_ofFill.1 endless)
      -- the attributes before have been filled, so it did not matter what is being read
      have same := refinesFill_fillFrom
        (fun m => refines_instantiate ((List.erase_sublist ..).trans sub) m) i before _
        (by rw [filled]; exact not_endless_ok ())
      have comes : ComesTo env a f s := .mk supplied hp new listed (same.trans filled)
      exact comes.exists_endlessAt sound loadable endless

/-! ### What makes a reading endless -/

theorem EndlessAt.of_notMem (supplied : a.metadata.isConstructed = false)
    (absent : a.metadata.type ∉ fresh) : EndlessAt env fresh a := by
  rw [EndlessAt, instantiate, if_neg (by simp [supplied]), dif_neg absent]
  exact ⟨_, rfl⟩

theorem Here.supplied (h : Here env a b) : a.metadata.isConstructed = false := by
  cases h with
  | variant polymorphic => simp [Metadata.isConstructed, Metadata.isPolymorphic, polymorphic]
  | embedded comes =>
    cases comes with
    | mk supplied => exact supplied

/-- A reading is endless where it is endless to find out about an attribute that it comes to. -/
theorem ComesTo.endlessAt (h : ComesTo env a f s) (sub : fresh.Sublist env.catalog.types)
    (endless : Endless ((env.contentFrom (fresh.erase a.metadata.type) f a.elements).run s).1) :
    EndlessAt env fresh a := by
  cases h with
  | @mk i j before after _ _ supplied concrete new listed filled =>
    by_cases mem : a.metadata.type ∈ fresh
    · have whole := endless_fillFrom_of_filled after
        (fun m => refines_instantiate ((List.erase_sublist ..).trans sub) m) filled endless
      rw [← listed] at whole
      rw [EndlessAt, instantiate_concrete supplied mem concrete, new,
        run_bind_of_ok (run_ofExcept (.ok i))]
      exact endless_ofFill.2 whole
    · exact .of_notMem supplied mem

/-- A reading that asks for an endless one from the same elements is endless. -/
theorem EndlessAt.of_here (asked : Here env a b) (sub : fresh.Sublist env.catalog.types)
    (endless : EndlessAt env (fresh.erase a.metadata.type) b) : EndlessAt env fresh a := by
  by_cases mem : a.metadata.type ∈ fresh
  · cases asked with
    | @variant p b n polymorphic named loaded =>
      have resolved : (resolveVariant a.metadata p a.elements).run a.registry =
          (.ok b, a.registry) := run_ask_of_ok named
      rw [EndlessAt, instantiate_polymorphic mem polymorphic, run_bind_of_ok resolved,
        run_bind_of_ok (run_ask_of_ok (known_eq_ok.2 loaded))]
      exact endless_bind.2 (.inl endless)
    | embedded comes embeds loads =>
      refine comes.endlessAt sub ?_
      rw [contentFrom_embedded embeds, run_bind_of_ok loads]
      exact endless_then.2 endless
  · exact .of_notMem asked.supplied mem

/-- A reading that asks for an endless one from nested elements is endless. -/
theorem EndlessAt.of_below (asked : Below env a b) (sub : fresh.Sublist env.catalog.types)
    (endless : EndlessAt env env.catalog.types b) : EndlessAt env fresh a := by
  cases asked with
  | entity comes nests found loads =>
    refine comes.endlessAt sub ?_
    rw [contentFrom_entity nests, found]
    dsimp only
    rw [run_bind_of_ok loads]
    exact endless_then.2 endless
  | item comes lists found loads split read =>
    refine comes.endlessAt sub ?_
    rw [contentFrom_embeddables lists, found]
    dsimp only
    rw [run_bind_of_ok loads]
    exact endless_then.2 (endless_instantiateAll.2 ⟨_, _, _, _, _, split, read, endless⟩)

end Reading

end EntityMapping
