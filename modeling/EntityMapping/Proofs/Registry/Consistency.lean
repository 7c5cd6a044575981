import EntityMapping.Registry
import EntityMapping.Proofs.Effect
import EntityMapping.Proofs.Keyed
import EntityMapping.Proofs.Schema.Built

/-!
Registries that loading brings about. Every type in them was accepted and stands behind its
variants, so no type is found twice and variants never lead back to their parent. The bindings are
those of the loaded types, and no two of them go by one discriminator of one parent. Entering a
type keeps all of this and only adds to what is there.
-/

namespace EntityMapping

open Effect

/-- The variants of a type, none unless it is polymorphic. -/
def Metadata.variants (m : Metadata) : List TypeRef := (m.polymorphism.map (·.variants)).getD []

namespace Registry

variable {env : Environment} {r s u : Registry} {m n : Metadata} {t : TypeRef}

/-- Types that were entered one after the other, each behind its variants. -/
inductive Stacked : List Metadata → Prop where
  | nil : Stacked []
  | snoc {ms : List Metadata} {m : Metadata} (below : Stacked ms)
      (new : m.type ∉ ms.map (·.type)) (variants : ∀ v ∈ m.variants, v ∈ ms.map (·.type)) :
      Stacked (ms ++ [m])

/-- What holds of every registry that loading brings about. -/
structure Consistent (env : Environment) (r : Registry) : Prop where
  built : ∀ m ∈ r.loaded, Schema.build env.catalog env.config m.type = .ok m
  stacked : Stacked r.loaded
  bound : ∀ m ∈ r.loaded, ∀ b, m.binding = some b → b ∈ r.bindings
  backed : ∀ b ∈ r.bindings, ∃ m ∈ r.loaded, m.binding = some b
  apart : ∀ b ∈ r.bindings, ∀ c ∈ r.bindings, rivals b c = true → b = c

/-- A registry has everything that another one has. -/
structure Le (r s : Registry) : Prop where
  loaded : r.loaded ⊆ s.loaded
  bindings : r.bindings ⊆ s.bindings

theorem Le.refl (r : Registry) : Le r r := ⟨fun _ h => h, fun _ h => h⟩

theorem Le.trans (h : Le r s) (g : Le s u) : Le r u :=
  ⟨fun _ x => g.loaded (h.loaded x), fun _ x => g.bindings (h.bindings x)⟩

theorem consistent_empty : Consistent env {} :=
  ⟨nofun, .nil, nofun, nofun, nofun⟩

/-! ### What is loaded -/

theorem find?_of_some (h : r.find? t = some m) : m ∈ r.loaded ∧ m.type = t :=
  ⟨List.mem_of_find?_eq_some h, by simpa using List.find?_some h⟩

theorem mem_types_of_find? (h : r.find? t = some m) : t ∈ r.loaded.map (·.type) :=
  List.mem_map.2 ⟨m, find?_of_some h⟩

theorem exists_find? (h : t ∈ r.loaded.map (·.type)) : ∃ m, r.find? t = some m := by
  obtain ⟨m, hm, rfl⟩ := List.mem_map.1 h
  exact Option.isSome_iff_exists.1 (List.find?_isSome.2 ⟨m, hm, by simp⟩)

namespace Consistent

theorem builtOf (h : Consistent env r) (hm : m ∈ r.loaded) :
    Schema.Built env.catalog env.config m.type m := Schema.built_of_build (h.built m hm)

/-- The metadata of a type is what its declaration makes of it. -/
theorem find?_eq_some (h : Consistent env r) : r.find? t = some m ↔ m ∈ r.loaded ∧ m.type = t := by
  refine ⟨find?_of_some, ?_⟩
  rintro ⟨hm, rfl⟩
  obtain ⟨n, hn⟩ := exists_find? (List.mem_map.2 ⟨m, hm, rfl⟩)
  obtain ⟨mem, same⟩ := find?_of_some hn
  have answer := h.built n mem
  rw [same, h.built m hm] at answer
  cases answer
  exact hn

theorem built_find? (h : Consistent env r) (found : r.find? t = some m) :
    Schema.Built env.catalog env.config t m := by
  obtain ⟨hm, rfl⟩ := find?_of_some found
  exact h.builtOf hm

theorem find?_mono (hs : Consistent env s) (le : Le r s) (found : r.find? t = some m) :
    s.find? t = some m := by
  obtain ⟨hm, same⟩ := find?_of_some found
  exact hs.find?_eq_some.2 ⟨le.loaded hm, same⟩

end Consistent

theorem Stacked.variants_loaded {ms : List Metadata} (h : Stacked ms) (hm : m ∈ ms) :
    ∀ v ∈ m.variants, v ∈ ms.map (·.type) := by
  induction h with
  | nil => cases hm
  | snoc below new variants ih =>
    intro v hv
    rw [List.map_append, List.mem_append]
    rcases List.mem_append.1 hm with hm | hm
    · exact .inl (ih hm v hv)
    · exact .inl (variants v (List.mem_singleton.1 hm ▸ hv))

/-! ### Variants of a parent -/

/-- A loaded variant is found under its discriminator. -/
theorem Consistent.find?_group (h : Consistent env r) (found : r.find? t = some m)
    {b : VariantBinding} (hb : m.binding = some b) :
    (r.group b.parent).find? b.discriminator = some b := by
  have there := h.bound m (find?_of_some found).1 b hb
  rw [group, Keyed.find?_sorted]
  have mem : b ∈ Keyed.under b.discriminator
      ((r.bindings.filter (·.parent == b.parent)).map fun b => (b.discriminator, b)) := by
    rw [Keyed.mem_under, List.mem_map]
    exact ⟨b, List.mem_filter.2 ⟨there, by simp⟩, rfl⟩
  obtain ⟨c, last⟩ := Option.isSome_iff_exists.1
    (List.getLast?_isSome.2 (List.ne_nil_of_mem mem))
  have hc := List.mem_of_getLast? last
  rw [Keyed.mem_under, List.mem_map] at hc
  obtain ⟨d, hd, same⟩ := hc
  obtain ⟨discriminator, rfl⟩ := Prod.mk.inj same
  obtain ⟨hd, parent⟩ := List.mem_filter.1 hd
  have rival : rivals d b = true := by
    simp only [rivals, Bool.and_eq_true, beq_iff_eq]
    exact ⟨by simpa using parent, discriminator⟩
  rw [last, h.apart d hd b there rival]

/-! ### Entering a type -/

theorem mem_bind {b c : VariantBinding} :
    c ∈ (r.bind b).bindings ↔ c ∈ r.bindings ∧ rivals b c = false ∨ c = b := by
  simp [bind]

theorem rivals_self (b : VariantBinding) : rivals b b = true := by simp [rivals]

/-- A type that can be tied takes its name, or its discriminator, which no other type goes by. -/
theorem tie_eq_ok (tie : r.tie m = .ok s) :
    m.binding = none ∧ s = { r with names := r.names.put m.name m.type } ∨
      ∃ b, m.binding = some b ∧ s = r.bind b ∧
        ∀ c, r.bindings.find? (rivals b) = some c → c.entity = m.type := by
  unfold Registry.tie at tie
  split at tie
  · rename_i unbound
    cases tie
    exact .inl ⟨unbound, rfl⟩
  · rename_i b bound
    split at tie
    · rename_i other found
      split at tie
      · rename_i own
        cases tie
        refine .inr ⟨b, bound, rfl, fun c there => ?_⟩
        cases found.symm.trans there
        exact own
      · cases tie
    · rename_i free
      cases tie
      exact .inr ⟨b, bound, rfl, fun c there => by cases free.symm.trans there⟩

/-- Entering a type fails only over a discriminator that another type goes by. -/
theorem tie_of_no_rival (free : ∀ b, m.binding = some b → ∀ c ∈ r.bindings, rivals b c = true →
    c.entity = m.type) : ∃ s, r.tie m = .ok s := by
  unfold tie
  split
  · exact ⟨_, rfl⟩
  · rename_i b hb
    split
    · rename_i c hc
      rw [if_pos (free b hb c (List.mem_of_find?_eq_some hc) (List.find?_some hc))]
      exact ⟨_, rfl⟩
    · exact ⟨_, rfl⟩

/-- What tying a type changes: its binding is there afterwards, with every other one, and none of
these is its rival. -/
structure Tied (r : Registry) (m : Metadata) (s : Registry) : Prop where
  loaded : s.loaded = r.loaded
  mem : ∀ c, c ∈ s.bindings ↔ c ∈ r.bindings ∨ m.binding = some c
  sole : ∀ b, m.binding = some b → ∀ c ∈ r.bindings, rivals b c = true → c = b

theorem rivals_trans {a b c : VariantBinding} (h : rivals b a = true) (g : rivals b c = true) :
    rivals a c = true := by
  simp only [rivals, Bool.and_eq_true, beq_iff_eq] at *
  exact ⟨h.1.symm.trans g.1, h.2.symm.trans g.2⟩

namespace Consistent

theorem eq_of_entity (h : Consistent env r)
    (build : Schema.build env.catalog env.config m.type = .ok m) {b c : VariantBinding}
    (hb : m.binding = some b) (hc : c ∈ r.bindings) (same : c.entity = m.type) : c = b := by
  obtain ⟨n, hn, binding⟩ := h.backed c hc
  have type : m.type = n.type := same.symm.trans ((h.builtOf hn).entity_eq binding)
  have metadata : Except.ok n = Except.ok m := (h.built n hn).symm.trans (type ▸ build)
  cases metadata
  exact Option.some.inj (binding.symm.trans hb)

theorem tied (h : Consistent env r)
    (build : Schema.build env.catalog env.config m.type = .ok m) (tie : r.tie m = .ok s) :
    Tied r m s := by
  obtain ⟨unbound, rfl⟩ | ⟨b, hb, rfl, own⟩ := tie_eq_ok tie
  · exact ⟨rfl, fun c => by simp [unbound], fun b hb => by simp [unbound] at hb⟩
  · have sole : ∀ c ∈ r.bindings, rivals b c = true → c = b := by
      intro c hc rival
      cases found : r.bindings.find? (rivals b) with
      | some other =>
        have there := List.mem_of_find?_eq_some found
        rw [h.apart c hc other there (rivals_trans rival (List.find?_some found))]
        exact h.eq_of_entity build hb there (own other found)
      | none => exact absurd rival (by simpa using List.find?_eq_none.1 found c hc)
    refine ⟨rfl, fun c => ?_, fun d hd => Option.some.inj (hb.symm.trans hd) ▸ sole⟩
    rw [mem_bind, hb]
    constructor
    · rintro (⟨hc, -⟩ | rfl)
      · exact .inl hc
      · exact .inr rfl
    · rintro (hc | same)
      · cases rival : rivals b c
        · exact .inl ⟨hc, rfl⟩
        · exact .inr (sole c hc rival)
      · exact .inr (Option.some.inj same).symm

end Consistent

theorem loaded_keep_of_found (found : r.find? m.type = some n) : r.keep m = r := by
  rw [keep, found]
  rfl

theorem keep_of_new (new : r.find? m.type = none) :
    r.keep m = { r with loaded := r.loaded ++ [m] } := by
  rw [keep, new]
  rfl

/-- Keeping a tied type whose variants are loaded leaves a consistent registry. -/
theorem Consistent.keep (h : Consistent env r)
    (build : Schema.build env.catalog env.config m.type = .ok m)
    (variants : ∀ v ∈ m.variants, v ∈ r.loaded.map (·.type)) (tied : Tied r m s) :
    Consistent env (s.keep m) ∧ Le r (s.keep m) ∧ (s.keep m).find? m.type = some m := by
  have apart : ∀ b ∈ s.bindings, ∀ c ∈ s.bindings, rivals b c = true → b = c := by
    intro b hb c hc rival
    rcases (tied.mem b).1 hb with hb | hb
    · rcases (tied.mem c).1 hc with hc | hc
      · exact h.apart b hb c hc rival
      · exact tied.sole c hc b hb (rivals_trans rival (rivals_self b))
    · rcases (tied.mem c).1 hc with hc | hc
      · exact (tied.sole b hb c hc rival).symm
      · exact Option.some.inj (hb.symm.trans hc)
  cases found : s.find? m.type with
  | some n =>
    have there : r.find? m.type = some n := by rw [find?, ← tied.loaded]; exact found
    obtain ⟨hn, type⟩ := find?_of_some there
    have same : Except.ok n = Except.ok m := (h.built n hn).symm.trans (type ▸ build)
    cases same
    rw [loaded_keep_of_found found]
    refine ⟨⟨?_, ?_, ?_, ?_, apart⟩, ⟨?_, ?_⟩, found⟩
    · exact tied.loaded ▸ h.built
    · exact tied.loaded ▸ h.stacked
    · exact fun k hk b hb => (tied.mem b).2 (.inl (h.bound k (tied.loaded ▸ hk) b hb))
    · intro b hb
      rw [tied.loaded]
      rcases (tied.mem b).1 hb with hb | hb
      · exact h.backed b hb
      · exact ⟨m, hn, hb⟩
    · exact fun k hk => tied.loaded ▸ hk
    · exact fun b hb => (tied.mem b).2 (.inl hb)
  | none =>
    rw [keep_of_new found]
    have new : m.type ∉ r.loaded.map (·.type) := by
      intro hm
      obtain ⟨n, hn⟩ := exists_find? hm
      rw [find?, tied.loaded, ← find?, hn] at found
      cases found
    have built : ∀ k ∈ s.loaded ++ [m], Schema.build env.catalog env.config k.type = .ok k := by
      intro k hk
      rw [tied.loaded] at hk
      rcases List.mem_append.1 hk with hk | hk
      · exact h.built k hk
      · exact List.mem_singleton.1 hk ▸ build
    have consistent : Consistent env { s with loaded := s.loaded ++ [m] } := by
      refine ⟨built, ?_, ?_, ?_, apart⟩
      · rw [tied.loaded]
        exact .snoc h.stacked new variants
      · intro k hk b hb
        rw [tied.loaded] at hk
        rcases List.mem_append.1 hk with hk | hk
        · exact (tied.mem b).2 (.inl (h.bound k hk b hb))
        · exact (tied.mem b).2 (.inr (List.mem_singleton.1 hk ▸ hb))
      · intro b hb
        rcases (tied.mem b).1 hb with hb | hb
        · obtain ⟨k, hk, binding⟩ := h.backed b hb
          exact ⟨k, List.mem_append_left _ (tied.loaded ▸ hk), binding⟩
        · exact ⟨m, List.mem_append_right _ (List.mem_singleton_self m), hb⟩
    refine ⟨consistent, ⟨?_, ?_⟩, ?_⟩
    · exact fun k hk => List.mem_append_left _ (tied.loaded ▸ hk)
    · exact fun b hb => (tied.mem b).2 (.inl hb)
    · exact consistent.find?_eq_some.2 ⟨List.mem_append_right _ (List.mem_singleton_self m), rfl⟩

end Registry

end EntityMapping
