import EntityMapping.Proofs.Schema.Built
import Mathlib.Logic.Relation

/-!
The keys of one record level. An attribute writes its own key, an embedded object the keys of its
attributes. Accepting a type makes sure that its attributes write different keys, and that what
it embeds, directly or through others, does not lead back to a type on the way.
-/

namespace EntityMapping.Schema

variable {catalog : Catalog} {config : Config}

/-- An attribute writes a key into the record of its owner, itself or through what it embeds. -/
inductive NativeKey (catalog : Catalog) (config : Config) : MappedField → String → Prop where
  | own {f : MappedField} (single : ∀ u, f.type ≠ .embedded u) : NativeKey catalog config f f.key
  | inner {f g : MappedField} {u : TypeRef} {k : String} (embeds : f.type = .embedded u)
      (mem : g ∈ declared catalog config u) (below : NativeKey catalog config g k) :
      NativeKey catalog config f k

/-- Native keys depend on a configuration by the declared attributes only. -/
theorem NativeKey.congr {config' : Config}
    (same : ∀ t, declared catalog config t = declared catalog config' t) {f : MappedField}
    {k : String} (h : NativeKey catalog config f k) : NativeKey catalog config' f k := by
  induction h with
  | own single => exact .own single
  | inner embeds mem _ ih => exact .inner embeds (same _ ▸ mem) ih

theorem nativeKey_single {f : MappedField} {k : String} (single : ∀ u, f.type ≠ .embedded u) :
    NativeKey catalog config f k ↔ k = f.key := by
  constructor
  · intro h
    cases h with
    | own => rfl
    | inner embeds => exact absurd embeds (single _)
  · rintro rfl
    exact .own single

theorem nativeKey_embedded {f : MappedField} {u : TypeRef} {k : String}
    (embeds : f.type = .embedded u) :
    NativeKey catalog config f k ↔
      ∃ g ∈ declared catalog config u, NativeKey catalog config g k := by
  constructor
  · intro h
    cases h with
    | own single => exact absurd embeds (single _)
    | inner embeds' mem below =>
      rw [embeds] at embeds'
      cases embeds'
      exact ⟨_, mem, below⟩
  · rintro ⟨g, mem, below⟩
    exact .inner embeds mem below

/-- Two attributes write no key in common. -/
def KeysApart (catalog : Catalog) (config : Config) (f g : MappedField) : Prop :=
  ∀ k, NativeKey catalog config f k → ¬ NativeKey catalog config g k

/-- What a type embeds never leads back to a type on the way; `fresh` are the types that are not
on the way yet. -/
inductive Enterable (catalog : Catalog) (config : Config) : List TypeRef → TypeRef → Prop where
  | intro {fresh : List TypeRef} {t : TypeRef} (mem : t ∈ fresh)
      (below : ∀ f ∈ declared catalog config t, ∀ u, f.type = .embedded u →
        Enterable catalog config (fresh.erase t) u) : Enterable catalog config fresh t

theorem Enterable.mem {fresh : List TypeRef} {t : TypeRef} (h : Enterable catalog config fresh t) :
    t ∈ fresh := by
  cases h with
  | intro mem below => exact mem

/-- Types that embed only types of their own sort can be entered without any type of another
sort. -/
theorem Enterable.avoid {S : TypeRef → Prop} {fresh : List TypeRef} {t p : TypeRef}
    (h : Enterable catalog config fresh t) (sort : S t) (other : ¬ S p)
    (closed : ∀ t, S t → ∀ f ∈ declared catalog config t, ∀ u, f.type = .embedded u → S u) :
    Enterable catalog config (fresh.erase p) t := by
  induction h with
  | @intro fresh t mem below ih =>
    have apart : t ≠ p := fun same => other (same ▸ sort)
    refine .intro ((List.mem_erase_of_ne apart).2 mem) fun f hf u hu => ?_
    rw [List.erase_comm]
    exact ih f hf u hu (closed t sort f hf u hu)

/-- What collecting the keys of some attributes behind others tells about them. -/
structure Collected (catalog : Catalog) (config : Config) (fresh : List TypeRef)
    (seen : List String) (fs : List MappedField) (keys : List String) : Prop where
  mem : ∀ k, k ∈ keys ↔ k ∈ seen ∨ ∃ f ∈ fs, NativeKey catalog config f k
  unseen : ∀ f ∈ fs, ∀ k, NativeKey catalog config f k → k ∉ seen
  apart : fs.Pairwise (KeysApart catalog config)
  enterable : ∀ f ∈ fs, ∀ u, f.type = .embedded u → Enterable catalog config fresh u

namespace Collected

variable {fresh : List TypeRef} {seen between keys : List String} {f : MappedField}
  {fs : List MappedField}

theorem nil : Collected catalog config fresh seen [] seen :=
  ⟨by simp, by simp, .nil, by simp⟩

/-- The keys of one attribute are collected before those of the next. -/
theorem cons (own : Collected catalog config fresh seen [f] between)
    (rest : Collected catalog config fresh between fs keys) :
    Collected catalog config fresh seen (f :: fs) keys where
  mem k := by
    rw [rest.mem, own.mem]
    simp [or_assoc]
  unseen g hg k hk := by
    rcases List.mem_cons.1 hg with rfl | hg
    · exact own.unseen _ (List.mem_singleton_self _) k hk
    · exact fun old => rest.unseen g hg k hk ((own.mem k).2 (.inl old))
  apart := by
    refine List.pairwise_cons.2 ⟨fun g hg k hf hk => ?_, rest.apart⟩
    exact rest.unseen g hg k hk ((own.mem k).2 (.inr ⟨f, List.mem_singleton_self f, hf⟩))
  enterable g hg u hu := by
    rcases List.mem_cons.1 hg with rfl | hg
    · exact own.enterable _ (List.mem_singleton_self _) u hu
    · exact rest.enterable g hg u hu

theorem single (single : ∀ u, f.type ≠ .embedded u) (new : f.key ∉ seen) :
    Collected catalog config fresh seen [f] (seen ++ [f.key]) where
  mem k := by simp [nativeKey_single single]
  unseen g hg k hk := by
    rw [List.mem_singleton.1 hg, nativeKey_single single] at hk
    exact hk ▸ new
  apart := List.pairwise_singleton _ _
  enterable g hg u hu := by
    rw [List.mem_singleton.1 hg] at hu
    exact absurd hu (single u)

theorem embedded {u : TypeRef} (embeds : f.type = .embedded u) (mem : u ∈ fresh)
    (below : Collected catalog config (fresh.erase u) seen (declared catalog config u) keys) :
    Collected catalog config fresh seen [f] keys where
  mem k := by simp [below.mem, nativeKey_embedded embeds]
  unseen g hg k hk := by
    rw [List.mem_singleton.1 hg, nativeKey_embedded embeds] at hk
    obtain ⟨h, hh, hk⟩ := hk
    exact below.unseen h hh k hk
  apart := List.pairwise_singleton _ _
  enterable g hg v hv := by
    rw [List.mem_singleton.1 hg, embeds] at hv
    cases hv
    exact .intro mem below.enterable

end Collected

/-- Collecting the keys of some attributes succeeds only if they go together. -/
theorem collected_of_collectKeys {fresh : List TypeRef} {seen keys : List String}
    {fs : List MappedField} (h : collectKeys catalog config fresh seen fs = .ok keys) :
    Collected catalog config fresh seen fs keys := by
  induction fresh, seen, fs using collectKeys.induct generalizing keys with
  | case1 fresh seen =>
    rw [collectKeys] at h
    cases h
    exact .nil
  | case2 fresh seen f fs inner rest =>
    rw [collectKeys] at h
    obtain ⟨between, own, h⟩ := bind_eq_ok h
    refine .cons ?_ (rest between h)
    split at own
    · rename_i u embeds
      split at own
      · rename_i mem
        obtain ⟨children, fields, own⟩ := bind_eq_ok own
        have below := inner u mem children own
        rw [(fieldsOf_ok fields).1] at below
        exact .embedded embeds mem below
      · cases own
    · rename_i other
      split at own
      · cases own
      · rename_i new
        cases own
        exact .single other new

namespace Built

variable {t : TypeRef} {m : Metadata}

theorem collected (h : Built catalog config t m) :
    ∃ ks, Collected catalog config (catalog.types.erase t) [] m.fields ks := by
  obtain ⟨ks, hk⟩ := h.keys
  exact ⟨ks, collected_of_collectKeys hk⟩

theorem keysApart (h : Built catalog config t m) :
    m.fields.Pairwise (KeysApart catalog config) := h.collected.choose_spec.apart

theorem enterable (h : Built catalog config t m) : Enterable catalog config catalog.types t := by
  obtain ⟨ks, hk⟩ := h.collected
  rw [h.fields] at hk
  exact .intro h.mem_types hk.enterable

end Built

end EntityMapping.Schema

namespace EntityMapping.Catalog

def Embeds (catalog : Catalog) (t u : TypeRef) : Prop :=
  ∃ f ∈ (catalog.describe t).fields, f.type = .embedded u

/-- What an accepted type embeds does not lead back to it by embedding. -/
theorem acc_embeds {catalog : Catalog} {config : Config} {fresh : List TypeRef} {t : TypeRef}
    (h : Schema.Enterable catalog config fresh t) : Acc (Function.swap catalog.Embeds) t := by
  induction h with
  | intro mem below ih =>
    refine ⟨_, fun v ⟨f, hf, hv⟩ => ?_⟩
    exact ih _ (List.mem_map_of_mem hf) v hv

end EntityMapping.Catalog
