import EntityMapping.Proofs.Schema.Level

/-!
Discriminators among the keys of a record level. A variant marks its records with a column of its
own choice, also where it is embedded into the record of another object. Accepting a type compares
native keys only, so that these columns stay apart from other keys is an assumption of its own.
-/

namespace EntityMapping.Schema

variable {catalog : Catalog} {config : Config} {f : MappedField} {t u : TypeRef} {k : String}

/-- An attribute writes a discriminator under a key into the record of its owner, for a variant
that it embeds or that is embedded further below. -/
inductive MarkKey (catalog : Catalog) (config : Config) : MappedField → String → Prop where
  | own {f : MappedField} {u : TypeRef} {b : VariantBinding} (embeds : f.type = .embedded u)
      (bound : declaredBinding catalog config u = some b) : MarkKey catalog config f b.column
  | inner {f g : MappedField} {u : TypeRef} {k : String} (embeds : f.type = .embedded u)
      (mem : g ∈ declared catalog config u) (below : MarkKey catalog config g k) :
      MarkKey catalog config f k

/-- A key that an attribute writes into the record of its owner. -/
def LevelKey (catalog : Catalog) (config : Config) (f : MappedField) (k : String) : Prop :=
  NativeKey catalog config f k ∨ MarkKey catalog config f k

/-- A key that the instances of a type write into their record. -/
def TypeKey (catalog : Catalog) (config : Config) (t : TypeRef) (k : String) : Prop :=
  (∃ f ∈ declared catalog config t, LevelKey catalog config f k) ∨
    ∃ b, declaredBinding catalog config t = some b ∧ b.column = k

section

variable {config' : Config} (fields : ∀ t, declared catalog config t = declared catalog config' t)
  (bindings : ∀ t, declaredBinding catalog config t = declaredBinding catalog config' t)

include fields bindings

theorem MarkKey.congr (h : MarkKey catalog config f k) : MarkKey catalog config' f k := by
  induction h with
  | own embeds bound => exact .own embeds (bindings _ ▸ bound)
  | inner embeds mem _ ih => exact .inner embeds (fields _ ▸ mem) ih

theorem LevelKey.congr (h : LevelKey catalog config f k) : LevelKey catalog config' f k :=
  h.imp (.congr fields) (.congr fields bindings)

end

theorem levelKey_single (single : ∀ u, f.type ≠ .embedded u) :
    LevelKey catalog config f k ↔ k = f.key := by
  rw [LevelKey, nativeKey_single single]
  constructor
  · rintro (h | ⟨embeds, -⟩ | ⟨embeds, -⟩)
    · exact h
    · exact absurd embeds (single _)
    · exact absurd embeds (single _)
  · exact .inl

theorem levelKey_embedded (embeds : f.type = .embedded u) :
    LevelKey catalog config f k ↔ TypeKey catalog config u k := by
  rw [LevelKey, TypeKey, nativeKey_embedded embeds]
  constructor
  · rintro (⟨g, mem, below⟩ | h)
    · exact .inl ⟨g, mem, .inl below⟩
    · cases h with
      | own embeds' bound =>
        rw [embeds] at embeds'
        cases embeds'
        exact .inr ⟨_, bound, rfl⟩
      | inner embeds' mem below =>
        rw [embeds] at embeds'
        cases embeds'
        exact .inl ⟨_, mem, .inr below⟩
  · rintro (⟨g, mem, below | below⟩ | ⟨b, bound, rfl⟩)
    · exact .inl ⟨g, mem, below⟩
    · exact .inr (.inner embeds mem below)
    · exact .inr (.own embeds bound)

/-- No discriminator column of a record level is another native key or discriminator column of
the level: neither the column of one attribute and a key of another one, nor the column of the
type itself and a key of an attribute. -/
structure MarksApart (catalog : Catalog) (config : Config) (t : TypeRef) : Prop where
  fields : (declared catalog config t).Pairwise fun f g => ∀ k,
    (MarkKey catalog config f k → ¬ LevelKey catalog config g k) ∧
      (MarkKey catalog config g k → ¬ LevelKey catalog config f k)
  own : ∀ b, declaredBinding catalog config t = some b → ∀ f ∈ declared catalog config t,
    ¬ LevelKey catalog config f b.column

theorem MarksApart.congr {config' : Config} (h : MarksApart catalog config t)
    (fields : ∀ t, declared catalog config t = declared catalog config' t)
    (bindings : ∀ t, declaredBinding catalog config t = declaredBinding catalog config' t) :
    MarksApart catalog config' t where
  fields := by
    have fields' := fun t => (fields t).symm
    have bindings' := fun t => (bindings t).symm
    rw [← fields]
    refine h.fields.imp fun {f g} apart k => ⟨fun mark level => ?_, fun mark level => ?_⟩
    · exact (apart k).1 (mark.congr fields' bindings') (level.congr fields' bindings')
    · exact (apart k).2 (mark.congr fields' bindings') (level.congr fields' bindings')
  own b bound f mem level :=
    h.own b (bindings t ▸ bound) f (fields t ▸ mem)
      (level.congr (fun t => (fields t).symm) fun t => (bindings t).symm)

/-- Two attributes write no key in common, native or not. -/
def LevelsApart (catalog : Catalog) (config : Config) (f g : MappedField) : Prop :=
  ∀ k, LevelKey catalog config f k → ¬ LevelKey catalog config g k

/-- An accepted type whose discriminator columns stay apart writes no key twice. -/
theorem Built.levelsApart {m : Metadata} (h : Built catalog config t m)
    (marks : MarksApart catalog config t) :
    (declared catalog config t).Pairwise (LevelsApart catalog config) := by
  have native := h.keysApart
  rw [h.fields] at native
  refine (native.and marks.fields).imp fun {f g} both k hf hg => ?_
  obtain ⟨native, marked⟩ := both
  rcases hf with hf | hf
  · rcases hg with hg | hg
    · exact native k hf hg
    · exact (marked k).2 hg (.inl hf)
  · exact (marked k).1 hf hg

end EntityMapping.Schema
