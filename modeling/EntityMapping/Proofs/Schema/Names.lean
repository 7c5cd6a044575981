import EntityMapping.Proofs.Schema.Way

/-!
The names of attributes as paths. Every attribute of a type is in the index under its name. The
entry is its own unless the name is spelled like a path through objects, which a name without points
never is.
-/

namespace EntityMapping

/-- Inserting a key keeps the others. -/
theorem Keyed.mem_keys_insert_of {α : Type} {key k : String} {value : α} {es : Keyed α}
    (h : k = key ∨ k ∈ es.keys) : k ∈ (es.insert key value).keys := by
  induction es with
  | nil =>
    rcases h with rfl | h
    · exact List.mem_singleton_self k
    · cases h
  | cons e rest ih =>
    obtain ⟨l, v⟩ := e
    simp only [keys, List.map_cons, List.mem_cons] at h
    unfold insert
    split
    · simpa [keys] using h
    · split
      · rename_i same
        subst same
        simpa [keys] using h
      · rcases h with rfl | rfl | h
        · exact List.mem_cons_of_mem _ (ih (.inl rfl))
        · exact List.mem_cons_self ..
        · exact List.mem_cons_of_mem _ (ih (.inr h))

namespace Schema

variable {catalog : Catalog} {config : Config} {t : TypeRef} {f : MappedField}

theorem mem_keys_foldl_insert {index below : Keyed NativePath} {k : String}
    (h : k ∈ index.keys) :
    k ∈ Keyed.keys (below.foldl (fun index (p, n) => index.insert p n) index) := by
  induction below generalizing index with
  | nil => exact h
  | cons e below ih => exact ih (Keyed.mem_keys_insert_of (.inr h))

/-- An index keeps its keys and gets the names of the attributes that are added. -/
theorem mem_keys_indexFields {fresh : List TypeRef} {path native : String}
    {index out : Keyed NativePath} {fs : List MappedField}
    (h : indexFields catalog config fresh path native index fs = .ok out) :
    (∀ k ∈ index.keys, k ∈ out.keys) ∧ ∀ f ∈ fs, path ++ f.field ∈ out.keys := by
  induction fs generalizing index with
  | nil =>
    rw [indexFields] at h
    cases h
    exact ⟨fun k hk => hk, fun f hf => by cases hf⟩
  | cons f fs ih =>
    rw [indexFields] at h
    obtain ⟨between, own, h⟩ := bind_eq_ok h
    obtain ⟨kept, rest⟩ := ih h
    have grown : (∀ k ∈ index.keys, k ∈ between.keys) ∧ path ++ f.field ∈ between.keys := by
      split at own
      · cases own
        exact ⟨fun k hk => Keyed.mem_keys_insert_of (.inr hk), Keyed.mem_keys_insert_of (.inl rfl)⟩
      · obtain ⟨below, -, own⟩ := bind_eq_ok own
        cases own
        exact ⟨fun k hk => mem_keys_foldl_insert (Keyed.mem_keys_insert_of (.inr hk)),
          mem_keys_foldl_insert (Keyed.mem_keys_insert_of (.inl rfl))⟩
    refine ⟨fun k hk => kept k (grown.1 k hk), fun g hg => ?_⟩
    rcases List.mem_cons.1 hg with rfl | hg
    · exact kept _ grown.2
    · exact rest g hg

/-- No path through objects is spelled like the name of an attribute. -/
def Distinctive (catalog : Catalog) (config : Config) (t : TypeRef) (f : MappedField) : Prop :=
  ∀ w, Way catalog config t w → spelling w = f.field → w = [f]

/-- The entry of a name that no path through objects is spelled like is that of its attribute. -/
theorem Built.findNative?_field {m : Metadata} (h : Built catalog config t m) (mem : f ∈ m.fields)
    (leaf : f.type.element? = none) (distinctive : Distinctive catalog config t f) :
    m.findNative? f.field = some ⟨f.key, f⟩ := by
  have there : f.field ∈ m.paths.keys := by
    have named := (mem_keys_indexFields h.paths).2 f mem
    rwa [String.empty_append] at named
  cases found : m.findNative? f.field with
  | none => exact absurd there (Keyed.find?_eq_none.1 found)
  | some n =>
    obtain ⟨w, way, spelled, last, native⟩ := h.exists_way found
    obtain rfl := distinctive w way spelled.symm
    obtain ⟨path, g⟩ := n
    obtain rfl : f = g := Option.some.inj last
    have path_eq := native leaf
    rw [nativeSpelling, levelKeys_single (not_embedded_of_leaf leaf), levelKeys,
      String.intercalate_singleton, String.empty_append] at path_eq
    exact congrArg (fun p => some (NativePath.mk p f)) path_eq

/-- A name without points is the path of its attribute only. -/
theorem Built.distinctive {m : Metadata} (h : Built catalog config t m) (mem : f ∈ m.fields)
    (plain : '.' ∉ f.field.toList) : Distinctive catalog config t f := by
  intro w way spelled
  cases way with
  | @last t g other =>
    have fields : g.field = f.field := by
      rw [← spelled, spelling_single]
    rw [← h.fields] at other
    rw [h.eq_of_field_eq other mem fields]
  | step _ _ rest =>
    rw [spelling_cons rest.ne_nil] at spelled
    refine absurd ?_ plain
    rw [← spelled, String.toList_append, String.toList_append]
    simp

end Schema

end EntityMapping
