import EntityMapping.Proofs.Collection
import EntityMapping.Proofs.Schema.Built

/-!
Where the paths of a type lead. A way goes from attribute to attribute, each an attribute of the
objects in the one before. Its path joins the names of the attributes; its native path joins the
keys of the records that it enters, since embedded objects have none. Every path of the index is the
path of a way, and one that ends on a value leads to the native path of the way.
-/

namespace EntityMapping

namespace Schema

variable {catalog : Catalog} {config : Config} {t : TypeRef} {f : MappedField}
  {w : List MappedField}

/-- Attributes that lead from a type through objects to the last one. -/
inductive Way (catalog : Catalog) (config : Config) : TypeRef → List MappedField → Prop where
  | last {t : TypeRef} {f : MappedField} (mem : f ∈ declared catalog config t) :
      Way catalog config t [f]
  | step {t u : TypeRef} {f : MappedField} {w : List MappedField}
      (mem : f ∈ declared catalog config t) (object : f.type.element? = some u)
      (rest : Way catalog config u w) : Way catalog config t (f :: w)

theorem Way.ne_nil (h : Way catalog config t w) : w ≠ [] := by
  cases h <;> exact List.cons_ne_nil _ _

def spelling (w : List MappedField) : String := ".".intercalate (w.map (·.field))

/-- The keys of the records that a way enters, and of its last attribute. -/
def levelKeys : List MappedField → List String
  | [] => []
  | f :: w =>
    match f.type with
    | .embedded _ => levelKeys w
    | _ => f.key :: levelKeys w

def nativeSpelling (w : List MappedField) : String := ".".intercalate (levelKeys w)

theorem levelKeys_embedded {u : TypeRef} (h : f.type = .embedded u) :
    levelKeys (f :: w) = levelKeys w := by
  rw [levelKeys, h]

theorem levelKeys_single (h : ∀ u, f.type ≠ .embedded u) :
    levelKeys (f :: w) = f.key :: levelKeys w := by
  rw [levelKeys]
  split
  · rename_i u embeds
    exact absurd embeds (h u)
  · rfl

theorem not_embedded_of_leaf (h : f.type.element? = none) : ∀ u, f.type ≠ .embedded u := by
  intro u embeds
  rw [embeds] at h
  cases h

/-- A way that ends on a value has a native path. -/
theorem levelKeys_ne_nil (last : w.getLast? = some f) (leaf : f.type.element? = none) :
    levelKeys w ≠ [] := by
  induction w with
  | nil => cases last
  | cons g w ih =>
    by_cases single : ∀ u, g.type ≠ .embedded u
    · rw [levelKeys_single single]
      exact List.cons_ne_nil _ _
    · have ⟨u, embeds⟩ : ∃ u, g.type = .embedded u := by simpa using single
      rw [levelKeys_embedded embeds]
      cases w with
      | nil =>
        cases last
        exact absurd embeds (not_embedded_of_leaf leaf u)
      | cons h w => exact ih (by simpa using last)

theorem spelling_single : spelling [f] = f.field := by
  rw [spelling, List.map_singleton, String.intercalate_singleton]

theorem spelling_cons (h : w ≠ []) : spelling (f :: w) = f.field ++ "." ++ spelling w := by
  rw [spelling, List.map_cons, String.intercalate_cons_of_ne_nil (by simpa using h)]
  rfl

theorem nativePrefix_append {before : String} (h : levelKeys w ≠ []) :
    nativePrefix before f ++ nativeSpelling w = before ++ nativeSpelling (f :: w) := by
  rw [nativePrefix]
  split
  · rename_i u embeds
    rw [nativeSpelling, nativeSpelling, levelKeys_embedded embeds]
  · rename_i single
    rw [nativeSpelling, nativeSpelling, levelKeys_single single,
      String.intercalate_cons_of_ne_nil h]
    simp only [String.append_assoc]

/-! ### The index -/

/-- An entry of an index is the last attribute of a way, and leads along its native path if that is
a value. -/
structure Leads (before : String) (w : List MappedField) (n : NativePath) : Prop where
  last : w.getLast? = some n.field
  native : n.field.type.element? = none → n.native = before ++ nativeSpelling w

/-- An entry of an index, behind what stands before its paths and native paths, stems from a way. -/
def Explained (catalog : Catalog) (config : Config) (t : TypeRef) (path native : String)
    (e : String × NativePath) : Prop :=
  ∃ w, Way catalog config t w ∧ e.1 = path ++ spelling w ∧ Leads native w e.2

theorem explained_leaf {path native : String} (mem : f ∈ declared catalog config t)
    (leaf : f.type.element? = none) :
    Explained catalog config t path native (path ++ f.field, ⟨native ++ f.key, f⟩) := by
  refine ⟨[f], .last mem, congrArg (path ++ ·) spelling_single.symm, rfl, fun _ => ?_⟩
  rw [nativeSpelling, levelKeys_single (not_embedded_of_leaf leaf), levelKeys,
    String.intercalate_singleton]

theorem explained_object {path native shown : String} {u : TypeRef}
    (mem : f ∈ declared catalog config t) (object : f.type.element? = some u) :
    Explained catalog config t path native (path ++ f.field, ⟨shown, f⟩) := by
  refine ⟨[f], .last mem, congrArg (path ++ ·) spelling_single.symm, rfl, fun leaf => ?_⟩
  rw [show f.type.element? = none from leaf] at object
  cases object

theorem explained_below {path native : String} {u : TypeRef} {e : String × NativePath}
    (mem : f ∈ declared catalog config t) (object : f.type.element? = some u)
    (below : Explained catalog config u (path ++ f.field ++ ".") (nativePrefix native f) e) :
    Explained catalog config t path native e := by
  obtain ⟨w, way, path_eq, last, native_eq⟩ := below
  refine ⟨f :: w, .step mem object way, ?_, ?_, fun leaf => ?_⟩
  · rw [path_eq, spelling_cons way.ne_nil]
    simp only [String.append_assoc]
  · rw [List.getLast?_cons, last]
    rfl
  · rw [native_eq leaf, nativePrefix_append (levelKeys_ne_nil last leaf)]

theorem mem_foldl_insert {index below : Keyed NativePath} {e : String × NativePath}
    (h : e ∈ below.foldl (fun index (p, n) => index.insert p n) index) : e ∈ index ∨ e ∈ below :=
  mem_foldl_add id (fun _ _ _ mem => (Keyed.mem_insert mem).symm) h

/-- Every entry of an index is an old one or stems from a way. -/
theorem explained_of_indexFields {fresh : List TypeRef} {path native : String}
    {index out : Keyed NativePath} {fs : List MappedField} (t : TypeRef)
    (sub : ∀ f ∈ fs, f ∈ declared catalog config t)
    (h : indexFields catalog config fresh path native index fs = .ok out) :
    ∀ e ∈ out, e ∈ index ∨ Explained catalog config t path native e := by
  induction fresh, path, native, index, fs using indexFields.induct generalizing t out with
  | case1 fresh path native index =>
    rw [indexFields] at h
    cases h
    exact fun e he => .inl he
  | case2 fresh path native index f fs =>
    rename_i below rest
    rw [indexFields] at h
    obtain ⟨between, own, h⟩ := bind_eq_ok h
    have mem := sub f (List.mem_cons_self ..)
    have first : ∀ e ∈ between, e ∈ index ∨ Explained catalog config t path native e := by
      intro e he
      split at own
      · rename_i leaf
        cases own
        rcases Keyed.mem_insert he with rfl | he
        · exact .inr (explained_leaf mem leaf)
        · exact .inl he
      · rename_i u object
        obtain ⟨children, inner, own⟩ := bind_eq_ok own
        cases own
        rcases mem_foldl_insert he with he | he
        · rcases Keyed.mem_insert he with rfl | he
          · exact .inr (explained_object mem object)
          · exact .inl he
        · split at inner
          · rename_i entered
            obtain ⟨fs', fields, inner⟩ := bind_eq_ok inner
            have declared_eq := (fieldsOf_ok fields).1
            rcases below u entered fs' u (fun g hg => declared_eq ▸ hg) inner e he with old | new
            · cases old
            · exact .inr (explained_below mem object new)
          · cases inner
            cases he
    intro e he
    rcases rest between t (fun g hg => sub g (List.mem_cons_of_mem _ hg)) h e he with old | new
    · exact first e old
    · exact .inr new

/-- Every path of an accepted type is the path of a way, and leads where the way leads. -/
theorem Built.exists_way {m : Metadata} (h : Built catalog config t m) {p : String}
    {n : NativePath} (found : m.findNative? p = some n) :
    ∃ w, Way catalog config t w ∧ p = spelling w ∧ Leads "" w n := by
  have mem := Keyed.mem_of_find? found
  have sub : ∀ f ∈ m.fields, f ∈ declared catalog config t := fun f hf => h.fields ▸ hf
  rcases explained_of_indexFields t sub h.paths _ mem with old | ⟨w, way, path, leads⟩
  · cases old
  · refine ⟨w, way, ?_, leads⟩
    exact path.trans String.empty_append

end Schema

end EntityMapping
