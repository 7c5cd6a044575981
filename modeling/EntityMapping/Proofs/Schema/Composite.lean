import EntityMapping.Proofs.Schema.Acceptance
import EntityMapping.Proofs.Schema.Names
import Mathlib.Algebra.BigOperators.Group.List.Basic
import Mathlib.Algebra.GroupWithZero.Nat
import Mathlib.Data.List.Flatten
import Mathlib.Data.List.Nodup
import Mathlib.Data.List.Perm.Subperm
import Mathlib.Data.List.TakeWhile

/-!
What the path of an object leads to. It leads to everything that is indexed below it, and that is
more than what is stored: an object inside is indexed with the list of all that is below it, and all
that is below it is indexed once more on its own. So what is stored `n` objects further down comes
up `2 ^ n` times in the list.
-/

namespace EntityMapping

/-! ### Lists up to order -/

/-- Some values are among others, each no more often than there; all of them under a condition. -/
structure Listed {α : Type} (exact : Prop) (xs ys : List α) : Prop where
  within : xs.Subperm ys
  all : exact → xs.Perm ys

namespace Listed

variable {α β : Type} {p q : Prop} {xs ys zs us vs : List α}

theorem of_perm (h : xs.Perm ys) : Listed p xs ys := ⟨h.subperm, fun _ => h⟩

theorem trans (h : Listed p xs ys) (g : Listed p ys zs) : Listed p xs zs :=
  ⟨h.within.trans g.within, fun exact => (h.all exact).trans (g.all exact)⟩

theorem append (h : Listed p xs ys) (g : Listed p us vs) : Listed p (xs ++ us) (ys ++ vs) :=
  ⟨h.within.append g.within, fun exact => (h.all exact).append (g.all exact)⟩

theorem mono (weaker : q → p) (h : Listed p xs ys) : Listed q xs ys :=
  ⟨h.within, fun exact => h.all (weaker exact)⟩

theorem flatMap (h : Listed p xs ys) (f : α → List β) :
    Listed p (xs.flatMap f) (ys.flatMap f) := by
  refine ⟨?_, fun exact => (h.all exact).flatMap_right f⟩
  obtain ⟨zs, perm, sub⟩ := h.within
  exact (perm.flatMap_right f).symm.subperm.trans (sub.flatMap f).subperm

theorem map (h : Listed p xs ys) (f : α → β) : Listed p (xs.map f) (ys.map f) := by
  simpa only [List.map_eq_flatMap] using h.flatMap fun x => [f x]

end Listed

namespace Keyed

variable {α : Type} {key : String} {value : α} {es more : Keyed α}

/-- Inserting adds an element, or puts it in the place of another one. -/
theorem listed_insert :
    Listed (key ∉ es.keys) (Keyed.insert key value es) ((key, value) :: es) := by
  induction es with
  | nil => exact .of_perm .rfl
  | cons e rest ih =>
    obtain ⟨k, v⟩ := e
    unfold insert
    split
    · exact .of_perm .rfl
    · split
      · rename_i same
        subst same
        refine ⟨?_, fun new => absurd (List.mem_cons_self ..) new⟩
        exact ((List.sublist_cons_self ..).cons_cons _).subperm
      · have later : key ∉ keys ((k, v) :: rest) → key ∉ Keyed.keys rest :=
          fun new old => new (List.mem_cons_of_mem _ old)
        have further := (Listed.of_perm (List.Perm.refl [(k, v)])).append (ih.mono later)
        exact further.trans (.of_perm (.swap ..))

/-- Inserting one element after the other. -/
theorem listed_foldl_insert (es more : Keyed α) : Listed (keys (es ++ more)).Nodup
    (more.foldl (fun es (k, v) => Keyed.insert k v es) es) (es ++ more) := by
  induction more generalizing es with
  | nil => exact .of_perm (by simp)
  | cons e more ih =>
    obtain ⟨k, v⟩ := e
    have new : (keys (es ++ (k, v) :: more)).Nodup → k ∉ es.keys := by
      intro nodup old
      rw [keys_append] at nodup
      exact (List.nodup_append.1 nodup).2.2 k old k (List.mem_cons_self ..) rfl
    have step : Listed (keys (es ++ (k, v) :: more)).Nodup
        (Keyed.insert k v es ++ more) (es ++ (k, v) :: more) :=
      ((listed_insert.mono new).append (.of_perm .rfl)).trans (.of_perm List.perm_middle.symm)
    refine .trans ((ih _).mono fun nodup => ?_) step
    exact ((step.all nodup).map Prod.fst).nodup_iff.2 nodup

end Keyed

namespace Schema

variable {catalog : Catalog} {config : Config} {t u : TypeRef} {fresh : List TypeRef}
  {before path native : String} {f : MappedField} {fs v w : List MappedField}
  {index out : Keyed NativePath}

/-! ### Ways that are indexed -/

/-- The attributes that are indexed below an attribute: those of its objects, unless it has none or
they may not be entered. -/
def inside (catalog : Catalog) (config : Config) (fresh : List TypeRef) (f : MappedField) :
    List MappedField :=
  match f.type.element? with
  | none => []
  | some u => if u ∈ fresh then declared catalog config u else []

/-- The types that may still be entered below an attribute. -/
def past (fresh : List TypeRef) (f : MappedField) : List TypeRef :=
  match f.type.element? with
  | none => fresh
  | some u => fresh.erase u

theorem inside_cases (catalog : Catalog) (config : Config) (fresh : List TypeRef)
    (f : MappedField) : inside catalog config fresh f = [] ∨ ∃ u ∈ fresh,
      f.type.element? = some u ∧ inside catalog config fresh f = declared catalog config u ∧
        past fresh f = fresh.erase u := by
  unfold inside past
  split
  · exact .inl rfl
  · rename_i u object
    by_cases mem : u ∈ fresh
    · exact .inr ⟨u, mem, object, if_pos mem, rfl⟩
    · exact .inl (if_neg mem)

theorem length_past_lt (h : ¬ (inside catalog config fresh f).isEmpty) :
    (past fresh f).length < fresh.length := by
  rcases inside_cases catalog config fresh f with nothing | ⟨u, mem, -, -, rest⟩
  · rw [nothing] at h
    exact absurd rfl h
  · rw [rest]
    exact TypeRef.length_erase_lt mem

/-- The ways that are indexed from an attribute on, without the attribute itself. -/
def beyond (catalog : Catalog) (config : Config) (fresh : List TypeRef) (f : MappedField) :
    List (List MappedField) :=
  if _h : (inside catalog config fresh f).isEmpty then [[]]
  else [] :: (inside catalog config fresh f).flatMap fun g =>
    (beyond catalog config (past fresh f) g).map (g :: ·)
termination_by fresh.length
decreasing_by exact length_past_lt _h

/-- The ways that are indexed for some attributes. -/
def ways (catalog : Catalog) (config : Config) (fresh : List TypeRef) (fs : List MappedField) :
    List (List MappedField) :=
  fs.flatMap fun f => (beyond catalog config fresh f).map (f :: ·)

/-- The ways from an attribute on to where nothing more is indexed, without the attribute itself. -/
def ends (catalog : Catalog) (config : Config) (fresh : List TypeRef) (f : MappedField) :
    List (List MappedField) :=
  if _h : (inside catalog config fresh f).isEmpty then [[]]
  else (inside catalog config fresh f).flatMap fun g =>
    (ends catalog config (past fresh f) g).map (g :: ·)
termination_by fresh.length
decreasing_by exact length_past_lt _h

theorem beyond_eq : beyond catalog config fresh f =
    [] :: ways catalog config (past fresh f) (inside catalog config fresh f) := by
  rw [beyond, ways]
  split
  · rename_i nothing
    rw [List.isEmpty_iff.1 nothing]
    rfl
  · rfl

theorem ways_cons : ways catalog config fresh (f :: fs) =
    [f] :: (ways catalog config (past fresh f) (inside catalog config fresh f)).map (f :: ·) ++
      ways catalog config fresh fs := by
  rw [ways, List.flatMap_cons, beyond_eq, List.map_cons, ways, ways]

theorem exists_cons_of_mem_ways (mem : w ∈ ways catalog config fresh fs) :
    ∃ f ∈ fs, ∃ v, w = f :: v := by
  obtain ⟨f, hf, mem⟩ := List.mem_flatMap.1 mem
  obtain ⟨v, -, rfl⟩ := List.mem_map.1 mem
  exact ⟨f, hf, v, rfl⟩

theorem ne_nil_of_mem_ways (mem : w ∈ ways catalog config fresh fs) : w ≠ [] := by
  obtain ⟨f, -, v, rfl⟩ := exists_cons_of_mem_ways mem
  exact List.cons_ne_nil f v

/-- What holds of attributes by what holds of those inside the first of them and of those behind it,
holds of all. -/
theorem induction_inside (catalog : Catalog) (config : Config)
    {P : List TypeRef → List MappedField → Prop} (nil : ∀ fresh, P fresh [])
    (cons : ∀ fresh f fs, P (past fresh f) (inside catalog config fresh f) → P fresh fs →
      P fresh (f :: fs)) (fresh : List TypeRef) (fs : List MappedField) : P fresh fs := by
  induction size : fresh.length using Nat.strong_induction_on generalizing fresh fs with
  | _ n smaller =>
    induction fs with
    | nil => exact nil fresh
    | cons f fs rest =>
      refine cons fresh f fs ?_ rest
      by_cases nothing : inside catalog config fresh f = []
      · rw [nothing]
        exact nil _
      · exact smaller _ (size ▸ length_past_lt (mt List.isEmpty_iff.1 nothing)) _ _ rfl

theorem ends_of_nothing (nothing : inside catalog config fresh f = []) :
    ends catalog config fresh f = [[]] := by
  rw [ends, dif_pos (by rw [nothing]; rfl)]

theorem ends_of_inside (h : inside catalog config fresh f ≠ []) :
    ends catalog config fresh f = (inside catalog config fresh f).flatMap fun g =>
      (ends catalog config (past fresh f) g).map (g :: ·) := by
  rw [ends, dif_neg (mt List.isEmpty_iff.1 h)]

/-- The types that may still be entered where a way ends. -/
def left (fresh : List TypeRef) : List MappedField → List TypeRef
  | [] => fresh
  | [_] => fresh
  | f :: w => left (past fresh f) w

/-- The native path of a way, objects at its end included. -/
def landing (before : String) : List MappedField → String
  | [] => before
  | [f] => before ++ f.key
  | f :: w => landing (nativePrefix before f) w

theorem left_cons (h : w ≠ []) : left fresh (f :: w) = left (past fresh f) w := by
  cases w with
  | nil => exact absurd rfl h
  | cons g w => rfl

theorem landing_cons (h : w ≠ []) :
    landing before (f :: w) = landing (nativePrefix before f) w := by
  cases w with
  | nil => exact absurd rfl h
  | cons g w => rfl

/-! ### Joined paths -/

def parts (s : String) : List String := (s.toList.splitOn ',').map String.ofList

theorem parts_of_plain {s : String} (plain : ',' ∉ s.toList) : parts s = [s] := by
  rw [parts, List.splitOn_eq_singleton plain, List.map_singleton, String.ofList_toList]

theorem parts_intercalate {ss : List String} (h : ss ≠ []) :
    parts (",".intercalate ss) = ss.flatMap parts := by
  induction ss with
  | nil => exact absurd rfl h
  | cons s ss ih =>
    cases ss with
    | nil => simp
    | cons s' ss =>
      rw [String.intercalate_cons_of_ne_nil (List.cons_ne_nil s' ss), List.flatMap_cons,
        ← ih (List.cons_ne_nil s' ss)]
      have comma : ",".toList = [','] := rfl
      simp only [parts, String.toList_append, comma]
      rw [List.append_assoc, List.singleton_append, List.splitOn_append_cons_self, List.map_append]

def allParts (index : Keyed NativePath) : List String := index.flatMap fun e => parts e.2.native

theorem parts_composite {below : Keyed NativePath} (plain : ',' ∉ (before ++ f.key).toList) :
    parts (composite before f below) =
      if below = [] then [before ++ f.key] else allParts below := by
  unfold composite
  cases below with
  | nil => exact parts_of_plain plain
  | cons e below =>
    rw [if_neg (by simp), if_neg (List.cons_ne_nil e below), parts_intercalate (by simp), allParts,
      List.flatMap_map]

/-- An index with an attribute and all that is below it. -/
def merge (path native : String) (index : Keyed NativePath) (f : MappedField)
    (below : Keyed NativePath) : Keyed NativePath :=
  below.foldl (fun index (p, n) => index.insert p n)
    (index.insert (path ++ f.field) ⟨composite native f below, f⟩)

/-- Indexing one attribute behind others: what is below it, then the attribute, then the rest. -/
theorem indexFields_cons_eq_ok
    (h : indexFields catalog config fresh path native index (f :: fs) = .ok out) :
    ∃ below, indexFields catalog config (past fresh f) (path ++ f.field ++ ".")
        (nativePrefix native f) [] (inside catalog config fresh f) = .ok below ∧
      indexFields catalog config fresh path native (merge path native index f below) fs =
        .ok out := by
  rw [indexFields] at h
  obtain ⟨between, own, h⟩ := bind_eq_ok h
  cases element : f.type.element? with
  | none =>
    simp only [element] at own
    cases own
    refine ⟨[], ?_, h⟩
    simp only [inside, past, element, indexFields]
  | some u =>
    simp only [element] at own
    obtain ⟨below, entered, own⟩ := bind_eq_ok own
    cases own
    refine ⟨below, ?_, h⟩
    simp only [inside, past, element]
    by_cases mem : u ∈ fresh
    · rw [dif_pos mem] at entered
      rw [if_pos mem]
      obtain ⟨children, fields, entered⟩ := bind_eq_ok entered
      obtain ⟨rfl, -⟩ := fieldsOf_eq_ok.1 fields
      exact entered
    · rw [dif_neg mem] at entered
      cases entered
      rw [if_neg mem, indexFields]

/-- What is indexed below an attribute, at what it joins. -/
def own (catalog : Catalog) (config : Config) (fresh : List TypeRef) (before : String)
    (f : MappedField) : List String :=
  (ends catalog config fresh f).flatMap fun v =>
    List.replicate (2 ^ (v.length - 1)) (landing before (f :: v))

/-- What an attribute and all that is below it join. -/
def tally (catalog : Catalog) (config : Config) (fresh : List TypeRef) (before : String)
    (f : MappedField) : List String :=
  (ends catalog config fresh f).flatMap fun v =>
    List.replicate (2 ^ v.length) (landing before (f :: v))

theorem own_of_nothing (nothing : inside catalog config fresh f = []) :
    own catalog config fresh before f = [before ++ f.key] := by
  rw [own, ends_of_nothing nothing]
  rfl

theorem own_of_inside (h : inside catalog config fresh f ≠ []) :
    own catalog config fresh before f = (inside catalog config fresh f).flatMap
      (tally catalog config (past fresh f) (nativePrefix before f)) := by
  rw [own, ends_of_inside h, List.flatMap_assoc]
  refine congrArg (List.flatMap · _) (funext fun g => ?_)
  rw [List.flatMap_map, tally]
  rfl

/-- What is below an attribute comes up at the attribute and once more on its own. -/
theorem tally_perm : (tally catalog config fresh before f).Perm
    (own catalog config fresh before f ++ (inside catalog config fresh f).flatMap
      (tally catalog config (past fresh f) (nativePrefix before f))) := by
  by_cases h : inside catalog config fresh f = []
  · rw [own_of_nothing h, h, tally, ends_of_nothing h]
    exact .rfl
  · rw [← own_of_inside h]
    refine .trans (.of_eq ?_) (List.flatMap_append_perm _ _ _).symm
    rw [tally]
    refine List.flatMap_congr fun v mem => ?_
    have further : v ≠ [] := by
      rw [ends_of_inside h] at mem
      obtain ⟨g, -, mem⟩ := List.mem_flatMap.1 mem
      obtain ⟨w, -, rfl⟩ := List.mem_map.1 mem
      exact List.cons_ne_nil g w
    obtain ⟨n, length⟩ := Nat.exists_eq_succ_of_ne_zero (mt List.length_eq_zero_iff.1 further)
    rw [length, Nat.succ_sub_one, List.replicate_append_replicate, Nat.pow_succ, Nat.mul_two]

def spellings (catalog : Catalog) (config : Config) (fresh : List TypeRef) (path : String)
    (fs : List MappedField) : List String :=
  (ways catalog config fresh fs).map (path ++ spelling ·)

/-- No path that is indexed for some attributes comes twice, or was there before. -/
def Unambiguous (catalog : Catalog) (config : Config) (fresh : List TypeRef) (path : String)
    (old : List String) (fs : List MappedField) : Prop :=
  (old ++ spellings catalog config fresh path fs).Nodup

theorem spellings_cons : spellings catalog config fresh path (f :: fs) =
    (path ++ f.field) :: (spellings catalog config (past fresh f) (path ++ f.field ++ ".")
      (inside catalog config fresh f) ++ spellings catalog config fresh path fs) := by
  rw [spellings, ways_cons, List.map_append, List.map_cons, List.map_map, List.cons_append,
    spelling_single]
  congr 2
  refine List.map_congr_left fun w mem => ?_
  rw [Function.comp_apply, spelling_cons (ne_nil_of_mem_ways mem)]
  simp only [String.append_assoc]

/-- Unambiguous paths of an attribute and those behind it: the paths below it, what merging them
relies on, and the paths behind it once they have been merged. -/
theorem Unambiguous.cons {old : List String}
    (h : Unambiguous catalog config fresh path old (f :: fs)) :
    Unambiguous catalog config (past fresh f) (path ++ f.field ++ ".") []
        (inside catalog config fresh f) ∧
      (old ++ (path ++ f.field) :: spellings catalog config (past fresh f) (path ++ f.field ++ ".")
        (inside catalog config fresh f)).Nodup := by
  rw [Unambiguous, spellings_cons, ← List.cons_append, ← List.append_assoc] at h
  have before := h.of_append_left
  exact ⟨(List.nodup_cons.1 before.of_append_right).2, before⟩

/-- A native path is that of the end of a way, or joins those of all ways that go on from there: a
way that ends on the `n`-th attribute after it comes `2 ^ (n - 1)` times. -/
structure Spells (catalog : Catalog) (config : Config) (exact : Prop) (fresh : List TypeRef)
    (before : String) (w : List MappedField) (n : NativePath) : Prop where
  last : w.getLast? = some n.field
  joins : Listed exact (parts n.native)
    ((ends catalog config (left fresh w) n.field).flatMap fun v =>
      List.replicate (2 ^ (v.length - 1)) (landing before (w ++ v)))

theorem Spells.mono {p q : Prop} {n : NativePath} (weaker : q → p)
    (h : Spells catalog config p fresh before w n) : Spells catalog config q fresh before w n :=
  ⟨h.last, h.joins.mono weaker⟩

theorem Spells.cons {p : Prop} {n : NativePath} (further : w ≠ [])
    (h : Spells catalog config p (past fresh f) (nativePrefix before f) w n) :
    Spells catalog config p fresh before (f :: w) n := by
  refine ⟨?_, ?_⟩
  · rw [List.getLast?_cons, h.last]
    rfl
  · rw [left_cons further]
    refine h.joins.trans (.of_perm (.of_eq (List.flatMap_congr fun v _ => ?_)))
    rw [List.cons_append, landing_cons (by simp [further])]

/-- What indexing some attributes of a type adds to an index: a path for every way, under which
stands what is joined there. -/
structure Outlined (catalog : Catalog) (config : Config) (t : TypeRef) (fresh : List TypeRef)
    (path native : String) (index : Keyed NativePath) (fs : List MappedField)
    (out : Keyed NativePath) : Prop where
  keys : Listed (Unambiguous catalog config fresh path index.keys fs) out.keys
    (index.keys ++ spellings catalog config fresh path fs)
  total : Listed (Unambiguous catalog config fresh path index.keys fs) (allParts out)
    (allParts index ++ fs.flatMap (tally catalog config fresh native))
  entries : ∀ e ∈ out, e ∈ index ∨ ∃ w, Way catalog config t w ∧ e.1 = path ++ spelling w ∧
    Spells catalog config (Unambiguous catalog config fresh path index.keys fs) fresh native w e.2

theorem Outlined.nil : Outlined catalog config t fresh path native index [] index where
  keys := .of_perm (by simp [spellings, ways])
  total := .of_perm (by simp)
  entries e he := .inl he

section

variable {u : TypeRef} {below : Keyed NativePath}
  (inner : Outlined catalog config u (past fresh f) (path ++ f.field ++ ".")
    (nativePrefix native f) [] (inside catalog config fresh f) below)

include inner

/-- With an attribute the index gets an entry for it and those of what is below it. -/
theorem Outlined.merged (index : Keyed NativePath) (fs : List MappedField) :
    Listed (Unambiguous catalog config fresh path index.keys (f :: fs))
      (merge path native index f below)
      (index ++ (path ++ f.field, ⟨composite native f below, f⟩) :: below) := by
  have inserted := Keyed.listed_foldl_insert index
    ((path ++ f.field, ⟨composite native f below, f⟩) :: below)
  rw [Keyed.keys_append] at inserted
  refine inserted.mono fun exact => ?_
  have below_keys := inner.keys.all exact.cons.1
  exact ((below_keys.cons _).append_left _).nodup_iff.2 exact.cons.2

/-- So it gets their paths. -/
theorem Outlined.keys_merge (index : Keyed NativePath) (fs : List MappedField) :
    Listed (Unambiguous catalog config fresh path index.keys (f :: fs))
      (merge path native index f below).keys
      (index.keys ++ (path ++ f.field) :: spellings catalog config (past fresh f)
        (path ++ f.field ++ ".") (inside catalog config fresh f)) := by
  have keys := (inner.merged index fs).map Prod.fst
  rw [List.map_append] at keys
  have below_keys := inner.keys.mono
    fun exact : Unambiguous catalog config fresh path index.keys (f :: fs) => exact.cons.1
  exact keys.trans (.append (.of_perm .rfl) ((Listed.of_perm (.refl [_])).append below_keys))

theorem Outlined.unambiguous_behind
    (exact : Unambiguous catalog config fresh path index.keys (f :: fs)) :
    Unambiguous catalog config fresh path (merge path native index f below).keys fs := by
  refine (((inner.keys_merge index fs).all exact).append_right _).nodup_iff.2 ?_
  rwa [List.append_assoc, List.cons_append, ← spellings_cons]

/-- The path of the attribute joins what is below it. -/
theorem Outlined.composite_joins (plain : ',' ∉ (native ++ f.key).toList)
    (object : inside catalog config fresh f = [] ∧ below = [] ∨
      f.type.element? = some u ∧ inside catalog config fresh f ≠ [] ∧ below ≠ []) :
    Listed (Unambiguous catalog config (past fresh f) (path ++ f.field ++ ".") []
        (inside catalog config fresh f))
      (parts (composite native f below)) (own catalog config fresh native f) := by
  rw [parts_composite plain]
  rcases object with ⟨nothing, none⟩ | ⟨-, something, some⟩
  · rw [if_pos none, own_of_nothing nothing]
    exact .of_perm .rfl
  · rw [if_neg some, own_of_inside something]
    exact inner.total

theorem Outlined.entries_below {e : String × NativePath} (he : e ∈ below)
    (mem : f ∈ declared catalog config t) (object : f.type.element? = some u) :
    ∃ w, Way catalog config t w ∧ e.1 = path ++ spelling w ∧
      Spells catalog config (Unambiguous catalog config (past fresh f) (path ++ f.field ++ ".") []
        (inside catalog config fresh f)) fresh native w e.2 := by
  obtain old | ⟨w, way, path_eq, spells⟩ := inner.entries e he
  · cases old
  · refine ⟨f :: w, .step mem object way, ?_, spells.cons way.ne_nil⟩
    rw [path_eq, spelling_cons way.ne_nil]
    simp only [String.append_assoc]

/-- An attribute is indexed with what is below it, then the rest. -/
theorem Outlined.cons (mem : f ∈ declared catalog config t)
    (plain : ',' ∉ (native ++ f.key).toList)
    (object : inside catalog config fresh f = [] ∧ below = [] ∨
      f.type.element? = some u ∧ inside catalog config fresh f ≠ [] ∧ below ≠ [])
    (rest : Outlined catalog config t fresh path native (merge path native index f below) fs out) :
    Outlined catalog config t fresh path native index (f :: fs) out := by
  have inner_exact := fun h : Unambiguous catalog config fresh path index.keys (f :: fs) =>
    h.cons.1
  have rest_exact := fun h : Unambiguous catalog config fresh path index.keys (f :: fs) =>
    inner.unambiguous_behind h
  have merged := inner.merged index fs
  have joined := (inner.composite_joins plain object).mono inner_exact
  refine ⟨?_, ?_, fun e he => ?_⟩
  · have keys := (rest.keys.mono rest_exact).trans
      ((inner.keys_merge index fs).append (.of_perm .rfl))
    rwa [List.append_assoc, List.cons_append, ← spellings_cons] at keys
  · have all := merged.flatMap fun e => parts e.2.native
    rw [List.flatMap_append, List.flatMap_cons] at all
    have first : Listed (Unambiguous catalog config fresh path index.keys (f :: fs))
        (allParts (merge path native index f below))
        (allParts index ++ tally catalog config fresh native f) :=
      all.trans (.append (.of_perm .rfl)
        ((joined.append (inner.total.mono inner_exact)).trans (.of_perm tally_perm.symm)))
    have total := (rest.total.mono rest_exact).trans (first.append (.of_perm .rfl))
    rwa [List.append_assoc, ← List.flatMap_cons] at total
  · rcases rest.entries e he with old | ⟨w, way, path_eq, spells⟩
    · rcases List.mem_append.1 (merged.within.subset old) with old | new
      · exact .inl old
      · rcases List.mem_cons.1 new with rfl | below
        · exact .inr ⟨[f], .last mem, congrArg (path ++ ·) spelling_single.symm, rfl, joined⟩
        · obtain ⟨-, none⟩ | ⟨type, -, -⟩ := object
          · rw [none] at below
            cases below
          · obtain ⟨w, way, path_eq, spells⟩ := inner.entries_below below mem type
            exact .inr ⟨w, way, path_eq, spells.mono inner_exact⟩
    · exact .inr ⟨w, way, path_eq, spells.mono rest_exact⟩

end

/-- Indexing the attributes of a type is outlined, if no key on the way has a comma. -/
theorem outlined_of_indexFields {S : TypeRef → Prop}
    (closed : ∀ t u, S t → catalog.Contains t u → S u)
    (keys : ∀ t, S t → ∀ f ∈ declared catalog config t, ',' ∉ f.key.toList) (sort : S t)
    (sub : ∀ f ∈ fs, f ∈ declared catalog config t) (plain : ',' ∉ native.toList)
    (h : indexFields catalog config fresh path native index fs = .ok out) :
    Outlined catalog config t fresh path native index fs out := by
  induction fresh, fs using induction_inside catalog config
    generalizing t path native index out with
  | nil fresh =>
    rw [indexFields] at h
    cases h
    exact .nil
  | cons fresh f fs inner rest =>
    obtain ⟨below, entered, h⟩ := indexFields_cons_eq_ok h
    have mem := sub f (List.mem_cons_self ..)
    have own_plain : ',' ∉ (native ++ f.key).toList := by
      rw [String.toList_append, List.mem_append, not_or]
      exact ⟨plain, keys t sort f mem⟩
    have further := rest sort (fun g hg => sub g (List.mem_cons_of_mem _ hg)) plain h
    rcases inside_cases catalog config fresh f with nothing | ⟨u, -, type, attributes, -⟩
    · rw [nothing, indexFields] at entered
      cases entered
      refine Outlined.cons (u := t) ?_ mem own_plain (.inl ⟨nothing, rfl⟩) further
      rw [nothing]
      exact .nil
    · have below_plain : ',' ∉ (nativePrefix native f).toList := by
        unfold nativePrefix
        split
        · exact plain
        · have point : ".".toList = ['.'] := rfl
          rw [String.toList_append, List.mem_append, not_or, point]
          exact ⟨own_plain, by decide⟩
      have outlined := inner (closed t u sort (contains_iff.2 ⟨f, mem, type⟩))
        (fun g hg => attributes ▸ hg) below_plain entered
      refine outlined.cons mem own_plain ?_ further
      by_cases nothing : inside catalog config fresh f = []
      · rw [nothing, indexFields] at entered
        cases entered
        exact .inl ⟨nothing, rfl⟩
      · refine .inr ⟨type, nothing, ?_⟩
        rintro rfl
        obtain ⟨g, hg⟩ := List.exists_mem_of_ne_nil _ nothing
        exact absurd ((mem_keys_indexFields entered).2 g hg) List.not_mem_nil

/-! ### Names without points -/

/-- What stands before the first point of a path. -/
def firstName (s : String) : List Char := s.toList.takeWhile (· != '.')

theorem firstName_spelling (plain : '.' ∉ f.field.toList) (rest : List MappedField) :
    firstName (spelling (f :: rest)) = f.field.toList := by
  have all : ∀ c ∈ f.field.toList, (c != '.') = true := by
    intro c hc
    simp only [bne_iff_ne]
    rintro rfl
    exact plain hc
  cases rest with
  | nil => rw [firstName, spelling_single, List.takeWhile_eq_self_iff.2 all]
  | cons g rest =>
    have point : ".".toList = ['.'] := rfl
    rw [firstName, spelling_cons (List.cons_ne_nil g rest), String.toList_append,
      String.toList_append, point, List.append_assoc, List.takeWhile_append_of_pos all]
    simp

theorem spelling_cons_ne {g : MappedField} (plain : '.' ∉ f.field.toList)
    (plain' : '.' ∉ g.field.toList) (different : f.field ≠ g.field) (v w : List MappedField) :
    spelling (f :: v) ≠ spelling (g :: w) := by
  intro same
  have names := congrArg firstName same
  rw [firstName_spelling plain, firstName_spelling plain'] at names
  exact different (String.toList_inj.1 names)

/-- Ways that go on from an attribute are spelled differently if the rest of them is. -/
theorem nodup_spelling_through {ws : List (List MappedField)} (plain : '.' ∉ f.field.toList)
    (further : ∀ w ∈ ws, w ≠ []) (rest : (ws.map spelling).Nodup) :
    (([f] :: ws.map (f :: ·)).map spelling).Nodup := by
  have spelled : ws.map (spelling ∘ (f :: ·)) = (ws.map spelling).map (f.field ++ "." ++ ·) := by
    rw [List.map_map]
    exact List.map_congr_left fun w hw => spelling_cons (further w hw)
  rw [List.map_cons, List.map_map, spelled, spelling_single]
  refine List.nodup_cons.2 ⟨fun again => ?_, rest.map fun s s' same => by simpa using same⟩
  obtain ⟨s, -, same⟩ := List.mem_map.1 again
  rw [← same] at plain
  simp at plain

/-- Ways are spelled differently if attributes beside each other have different names, and no name
has a point. -/
theorem nodup_map_spelling_ways {S : TypeRef → Prop}
    (closed : ∀ t u, S t → catalog.Contains t u → S u)
    (plain : ∀ t, S t → ∀ f ∈ declared catalog config t, '.' ∉ f.field.toList) (sort : S t)
    (sub : ∀ f ∈ fs, f ∈ declared catalog config t) (apart : fs.Pairwise (·.field ≠ ·.field))
    (together : ∀ f ∈ fs, ∀ u, f.type.element? = some u → AllTogether catalog config fresh u) :
    ((ways catalog config fresh fs).map spelling).Nodup := by
  induction fresh, fs using induction_inside catalog config generalizing t with
  | nil fresh => exact List.nodup_nil
  | cons fresh f fs inner rest =>
    obtain ⟨different, apart⟩ := List.pairwise_cons.1 apart
    have mem := sub f (List.mem_cons_self ..)
    have name := plain t sort f mem
    have below : ((ways catalog config (past fresh f) (inside catalog config fresh f)).map
        spelling).Nodup := by
      rcases inside_cases catalog config fresh f with nothing | ⟨u, free, type, attributes, left⟩
      · rw [nothing]
        exact List.nodup_nil
      · obtain ⟨here, there⟩ := allTogether_iff.1 (together f (List.mem_cons_self ..) u type) free
        rw [attributes, left] at inner ⊢
        exact inner (closed t u sort (contains_iff.2 ⟨f, mem, type⟩)) (fun g hg => hg)
          (here.imp fun compatible => compatible.2.1) there
    have later := rest sort (fun g hg => sub g (List.mem_cons_of_mem _ hg)) apart
      (fun g hg => together g (List.mem_cons_of_mem _ hg))
    rw [ways_cons, List.map_append]
    refine List.nodup_append.2 ⟨?_, later, fun s hs s' hs' => ?_⟩
    · exact nodup_spelling_through name (fun w => ne_nil_of_mem_ways) below
    · obtain ⟨w, hw, rfl⟩ := List.mem_map.1 hs
      obtain ⟨w', hw', rfl⟩ := List.mem_map.1 hs'
      obtain ⟨v, rfl⟩ : ∃ v, w = f :: v := by
        rcases List.mem_cons.1 hw with rfl | hw
        · exact ⟨[], rfl⟩
        · obtain ⟨v, -, rfl⟩ := List.mem_map.1 hw
          exact ⟨v, rfl⟩
      obtain ⟨g, hg, v', rfl⟩ := exists_cons_of_mem_ways hw'
      have name' := plain t sort g (sub g (List.mem_cons_of_mem _ hg))
      exact spelling_cons_ne name name' (different g hg) v v'

/-- No two ways that are indexed for a type are spelled alike. -/
def SpelledApart (catalog : Catalog) (config : Config) (t : TypeRef) : Prop :=
  ((ways catalog config (catalog.types.erase t) (declared catalog config t)).map spelling).Nodup

/-! ### Joined paths of a type -/

theorem eq_one_of_sum_eq_length {ns : List ℕ} (positive : ∀ n ∈ ns, 1 ≤ n)
    (h : ns.sum = ns.length) : ∀ n ∈ ns, n = 1 := by
  induction ns with
  | nil => simp
  | cons n ns ih =>
    obtain ⟨here, later⟩ := List.forall_mem_cons.1 positive
    have enough := List.length_le_sum_of_one_le ns later
    rw [List.sum_cons, List.length_cons] at h
    exact List.forall_mem_cons.2 ⟨by omega, ih later (by omega)⟩

/-- Each end comes once in the list that is joined exactly if none lies further than one attribute
away. -/
theorem Spells.perm_iff {p : Prop} {n : NativePath} (h : Spells catalog config p fresh before w n)
    (exact : p) :
    (parts n.native).Perm ((ends catalog config (left fresh w) n.field).map fun v =>
        landing before (w ++ v)) ↔
      ∀ v ∈ ends catalog config (left fresh w) n.field, v.length ≤ 1 := by
  have joined := h.joins.all exact
  constructor
  · intro once v mem
    have lengths := (joined.symm.trans once).length_eq
    rw [List.length_flatMap, List.length_map] at lengths
    simp only [List.length_replicate] at lengths
    have positive : ∀ k ∈ (ends catalog config (left fresh w) n.field).map
        fun v => 2 ^ (v.length - 1), 1 ≤ k := by
      simp [Nat.one_le_two_pow]
    have one := eq_one_of_sum_eq_length positive (lengths.trans (List.length_map _).symm) _
      (List.mem_map_of_mem mem)
    rw [Nat.pow_eq_one] at one
    omega
  · intro near
    refine joined.trans (.of_eq ?_)
    rw [List.map_eq_flatMap]
    refine List.flatMap_congr fun v mem => ?_
    rw [Nat.sub_eq_zero_of_le (near v mem)]
    rfl

/-- Names without points make all ways of an accepted type spelled differently. -/
theorem Built.spelledApart {m : Metadata} (h : Built catalog config t m)
    (plain : ∀ u, Relation.ReflTransGen catalog.Contains t u →
      ∀ f ∈ declared catalog config u, '.' ∉ f.field.toList) : SpelledApart catalog config t := by
  have paths := h.paths
  have apart := h.apart
  rw [h.fields] at paths apart
  exact nodup_map_spelling_ways (fun u v sort step => sort.tail step) plain .refl (fun f hf => hf)
    (apart.imp And.left) (exists_indexFields_iff.1 ⟨_, paths⟩)

/-- A path leads to the end of its way, or to all that is stored below it, the deeper the more
often. That is once each where nothing lies deeper than in the attributes of the object. -/
theorem path_joins_ends {m : Metadata} (built : build catalog config t = .ok m)
    (plain : ∀ u, Relation.ReflTransGen catalog.Contains t u →
      ∀ f ∈ declared catalog config u, ',' ∉ f.key.toList)
    {p : String} {n : NativePath} (found : m.findNative? p = some n) :
    ∃ w, Way catalog config t w ∧ p = spelling w ∧
      Spells catalog config (SpelledApart catalog config t) (catalog.types.erase t) "" w n ∧
      (SpelledApart catalog config t → ((parts n.native).Perm
        ((ends catalog config (left (catalog.types.erase t) w) n.field).map fun v =>
          landing "" (w ++ v)) ↔
        ∀ v ∈ ends catalog config (left (catalog.types.erase t) w) n.field, v.length ≤ 1)) := by
  have h := built_of_build built
  have outlined : Outlined catalog config t (catalog.types.erase t) "" "" [] m.fields m.paths :=
    outlined_of_indexFields (fun u v sort step => sort.tail step) plain .refl
      (fun f mem => h.fields ▸ mem) (by simp) h.paths
  rcases outlined.entries _ (Keyed.mem_of_find? found) with old | ⟨w, way, path, spells⟩
  · cases old
  · have spells := spells.mono fun distinct : SpelledApart catalog config t => by
      rw [SpelledApart, ← h.fields] at distinct
      simpa [Unambiguous, spellings, Keyed.keys] using distinct
    exact ⟨w, way, path.trans String.empty_append, spells, spells.perm_iff⟩

/-! ### Addresses -/

namespace Addresses

def customer : TypeRef := ⟨0, "Customer"⟩

def address : TypeRef := ⟨1, "Address"⟩

def zip : TypeRef := ⟨2, "Zip"⟩

/-- Customers have an address, an address has a zip code of two parts. -/
def addresses : Catalog where
  valueName := "Value"
  descriptors := [
    { name := "Customer", type := customer, suppliesInstances := true
      fields := [⟨.of "address", .embedded address⟩] },
    { name := "Address", type := address, suppliesInstances := true
      fields := [⟨.of "street", .plain .string ""⟩, ⟨.of "zip", .embedded zip⟩] },
    { name := "Zip", type := zip, suppliesInstances := true
      fields := [⟨.of "area", .plain .string ""⟩, ⟨.of "route", .plain .string ""⟩] }]

theorem objects : ∀ t ∈ addresses.types, ∀ f ∈ (addresses.describe t).fields,
    ∀ u, f.type.element? = some u → u ∈ addresses.types := by
  decide

theorem plain (u : TypeRef) (way : Relation.ReflTransGen addresses.Contains customer u) :
    ∀ f ∈ declared addresses {} u, ',' ∉ f.key.toList ∧ '.' ∉ f.field.toList := by
  have mem : u ∈ addresses.types := by
    cases way with
    | refl => decide
    | tail _ step => exact mem_types_of_contains objects step
  have all : ∀ u ∈ addresses.types, ∀ f ∈ declared addresses {} u,
      ',' ∉ f.key.toList ∧ '.' ∉ f.field.toList := by
    decide
  exact all u mem

def addressField : MappedField := ⟨"address", "address", false, .embedded address, customer⟩

theorem exists_built : ∃ m, build addresses {} customer = .ok m ∧
    m.findNative? "address" = some ⟨"street,area,route,area,route", addressField⟩ := by
  have paths : (build addresses {} customer).map (·.findNative? "address") =
      .ok (some ⟨"street,area,route,area,route", addressField⟩) := by
    cbv
  exact map_eq_ok paths

theorem spelledApart : SpelledApart addresses {} customer := by
  obtain ⟨m, built, -⟩ := exists_built
  exact (built_of_build built).spelledApart fun u way f mem => (plain u way f mem).2

end Addresses

open Addresses in
theorem path_joins_ends_address : ∃ m n, build addresses {} customer = .ok m ∧
    (∀ u, Relation.ReflTransGen addresses.Contains customer u →
      ∀ f ∈ declared addresses {} u, ',' ∉ f.key.toList) ∧
    m.findNative? "address" = some n ∧ SpelledApart addresses {} customer ∧
    ∃ w, Way addresses {} customer w ∧ "address" = spelling w ∧
      Spells addresses {} (SpelledApart addresses {} customer) (addresses.types.erase customer) ""
        w n := by
  obtain ⟨m, built, found⟩ := exists_built
  have commas := fun u way f mem => (plain u way f mem).1
  obtain ⟨w, way, path, spells, -⟩ := path_joins_ends built commas found
  exact ⟨m, _, built, commas, found, spelledApart, w, way, path, spells⟩

open Addresses in
/-- What is stored below an object does not come once each. -/
theorem address_joins_zip_twice :
    ¬ ∀ (catalog : Catalog) (config : Config) (t : TypeRef) (m : Metadata) (p : String)
      (n : NativePath) (w : List MappedField), build catalog config t = .ok m →
      (∀ u, Relation.ReflTransGen catalog.Contains t u →
        ∀ f ∈ declared catalog config u, ',' ∉ f.key.toList) →
      SpelledApart catalog config t → m.findNative? p = some n → Way catalog config t w →
      p = spelling w → w.getLast? = some n.field →
      (parts n.native).Perm ((ends catalog config (left (catalog.types.erase t) w) n.field).map
        fun v => landing "" (w ++ v)) := by
  intro joinedOnce
  obtain ⟨m, built, found⟩ := exists_built
  have commas := fun u way f mem => (plain u way f mem).1
  have way : Way addresses {} customer [addressField] := .last (List.mem_singleton_self _)
  have once := joinedOnce addresses {} customer m "address" _ [addressField] built commas
    spelledApart found way (spelling_single (f := addressField)).symm rfl
  have joined : (parts "street,area,route,area,route").length = 5 := by cbv
  have stored : (ends addresses {} (left (addresses.types.erase customer) [addressField])
      addressField).length = 3 := by
    cbv
  have lengths := once.length_eq
  rw [List.length_map, joined, stored] at lengths
  cases lengths

end Schema

end EntityMapping
