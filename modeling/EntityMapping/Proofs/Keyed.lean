import EntityMapping.Collection
import EntityMapping.Record

/-!
Values under one key. A list may name a key several times; a plain look-up meets the first of its
values, and building a list key by key, in order of arrival or in order of the keys, leaves the
last one. Where every key comes once, what is found says which elements there are, in some order.
-/

namespace EntityMapping.Keyed

variable {α : Type} {key : String} {v : α} {es es' : Keyed α}

def under (key : String) (es : Keyed α) : List α :=
  es.filterMap fun e => if e.1 = key then some e.2 else none

@[simp] theorem under_nil : under key ([] : Keyed α) = [] := rfl

theorem under_cons (key k : String) (v : α) (es : Keyed α) :
    under key ((k, v) :: es) = if k = key then v :: under key es else under key es := by
  by_cases h : k = key <;> simp [under, h]

@[simp] theorem under_append (key : String) (es more : Keyed α) :
    under key (es ++ more) = under key es ++ under key more := List.filterMap_append

theorem mem_under : v ∈ under key es ↔ (key, v) ∈ es := by
  rw [under, List.mem_filterMap]
  constructor
  · rintro ⟨⟨k, w⟩, mem, h⟩
    split at h
    · rename_i same
      cases h
      exact same ▸ mem
    · cases h
  · intro mem
    exact ⟨(key, v), mem, if_pos rfl⟩

theorem mem_keys : key ∈ es.keys ↔ ∃ v, (key, v) ∈ es := by
  rw [keys, List.mem_map]
  constructor
  · rintro ⟨⟨k, v⟩, mem, rfl⟩
    exact ⟨v, mem⟩
  · rintro ⟨v, mem⟩
    exact ⟨_, mem, rfl⟩

theorem under_eq_nil : under key es = [] ↔ key ∉ es.keys := by
  rw [List.eq_nil_iff_forall_not_mem, mem_keys, not_exists]
  exact forall_congr' fun v => not_congr mem_under

@[simp] theorem keys_append (es more : Keyed α) : keys (es ++ more) = es.keys ++ more.keys :=
  List.map_append

theorem nodup_keys_append {more : Keyed α} (hes : es.keys.Nodup) (hmore : more.keys.Nodup)
    (apart : ∀ k ∈ es.keys, k ∉ more.keys) : (keys (es ++ more)).Nodup := by
  rw [keys_append]
  exact List.nodup_append.2 ⟨hes, hmore, fun k hk l hl same => apart k hk (same ▸ hl)⟩

theorem mem_keys_of_filter {p : String × α → Bool} (h : key ∈ keys (es.filter p)) :
    key ∈ es.keys := by
  obtain ⟨e, he, rfl⟩ := List.mem_map.1 h
  exact List.mem_map.2 ⟨e, (List.mem_filter.1 he).1, rfl⟩

/-! ### Look-up -/

theorem find?_eq_head? (key : String) (es : Keyed α) : es.find? key = (under key es).head? := by
  induction es with
  | nil => rfl
  | cons e rest ih =>
    obtain ⟨k, w⟩ := e
    rw [find?, under_cons]
    split
    · rfl
    · exact ih

theorem find?_eq_none : es.find? key = none ↔ key ∉ es.keys := by
  rw [find?_eq_head?, List.head?_eq_none_iff, under_eq_nil]

theorem mem_of_find? (h : es.find? key = some v) : (key, v) ∈ es := by
  rw [find?_eq_head?] at h
  exact mem_under.1 (List.mem_of_head? h)

theorem find?_of_mem (nodup : es.keys.Nodup) (mem : (key, v) ∈ es) : es.find? key = some v := by
  induction es with
  | nil => cases mem
  | cons e rest ih =>
    obtain ⟨k, w⟩ := e
    obtain ⟨new, nodup⟩ := List.nodup_cons.1 nodup
    rcases List.mem_cons.1 mem with same | mem
    · cases same
      rw [find?, if_pos rfl]
    · have other : k ≠ key := fun same => new (same ▸ mem_keys.2 ⟨v, mem⟩)
      rw [find?, if_neg other]
      exact ih nodup mem

theorem eq_of_mem {w : α} (nodup : es.keys.Nodup) (h : (key, v) ∈ es) (h' : (key, w) ∈ es) :
    v = w :=
  Option.some.inj ((find?_of_mem nodup h).symm.trans (find?_of_mem nodup h'))

theorem find?_append (key : String) (es more : Keyed α) :
    find? key (es ++ more) = (es.find? key).or (more.find? key) := by
  rw [find?_eq_head?, find?_eq_head?, find?_eq_head?, under_append, List.head?_append]

theorem find?_append_of_notMem {more : Keyed α} (h : key ∉ es.keys) :
    find? key (es ++ more) = more.find? key := by
  rw [find?_append, find?_eq_none.2 h, Option.none_or]

theorem find?_append_of_notMem_right {more : Keyed α} (h : key ∉ more.keys) :
    find? key (es ++ more) = es.find? key := by
  rw [find?_append, find?_eq_none.2 h, Option.or_none]

theorem find?_filter (p : String → Bool) (key : String) (es : Keyed α) :
    find? key (es.filter fun e => p e.1) = if p key then es.find? key else none := by
  induction es with
  | nil => simp
  | cons e rest ih =>
    obtain ⟨k, w⟩ := e
    by_cases same : k = key
    · subst same
      cases kept : p k <;> simp [kept, find?, ih]
    · cases kept : p k <;> simp [kept, find?, same, ih]

/-! ### Order of arrival -/

theorem put_put (es : Keyed α) (key : String) (v w : α) :
    (es.put key v).put key w = es.put key w := by
  induction es with
  | nil => simp [put]
  | cons e rest ih =>
    obtain ⟨k, u⟩ := e
    by_cases same : k = key <;> simp [put, same, ih]

/-- Putting one element after the other leaves the last value. -/
theorem find?_putAll (key : String) (es more : Keyed α) :
    (es.putAll more).find? key = (under key more).getLast?.or (es.find? key) := by
  induction more generalizing es with
  | nil => rfl
  | cons e rest ih =>
    obtain ⟨k, w⟩ := e
    rw [putAll, List.foldl_cons, ← putAll, ih, find?_put, under_cons]
    by_cases h : k = key
    · subst h
      rw [if_pos rfl, if_pos rfl, List.getLast?_cons]
      cases (under k rest).getLast? <;> rfl
    · rw [if_neg h, if_neg (Ne.symm h)]

theorem put_append (before after : Keyed α) (old new : α) (h : key ∉ before.keys) :
    put key new (before ++ (key, old) :: after) = before ++ (key, new) :: after := by
  induction before with
  | nil => simp [put]
  | cons e rest ih =>
    obtain ⟨k, w⟩ := e
    simp only [keys, List.map_cons, List.mem_cons, not_or] at h
    rw [List.cons_append, put, if_neg (Ne.symm h.1), ih h.2, List.cons_append]

theorem put_of_notMem (h : key ∉ es.keys) (v : α) : put key v es = es ++ [(key, v)] := by
  induction es with
  | nil => rfl
  | cons e rest ih =>
    obtain ⟨k, w⟩ := e
    simp only [keys, List.map_cons, List.mem_cons, not_or] at h
    rw [put, if_neg (Ne.symm h.1), ih h.2, List.cons_append]

/-- Where every key comes once, arrival changes nothing. -/
theorem putAll_of_nodup {more : Keyed α} (h : (es ++ more).keys.Nodup) :
    es.putAll more = es ++ more := by
  induction more generalizing es with
  | nil => simp [putAll]
  | cons e rest ih =>
    obtain ⟨k, w⟩ := e
    have new : k ∉ es.keys := by
      rw [keys_append] at h
      intro old
      exact (List.nodup_append.1 h).2.2 k old k (List.mem_cons_self ..) rfl
    have whole : es ++ [(k, w)] ++ rest = es ++ (k, w) :: rest := by simp
    rw [putAll, List.foldl_cons, ← putAll, put_of_notMem new, ih (whole ▸ h), whole]

theorem mem_put {value : α} {e : String × α} (h : e ∈ es.put key value) :
    e = (key, value) ∨ e ∈ es := by
  induction es with
  | nil => exact .inl (List.mem_singleton.1 h)
  | cons d rest ih =>
    obtain ⟨k, w⟩ := d
    rw [put] at h
    split at h
    · rename_i same
      subst same
      exact (List.mem_cons.1 h).imp id (List.mem_cons_of_mem _)
    · rcases List.mem_cons.1 h with rfl | h
      · exact .inr (List.mem_cons_self ..)
      · exact (ih h).imp id (List.mem_cons_of_mem _)

theorem mem_putAll {more : Keyed α} {e : String × α} (h : e ∈ es.putAll more) :
    e ∈ es ∨ e ∈ more := by
  induction more generalizing es with
  | nil => exact .inl h
  | cons d more ih =>
    rcases ih h with h | h
    · exact (mem_put h).elim (fun same => .inr (same ▸ List.mem_cons_self ..)) .inl
    · exact .inr (List.mem_cons_of_mem _ h)

/-! ### Distinct keys in another order -/

theorem find?_eq_some_iff (nodup : es.keys.Nodup) : es.find? key = some v ↔ (key, v) ∈ es :=
  ⟨mem_of_find?, find?_of_mem nodup⟩

theorem nodup_of_nodup_keys (nodup : es.keys.Nodup) : es.Nodup :=
  List.Pairwise.of_map Prod.fst (fun _ _ apart same => apart (congrArg Prod.fst same)) nodup

/-- Lists in which every key comes once and in which the same is found have the same elements. -/
theorem perm_of_find?_eq (nodup : es.keys.Nodup) (nodup' : es'.keys.Nodup)
    (same : ∀ key, es.find? key = es'.find? key) : es.Perm es' := by
  refine (List.perm_ext_iff_of_nodup (nodup_of_nodup_keys nodup)
    (nodup_of_nodup_keys nodup')).2 fun e => ?_
  obtain ⟨key, v⟩ := e
  rw [← find?_eq_some_iff nodup, ← find?_eq_some_iff nodup', same]

theorem nodup_keys_of_perm (nodup : es.keys.Nodup) (perm : es.Perm es') : es'.keys.Nodup :=
  (perm.map Prod.fst).nodup_iff.1 nodup

theorem find?_eq_of_perm (nodup : es.keys.Nodup) (perm : es.Perm es') :
    es.find? key = es'.find? key := by
  have nodup' := nodup_keys_of_perm nodup perm
  refine Option.ext fun v => ?_
  rw [find?_eq_some_iff nodup, find?_eq_some_iff nodup', perm.mem_iff]

theorem getLast?_under (nodup : es.keys.Nodup) : (under key es).getLast? = es.find? key := by
  cases last : (under key es).getLast? with
  | none => rw [find?_eq_head?, List.getLast?_eq_none_iff.1 last, List.head?_nil]
  | some v => exact (find?_of_mem nodup (mem_under.1 (List.mem_of_getLast? last))).symm

theorem perm_putAll {before : Keyed α} (once : before.keys.Nodup) (nodup : es.keys.Nodup)
    (perm : es.Perm es') : (before.putAll es).Perm (before.putAll es') := by
  have nodup' := nodup_keys_of_perm nodup perm
  refine perm_of_find?_eq (nodup_keys_putAll once) (nodup_keys_putAll once) fun key => ?_
  rw [find?_putAll, find?_putAll, getLast?_under nodup, getLast?_under nodup',
    find?_eq_of_perm nodup perm]

/-! ### Order of the keys -/

theorem mem_insert {value : α} {e : String × α} (h : e ∈ es.insert key value) :
    e = (key, value) ∨ e ∈ es := by
  induction es with
  | nil => exact .inl (List.mem_singleton.1 h)
  | cons d rest ih =>
    obtain ⟨k, w⟩ := d
    rw [insert] at h
    split at h
    · exact List.mem_cons.1 h
    · split at h
      · rename_i same
        subst same
        exact (List.mem_cons.1 h).imp id (List.mem_cons_of_mem _)
      · rcases List.mem_cons.1 h with rfl | h
        · exact .inr (List.mem_cons_self ..)
        · exact (ih h).imp id (List.mem_cons_of_mem _)

theorem find?_foldl_insert (key : String) (es more : Keyed α) (ordered : es.keys.Pairwise (· < ·)) :
    (more.foldl (fun es e => es.insert e.1 e.2) es).find? key =
      (under key more).getLast?.or (es.find? key) := by
  induction more generalizing es with
  | nil => rfl
  | cons e rest ih =>
    obtain ⟨k, w⟩ := e
    rw [List.foldl_cons, ih _ (pairwise_keys_insert ordered), find?_insert es k key w ordered,
      under_cons]
    by_cases h : k = key
    · subst h
      rw [if_pos rfl, if_pos rfl, List.getLast?_cons]
      cases (under k rest).getLast? <;> rfl
    · rw [if_neg h, if_neg (Ne.symm h)]

/-- Sorting leaves the last value of a key. -/
theorem find?_sorted (key : String) (es : Keyed α) :
    (sorted es).find? key = (under key es).getLast? := by
  rw [sorted, find?_foldl_insert key [] es .nil, find?_nil, Option.or_none]

end EntityMapping.Keyed

theorem EntityMapping.Record.find?_ofElements (name key : String) (es : Elements) :
    (ofElements name es).find? key = (Keyed.under key es).getLast? := by
  rw [Record.find?, ofElements, addAll, Keyed.find?_putAll]
  exact Option.or_none

theorem EntityMapping.Record.elements_ofElements {es : Elements} (h : es.keys.Nodup)
    (name : String) : (ofElements name es).elements = es :=
  Keyed.putAll_of_nodup ((List.nil_append es).symm ▸ h)

theorem EntityMapping.Record.nodup_keys_ofElements (name : String) (es : Elements) :
    (ofElements name es).elements.keys.Nodup :=
  Keyed.nodup_keys_putAll List.nodup_nil

/-- A record replaces none of the elements that it is made of exactly if each key comes once. -/
theorem EntityMapping.Record.elements_ofElements_iff {name : String} {es : Elements} :
    (ofElements name es).elements = es ↔ es.keys.Nodup :=
  ⟨fun same => same ▸ nodup_keys_ofElements name es, fun nodup => elements_ofElements nodup name⟩
