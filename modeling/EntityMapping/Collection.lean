import EntityMapping.Keyed

/-!
Collections that hold each item or key once, as lists in ascending order. Each is built from a
list by adding its items from the front; of equal items the first one stays, of equal keys the
last value. A hash table holds the same as such a collection, but passes it in an order of its
own, which is told by a seed.
-/

namespace EntityMapping

/-! ### Sets -/

/-- A set as the ascending list of its items. -/
structure SortedSet (α : Type) [Ord α] where
  items : List α
  ascending : items.Pairwise fun a b => compare a b = .lt

namespace SortedSet

variable {α : Type} [Ord α]

/-- Adds an item to an ascending list, unless it is there. -/
def insertItem (x : α) : List α → List α
  | [] => [x]
  | y :: ys =>
    match compare x y with
    | .lt => x :: y :: ys
    | .eq => y :: ys
    | .gt => y :: insertItem x ys

theorem mem_insertItem {x z : α} {ys : List α} (h : z ∈ insertItem x ys) : z = x ∨ z ∈ ys := by
  induction ys with
  | nil => simpa [insertItem] using h
  | cons y ys ih =>
    unfold insertItem at h
    split at h
    · simpa using h
    · exact .inr h
    · rcases List.mem_cons.1 h with rfl | h
      · exact .inr (List.mem_cons_self ..)
      · exact (ih h).imp id (List.mem_cons_of_mem _)

theorem pairwise_insertItem [Std.TransOrd α] {x : α} {ys : List α}
    (h : ys.Pairwise fun a b => compare a b = .lt) :
    (insertItem x ys).Pairwise fun a b => compare a b = .lt := by
  induction ys with
  | nil => simp [insertItem]
  | cons y ys ih =>
    have tail := List.pairwise_cons.1 h
    unfold insertItem
    split
    · rename_i below
      refine List.pairwise_cons.2 ⟨fun z hz => ?_, h⟩
      rcases List.mem_cons.1 hz with rfl | hz
      · exact below
      · exact Std.TransCmp.lt_trans below (tail.1 z hz)
    · exact h
    · rename_i above
      refine List.pairwise_cons.2 ⟨fun z hz => ?_, ih tail.2⟩
      rcases mem_insertItem hz with rfl | hz
      · exact Std.OrientedCmp.lt_of_gt above
      · exact tail.1 z hz

def empty : SortedSet α := ⟨[], .nil⟩

def insert [Std.TransOrd α] (s : SortedSet α) (x : α) : SortedSet α :=
  ⟨insertItem x s.items, pairwise_insertItem s.ascending⟩

def ofList [Std.TransOrd α] (xs : List α) : SortedSet α := xs.foldl insert empty

end SortedSet

/-! ### Maps from texts -/

namespace Keyed

variable {α : Type}

theorem mem_keys_put {key k : String} {value : α} {es : Keyed α}
    (h : k ∈ (es.put key value).keys) : k = key ∨ k ∈ es.keys := by
  induction es with
  | nil => simpa [put, keys] using h
  | cons e rest ih =>
    obtain ⟨l, w⟩ := e
    unfold put at h
    split at h
    · exact .inr h
    · rcases List.mem_cons.1 h with rfl | h
      · exact .inr (List.mem_cons_self ..)
      · exact (ih h).imp id (List.mem_cons_of_mem _)

theorem nodup_keys_put {key : String} {value : α} {es : Keyed α} (h : es.keys.Nodup) :
    (es.put key value).keys.Nodup := by
  induction es with
  | nil => simp [put, keys]
  | cons e rest ih =>
    obtain ⟨l, w⟩ := e
    have tail := List.nodup_cons.1 h
    unfold put
    split
    · exact h
    · rename_i other
      refine List.nodup_cons.2 ⟨fun hl => ?_, ih tail.2⟩
      rcases mem_keys_put hl with same | hl
      · exact other same
      · exact tail.1 hl

theorem mem_keys_insert {key k : String} {value : α} {es : Keyed α}
    (h : k ∈ (es.insert key value).keys) : k = key ∨ k ∈ es.keys := by
  induction es with
  | nil => simpa [insert, keys] using h
  | cons e rest ih =>
    obtain ⟨l, w⟩ := e
    unfold insert at h
    split at h
    · simpa [keys] using h
    · split at h
      · exact .inr h
      · rcases List.mem_cons.1 h with rfl | h
        · exact .inr (List.mem_cons_self ..)
        · exact (ih h).imp id (List.mem_cons_of_mem _)

theorem pairwise_keys_insert {key : String} {value : α} {es : Keyed α}
    (h : es.keys.Pairwise (· < ·)) : (es.insert key value).keys.Pairwise (· < ·) := by
  induction es with
  | nil => simp [insert, keys]
  | cons e rest ih =>
    obtain ⟨l, w⟩ := e
    have tail := List.pairwise_cons.1 h
    unfold insert
    split
    · rename_i below
      refine List.pairwise_cons.2 ⟨fun z hz => ?_, h⟩
      rcases List.mem_cons.1 hz with rfl | hz
      · exact below
      · exact String.lt_trans below (tail.1 z hz)
    · split
      · exact h
      · rename_i notBelow other
        refine List.pairwise_cons.2 ⟨fun z hz => ?_, ih tail.2⟩
        rcases mem_keys_insert hz with rfl | hz
        · exact Std.lt_of_le_of_ne notBelow (Ne.symm other)
        · exact tail.1 z hz

theorem pairwise_keys_sorted (es : Keyed α) : es.sorted.keys.Pairwise (· < ·) := by
  suffices h : ∀ acc : Keyed α, acc.keys.Pairwise (· < ·) →
      (keys (es.foldl (fun acc e => acc.insert e.1 e.2) acc)).Pairwise (· < ·) from
    h [] .nil
  induction es with
  | nil => exact fun _ h => h
  | cons e rest ih => exact fun acc h => ih _ (pairwise_keys_insert h)

theorem nodup_keys_putAll {es more : Keyed α} (h : es.keys.Nodup) :
    (es.putAll more).keys.Nodup := by
  induction more generalizing es with
  | nil => exact h
  | cons e rest ih => exact ih (nodup_keys_put h)

end Keyed

/-- A map as the list of its entries in the order of their keys. -/
structure SortedMap (α : Type) where
  entries : Keyed α
  ascending : entries.keys.Pairwise (· < ·)

namespace SortedMap

variable {α : Type}

def empty : SortedMap α := ⟨[], .nil⟩

def ofList (es : Keyed α) : SortedMap α := ⟨es.sorted, Keyed.pairwise_keys_sorted es⟩

end SortedMap

/-! ### Hash tables -/

/-- A list in another order: the head goes to the place that the seed tells for it. The seed
of a hash table is not known, and two tables that hold the same may have different ones. -/
def shuffle {α : Type} : Nat → List α → List α
  | _, [] => []
  | seed, x :: xs =>
    (shuffle (seed / (xs.length + 1)) xs).insertIdx (seed % (xs.length + 1)) x

end EntityMapping
