import EntityMapping.Proofs.Keyed
import Mathlib.Data.List.InsertIdx

/-!
Collections built from lists. A collection holds nothing but what it is built from, and it is built
again from its own items, in whatever order they come. So a hash table, which passes them in the
order of its seed, comes back from what it passes. Every order is that of some seed.
-/

namespace EntityMapping

attribute [ext] SortedSet SortedMap

variable {α : Type}

/-! ### Orders -/

theorem perm_shuffle (seed : Nat) (xs : List α) : (shuffle seed xs).Perm xs := by
  induction xs generalizing seed with
  | nil => exact .nil
  | cons x xs ih =>
    have rest := ih (seed / (xs.length + 1))
    have inside : seed % (xs.length + 1) ≤ (shuffle (seed / (xs.length + 1)) xs).length := by
      rw [rest.length_eq]
      exact Nat.le_of_lt_succ (Nat.mod_lt _ (Nat.succ_pos _))
    exact (List.perm_insertIdx x _ inside).trans (rest.cons x)

/-- Every order of a list is that of some seed. -/
theorem exists_shuffle_eq {xs ys : List α} (perm : xs.Perm ys) : ∃ seed, shuffle seed xs = ys := by
  induction xs generalizing ys with
  | nil => exact ⟨0, perm.nil_eq⟩
  | cons x xs ih =>
    obtain ⟨n, below, head⟩ := List.mem_iff_getElem.1 (perm.mem_iff.1 (List.mem_cons_self ..))
    have inverse : (ys.eraseIdx n).insertIdx n x = ys := by
      rw [← head]
      exact List.insertIdx_eraseIdx_getElem below
    have inside : n ≤ (ys.eraseIdx n).length := by
      rw [List.length_eraseIdx_of_lt below]
      omega
    have placed : ys.Perm (x :: ys.eraseIdx n) := by
      conv_lhs => rw [← inverse]
      exact List.perm_insertIdx x _ inside
    have rest : xs.Perm (ys.eraseIdx n) := (perm.trans placed).cons_inv
    have place : n < xs.length + 1 := by
      rw [rest.length_eq]
      omega
    obtain ⟨seed, same⟩ := ih rest
    -- The seed of the rest and the place of the head are the quotient and the remainder.
    refine ⟨(xs.length + 1) * seed + n, ?_⟩
    rw [shuffle, Nat.mul_add_mod, Nat.mod_eq_of_lt place, Nat.mul_add_div (Nat.succ_pos _),
      Nat.div_eq_of_lt place, Nat.add_zero, same, inverse]

/-! ### Adding one item after the other -/

theorem mem_foldl_add {σ β : Type} (view : σ → List β) {add : σ → β → σ}
    (step : ∀ s x y, y ∈ view (add s x) → y ∈ view s ∨ y = x) {s : σ} {xs : List β} {y : β}
    (h : y ∈ view (xs.foldl add s)) : y ∈ view s ∨ y ∈ xs := by
  induction xs generalizing s with
  | nil => exact .inl h
  | cons x xs ih =>
    rcases ih h with mem | mem
    · rcases step s x y mem with old | rfl
      · exact .inl old
      · exact .inr (List.mem_cons_self ..)
    · exact .inr (List.mem_cons_of_mem _ mem)

/-! ### Sets -/

namespace SortedSet

section Order

variable [Ord α]

theorem perm_insertItem {x : α} {ys : List α} (new : ∀ y ∈ ys, compare x y ≠ .eq) :
    (insertItem x ys).Perm (x :: ys) := by
  induction ys with
  | nil => exact .refl _
  | cons y ys ih =>
    rw [insertItem]
    split
    · exact .refl _
    · exact absurd ‹_› (new y (List.mem_cons_self ..))
    · exact ((ih fun z mem => new z (List.mem_cons_of_mem _ mem)).cons y).trans (.swap ..)

/-- No two items of a list are equal. -/
def Distinct (xs : List α) : Prop := xs.Pairwise fun a b => compare a b ≠ .eq

theorem Distinct.perm [Std.TransOrd α] {xs ys : List α} (distinct : Distinct xs)
    (perm : xs.Perm ys) : Distinct ys :=
  perm.pairwise distinct fun apart same => apart (Std.OrientedCmp.eq_symm same)

theorem distinct_items (s : SortedSet α) : Distinct s.items :=
  s.ascending.imp fun below same => nomatch below.symm.trans same

end Order

variable [Ord α] [Std.TransOrd α]

/-- Items of which no two are equal are all taken. -/
theorem perm_foldl_insert {s : SortedSet α} {xs : List α} (distinct : Distinct (s.items ++ xs)) :
    (xs.foldl insert s).items.Perm (s.items ++ xs) := by
  induction xs generalizing s with
  | nil => exact .of_eq (List.append_nil _).symm
  | cons x xs ih =>
    have new : ∀ y ∈ s.items, compare x y ≠ .eq := fun y mem same =>
      (List.pairwise_append.1 distinct).2.2 y mem x (List.mem_cons_self ..)
        (Std.OrientedCmp.eq_symm same)
    have whole : ((s.insert x).items ++ xs).Perm (s.items ++ x :: xs) :=
      ((perm_insertItem new).append_right xs).trans List.perm_middle.symm
    exact (ih (distinct.perm whole.symm)).trans whole

theorem ofList_of_perm {s : SortedSet α} {xs : List α} (perm : xs.Perm s.items) :
    ofList xs = s := by
  have built : (ofList xs).items.Perm s.items :=
    (perm_foldl_insert (s := empty) (s.distinct_items.perm perm.symm)).trans perm
  refine SortedSet.ext (built.eq_of_pairwise (fun a b _ _ below above => ?_)
    (ofList xs).ascending s.ascending)
  cases above.symm.trans (Std.OrientedCmp.gt_of_lt below)

theorem mem_of_mem_ofList {x : α} {xs : List α} (h : x ∈ (ofList xs).items) : x ∈ xs :=
  (mem_foldl_add items (fun _ _ _ mem => (mem_insertItem mem).symm) h).resolve_left List.not_mem_nil

end SortedSet

/-! ### Maps -/

theorem Keyed.nodup_keys_of_ascending {es : Keyed α} (ascending : es.keys.Pairwise (· < ·)) :
    es.keys.Nodup := by
  refine ascending.imp fun {a b} below same => ?_
  exact String.lt_irrefl b (same ▸ below)

/-- Distinct keys are put in order and nothing else is done. -/
theorem Keyed.perm_sorted {es : Keyed α} (once : es.keys.Nodup) : es.sorted.Perm es := by
  refine perm_of_find?_eq (nodup_keys_of_ascending (pairwise_keys_sorted es)) once fun key => ?_
  rw [find?_sorted, getLast?_under once]

namespace SortedMap

theorem ofList_of_perm {m : SortedMap α} {es : Keyed α} (perm : es.Perm m.entries) :
    ofList es = m := by
  have once : es.keys.Nodup :=
    Keyed.nodup_keys_of_perm (Keyed.nodup_keys_of_ascending m.ascending) perm.symm
  have built : (ofList es).entries.Perm m.entries := (Keyed.perm_sorted once).trans perm
  refine SortedMap.ext (built.eq_of_pairwise (fun a b _ _ below above => ?_)
    (List.pairwise_map.1 (ofList es).ascending) (List.pairwise_map.1 m.ascending))
  exact absurd above (String.lt_asymm below)

theorem mem_of_mem_ofList {e : String × α} {es : Keyed α} (h : e ∈ (ofList es).entries) : e ∈ es :=
  (mem_foldl_add id (fun _ _ _ mem => (Keyed.mem_insert mem).symm) h).resolve_left List.not_mem_nil

end SortedMap

end EntityMapping
