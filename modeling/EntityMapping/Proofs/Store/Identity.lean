import EntityMapping.Proofs.Store.Updating
import EntityMapping.Proofs.Value.Path
import Mathlib.Data.List.Basic

/-!
Records by their id. An update looks for the records whose value under a key equals a given one; a
query for the same value meets these and also the records that have a list with such an item there.
Where there are none of the latter, both mean the same records, so what was updated is what is
found, and what is deleted.
-/

namespace EntityMapping

theorem Record.findPath_of_plain (r : Record) {key : String} (plain : '.' ∉ key.toList) :
    r.findPath key = r.find? key := by
  have single : ∀ s ∈ [key], '.' ∉ s.toList := by simpa using plain
  have found := r.findPath_intercalate single
  rw [String.intercalate_singleton] at found
  rw [found]
  cases r.find? key <;> rfl

/-- Without sort keys records keep their order. -/
theorem Record.sortBy_nil (rs : List Record) : Record.sortBy [] rs = rs := by
  have placed : ∀ (r : Record) (rs : List Record), place [] r rs = r :: rs := by
    intro r rs
    cases rs <;> rfl
  have run : ∀ acc : List Record,
      rs.foldl (fun placed r => place [] r placed) acc = rs.reverse ++ acc := by
    induction rs with
    | nil => exact fun acc => rfl
    | cons r rest ih =>
      intro acc
      rw [List.foldl_cons, placed, ih, List.reverse_cons, List.append_assoc]
      rfl
  rw [sortBy, run, List.append_nil, List.reverse_reverse]

namespace Store

variable {s : Store} {key : String} {id : Value} {r : Record} {rs : List Record}

/-! ### Conditions that can be decided -/

theorem matching_eq_filter {c : Option Condition} {p : Record → Bool}
    (decided : ∀ r ∈ rs, Condition.selects s.likeMode r c = .ok (p r)) :
    s.matching c rs = .ok (rs.filter p) := by
  induction rs with
  | nil => rfl
  | cons r rest ih =>
    rw [matching, decided r (List.mem_cons_self ..),
      ih fun r mem => decided r (List.mem_cons_of_mem _ mem), List.filter_cons]
    rfl

theorem split_eq_filter {c : Option Condition} {p : Record → Bool}
    (decided : ∀ r ∈ rs, Condition.selects s.likeMode r c = .ok (p r)) :
    s.split c rs = .ok (rs.filter p, rs.filter fun r => !p r) := by
  induction rs with
  | nil => rfl
  | cons r rest ih =>
    rw [split, decided r (List.mem_cons_self ..),
      ih fun r mem => decided r (List.mem_cons_of_mem _ mem), List.filter_cons, List.filter_cons]
    cases p r <;> rfl

/-- A count takes the number of what a selection finds. Without a condition it need not look. -/
theorem count_eq (s : Store) (name : String) (c : Option Condition) :
    s.count name c = (s.matching c (s.records name)).map List.length := by
  cases c with
  | none =>
    have all : s.matching none (s.records name) = .ok ((s.records name).filter fun _ => true) :=
      matching_eq_filter fun _ _ => rfl
    simp [count, all, Except.map]
  | some c =>
    rw [count]
    cases s.matching (some c) (s.records name) <;> rfl

theorem count_eq_filter {name : String} {c : Option Condition} {p : Record → Bool}
    (decided : ∀ r ∈ s.records name, Condition.selects s.likeMode r c = .ok (p r)) :
    s.count name c = .ok ((s.records name).filter p).length := by
  rw [count_eq, matching_eq_filter decided]
  rfl

theorem select_eq_filter {name : String} {c : Option Condition} {p : Record → Bool}
    (decided : ∀ r ∈ s.records name, Condition.selects s.likeMode r c = .ok (p r)) :
    s.select { name := name, condition := c } = .ok ((s.records name).filter p) := by
  rw [select, matching_eq_filter decided]
  show Except.ok (page 0 0 (Record.sortBy [] _)) = _
  rw [Record.sortBy_nil]
  rfl

/-- A delete takes out the records that meet its condition. -/
theorem delete_eq_filter {name : String} {c : Option Condition} {p : Record → Bool}
    (decided : ∀ r ∈ s.records name, Condition.selects s.likeMode r c = .ok (p r)) :
    (s.delete { name := name, condition := c }).1 = .ok ((s.records name).filter p).length ∧
      (s.delete { name := name, condition := c }).2.records name =
        (s.records name).filter fun r => !p r := by
  rw [delete]
  cases found : s.collections.find? name with
  | none =>
    have empty : s.records name = [] := by rw [records, found]; rfl
    rw [empty]
    exact ⟨rfl, rfl⟩
  | some rs =>
    have there : s.records name = rs := by rw [records, found]; rfl
    rw [there] at decided ⊢
    dsimp only
    rw [split_eq_filter decided]
    exact ⟨rfl, by rw [records_setRecords, if_pos rfl]⟩

/-! ### Ids -/

/-- A query for an id meets a record: its value under the key equals the id, or is a list with an
item that does. -/
def answersTo (key : String) (id : Value) (r : Record) : Bool :=
  match r.find? key with
  | some v => Condition.meets v id
  | none => false

theorem selects_equals (plain : '.' ∉ key.toList) (mode : Like.Mode) (r : Record) :
    Condition.selects mode r (some (.compare .equals key id)) = .ok (answersTo key id r) := by
  rw [Condition.selects, Condition.holds, r.findPath_of_plain plain, answersTo]
  cases r.find? key <;> rfl

/-- A record has a list under a key with an item that equals an id, which is no list itself. -/
def ListsId (key : String) (id : Value) (r : Record) : Prop :=
  (∀ us, id ≠ .list us) ∧ ∃ items, r.find? key = some (.list items) ∧ ∃ u ∈ items, (u == id) = true

theorem list_equals_of_not_list {items : List Value} (single : ∀ us, id ≠ .list us) :
    (Value.list items == id) = false := by
  rw [Value.beq_eq_equals]
  cases id with
  | list us => exact absurd rfl (single us)
  | _ => simp [Value.equals, Value.scalarEquals]

theorem meets_list_of_not_list {items : List Value} (single : ∀ us, id ≠ .list us) :
    Condition.meets (.list items) id = items.any (· == id) := by
  cases id with
  | list us => exact absurd rfl (single us)
  | _ => rfl

/-- Apart from lists with the id a query for an id means the records that an update means. -/
theorem answersTo_eq_identifiedBy (apart : ¬ ListsId key id r) :
    answersTo key id r = identifiedBy key id r := by
  rw [answersTo, identifiedBy]
  cases found : r.find? key with
  | none => rfl
  | some v =>
    cases v with
    | list items =>
      by_cases single : ∀ us, id ≠ .list us
      · have other : items.any (· == id) = false := by
          rw [Bool.eq_false_iff]
          intro some
          exact apart ⟨single, items, found, List.any_eq_true.1 some⟩
        exact (meets_list_of_not_list single).trans
          (other.trans (list_equals_of_not_list single).symm)
      · obtain ⟨us, rfl⟩ : ∃ us, id = .list us := by simpa using single
        rfl
    | _ => rfl

/-- An update leaves one record with its id, if there was at most one before. -/
theorem filter_upsert (own : identifiedBy key id r = true)
    (sole : (rs.filter (identifiedBy key id)).length ≤ 1) :
    (upsert key id r rs).filter (identifiedBy key id) = [r] := by
  rw [upsert]
  split
  · rename_i there
    -- What is put in the place of a record has the id exactly if the record had it.
    have same : identifiedBy key id ∘ (fun s => if identifiedBy key id s then r else s) =
        identifiedBy key id := by
      funext s
      rw [Function.comp_apply]
      split
      · rename_i found
        rw [own, found]
      · rfl
    obtain ⟨old, mem, found⟩ := List.any_eq_true.1 there
    have one : rs.filter (identifiedBy key id) = [old] := by
      have inside : old ∈ rs.filter (identifiedBy key id) := List.mem_filter.2 ⟨mem, found⟩
      obtain ⟨only, single⟩ :=
        List.length_eq_one_iff.1 (Nat.le_antisymm sole (List.length_pos_of_mem inside))
      rw [single] at inside ⊢
      rw [List.mem_singleton.1 inside]
    rw [List.filter_map, same, one, List.map_singleton, if_pos found]
  · rename_i none
    have empty : rs.filter (identifiedBy key id) = [] := by
      rw [List.filter_eq_nil_iff]
      exact fun s mem found => none (List.any_eq_true.2 ⟨s, mem, found⟩)
    rw [List.filter_append, empty, List.filter_cons_of_pos own]
    rfl

end Store

end EntityMapping
