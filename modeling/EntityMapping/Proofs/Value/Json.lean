import EntityMapping.Proofs.Collection
import EntityMapping.Proofs.Number.Nearness
import EntityMapping.Proofs.Value.Equivalence
import EntityMapping.Value.Json
import Mathlib.Data.List.Forall2

/-!
Values as JSON and back. A document whose integers fit 64 bits and whose other numbers are finite is
the JSON of the value it is read as. A value of which JSON has all kinds comes back with the
elements of its records in the order of their keys, and so it equals what comes back.
-/

namespace EntityMapping

/-! ### Order of the keys -/

namespace Keyed

variable {α β : Type} {es : Keyed α}

theorem sorted_of_ascending (ascending : es.keys.Pairwise (· < ·)) : es.sorted = es :=
  congrArg SortedMap.entries (SortedMap.ofList_of_perm (m := ⟨es, ascending⟩) (.refl _))

theorem keys_map (g : α → β) (es : Keyed α) : keys (es.map fun e => (e.1, g e.2)) = es.keys := by
  rw [keys, List.map_map]
  rfl

end Keyed

/-! ### Documents -/

namespace Json

variable {j : Json} {items : List Json} {members : List (String × Json)}

/-- A document whose integers have 64 bits and whose other numbers are finite. -/
inductive Native : Json → Prop where
  | null : Native .null
  | bool (b : Bool) : Native (.bool b)
  | integer {n : ℤ} (low : -2 ^ 63 ≤ n) (high : n < 2 ^ 63) : Native (.integer n)
  | double {x : Double} (finite : x.isFinite = true) : Native (.double x)
  | string (s : String) : Native (.string s)
  | array {items : List Json} (each : ∀ j ∈ items, Native j) : Native (.array items)
  | object {members : List (String × Json)} (each : ∀ m ∈ members, Native m.2) :
      Native (.object members)

theorem itemsInOrder_iff : ItemsInOrder items ↔ ∀ j ∈ items, j.InOrder := by
  induction items with
  | nil => simp [ItemsInOrder]
  | cons j rest ih => simp [ItemsInOrder, ih]

theorem membersInOrder_iff : MembersInOrder members ↔ ∀ m ∈ members, m.2.InOrder := by
  induction members with
  | nil => simp [MembersInOrder]
  | cons m rest ih =>
    obtain ⟨name, j⟩ := m
    simp only [MembersInOrder, ih, List.forall_mem_cons]

end Json

namespace Value

theorem itemsToJson_eq (items : List Value) : itemsToJson items = items.map toJson := by
  induction items with
  | nil => rfl
  | cons v rest ih => rw [itemsToJson, ih, List.map_cons]

theorem elementsToJson_eq (es : Elements) :
    elementsToJson es = es.map fun e => (e.1, e.2.toJson) := by
  induction es with
  | nil => rfl
  | cons e rest ih =>
    obtain ⟨k, v⟩ := e
    rw [elementsToJson, ih, List.map_cons]

theorem itemsOfJson_eq (items : List Json) : itemsOfJson items = items.map ofJson := by
  induction items with
  | nil => rfl
  | cons j rest ih => rw [itemsOfJson, ih, List.map_cons]

theorem elementsOfJson_eq (members : List (String × Json)) :
    elementsOfJson members = members.map fun m => (m.1, ofJson m.2) := by
  induction members with
  | nil => rfl
  | cons m rest ih =>
    obtain ⟨name, j⟩ := m
    rw [elementsOfJson, ih, List.map_cons]

theorem ofJsonInteger_of_fits {n : ℤ} (low : -2 ^ 63 ≤ n) (high : n < 2 ^ 63) :
    ofJsonInteger n = .integer (Int64.ofInt n) := by
  have least : Int64.minValue.toInt = -2 ^ 63 := by decide
  have greatest : Int64.maxValue.toInt = 2 ^ 63 - 1 := by decide
  rw [ofJsonInteger, Numeral.fit?, if_pos ⟨by omega, by omega⟩]

/-- A document is the JSON of the value it is read as. -/
theorem toJson_ofJson {j : Json} (native : j.Native) (ordered : j.InOrder) :
    (ofJson j).toJson = j := by
  induction native with
  | integer low high =>
    rw [ofJson, ofJsonInteger_of_fits low high, toJson, Int64.toInt_ofInt_of_le low high]
  | double finite => rw [ofJson, toJson, if_pos finite]
  | @array items _ ih =>
    rw [Json.InOrder, Json.itemsInOrder_iff] at ordered
    rw [ofJson, toJson, itemsOfJson_eq, itemsToJson_eq, List.map_map]
    exact congrArg _ ((List.map_congr_left fun j mem => ih j mem (ordered j mem)).trans
      (List.map_id _))
  | @object members _ ih =>
    rw [Json.InOrder, Json.membersInOrder_iff] at ordered
    obtain ⟨ascending, ordered⟩ := ordered
    rw [ofJson, toJson, elementsOfJson_eq, elementsToJson_eq, List.map_map]
    have same : members.map ((fun e => (e.1, e.2.toJson)) ∘ fun m => (m.1, ofJson m.2)) =
        members :=
      (List.map_congr_left fun m mem =>
        congrArg (Prod.mk m.1) (ih m mem (ordered m mem))).trans (List.map_id _)
    rw [same, Keyed.sorted_of_ascending ascending]
  | _ => rfl

/-! ### Values -/

/-- A value of which JSON has all kinds: its doubles are finite, its records have each key once, and
there is no time, date or identifier in it. -/
inductive Expressible : Value → Prop where
  | null : Expressible .null
  | integer (n : Int64) : Expressible (.integer n)
  | float {x : Double} (finite : x.isFinite = true) : Expressible (.float x)
  | text (s : String) : Expressible (.text s)
  | boolean (b : Bool) : Expressible (.boolean b)
  | list {items : List Value} (each : ∀ v ∈ items, Expressible v) : Expressible (.list items)
  | record {elements : Elements} (once : elements.keys.Nodup)
      (each : ∀ e ∈ elements, Expressible e.2) : Expressible (.record elements)

/-- What is read from the JSON of a value. -/
def restored (v : Value) : Value := ofJson v.toJson

theorem restored_list (items : List Value) :
    restored (.list items) = .list (items.map restored) := by
  rw [restored, toJson, ofJson, itemsToJson_eq, itemsOfJson_eq, List.map_map]
  rfl

theorem exists_restored_record {es : Elements} (once : es.keys.Nodup) :
    ∃ back : Elements, restored (.record es) = .record back ∧
      back.Perm (es.map fun e => (e.1, restored e.2)) := by
  refine ⟨_, by rw [restored, toJson, ofJson], ?_⟩
  have distinct : Keyed.keys (es.map fun e => (e.1, toJson e.2)) |>.Nodup := by
    rwa [Keyed.keys_map]
  rw [elementsOfJson_eq, elementsToJson_eq]
  refine ((Keyed.perm_sorted distinct).map _).trans ?_
  rw [List.map_map]
  rfl

theorem Expressible.equals_restored {v : Value} (h : v.Expressible) :
    v.restored.equals v = true ∧ v.equals v.restored = true := by
  induction h with
  | integer n =>
    rw [restored, toJson, ofJson, ofJsonInteger_of_fits n.le_toInt n.toInt_lt, Int64.ofInt_toInt]
    simp [equals, scalarEquals]
  | float finite =>
    rw [restored, toJson, if_pos finite, ofJson]
    simp [equals, scalarEquals, Double.near_self finite]
  | @list items _ ih =>
    rw [restored_list, equals, equals, itemsEqual_iff, itemsEqual_iff, List.forall₂_map_left_iff,
      List.forall₂_map_right_iff, List.forall₂_same, List.forall₂_same]
    exact ⟨fun v mem => (ih v mem).1, fun v mem => (ih v mem).2⟩
  | @record es once _ ih =>
    obtain ⟨back, restored_eq, perm⟩ := exists_restored_record once
    have length : back.length = es.length := by rw [perm.length_eq, List.length_map]
    rw [restored_eq, equals_record, equals_record, elementsEqual, elementsEqual, Bool.and_eq_true,
      Bool.and_eq_true, beq_iff_eq, beq_iff_eq, covered_iff, covered_iff]
    refine ⟨⟨length, fun k w mem => ?_⟩, length.symm, fun k v mem => ?_⟩
    · obtain ⟨⟨k', v⟩, there, same⟩ := List.mem_map.1 (perm.mem_iff.1 mem)
      cases same
      exact ⟨v, there, (ih _ there).2⟩
    · refine ⟨v.restored, perm.mem_iff.2 (List.mem_map.2 ⟨(k, v), mem, rfl⟩), (ih _ mem).1⟩
  | _ => simp [restored, toJson, ofJson, equals, scalarEquals]

end Value

/-- JSON goes round both ways. A document in order whose integers have 64 bits and whose other
numbers are finite is the JSON of the value it is read as. A value of which JSON has all kinds
equals what its JSON is read as. -/
theorem json_goes_round :
    (∀ j : Json, j.Native → j.InOrder → (Value.ofJson j).toJson = j) ∧
    ∀ v : Value, v.Expressible → (Value.ofJson v.toJson == v) = true :=
  ⟨fun _ => Value.toJson_ofJson, fun _ h => h.equals_restored.1⟩

namespace Letter

def document : Json :=
  .object [("pages", .array [.object [("lines", .integer (-30))], .null]),
    ("weight", .double (Value.ofInt64 20))]

def letter : Value :=
  .record [("weight", .float (Value.ofInt64 20)),
    ("pages", .list [.record [("lines", .integer (-30))], .null])]

theorem native_document : document.Native := by
  refine .object (List.forall_mem_cons.2 ⟨.array (List.forall_mem_cons.2 ⟨.object ?_, ?_⟩),
    List.forall_mem_singleton.2 (.double (Value.ofInt64_eq 20).1)⟩)
  · exact List.forall_mem_singleton.2 (.integer (by decide) (by decide))
  · exact List.forall_mem_singleton.2 .null

theorem expressible_letter : letter.Expressible := by
  refine .record (by decide) (List.forall_mem_cons.2 ⟨.float (Value.ofInt64_eq 20).1,
    List.forall_mem_singleton.2 (.list (List.forall_mem_cons.2 ⟨.record (by decide) ?_, ?_⟩))⟩)
  · exact List.forall_mem_singleton.2 (.integer _)
  · exact List.forall_mem_singleton.2 .null

end Letter

open Letter in
theorem json_goes_round_letter :
    (document.Native ∧ document.InOrder ∧ (Value.ofJson document).toJson = document) ∧
    letter.Expressible ∧ (Value.ofJson letter.toJson == letter) = true := by
  have ordered : document.InOrder := by
    simp only [document, Json.InOrder, Json.ItemsInOrder, Json.MembersInOrder, and_true]
    decide
  obtain ⟨documents, values⟩ := json_goes_round
  exact ⟨⟨native_document, ordered, documents _ native_document ordered⟩, expressible_letter,
    values _ expressible_letter⟩

end EntityMapping
