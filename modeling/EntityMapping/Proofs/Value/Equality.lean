import EntityMapping.Value.Order

/-!
Equality of values. It is coarser than being the same, and not even reflexive where doubles come in:
an infinity does not equal itself. Without doubles every value equals itself.
-/

namespace EntityMapping.Value

/-- There is no double in a value, at any depth. -/
inductive FloatFree : Value → Prop where
  | null : FloatFree .null
  | integer (n : Int64) : FloatFree (.integer n)
  | text (s : String) : FloatFree (.text s)
  | boolean (b : Bool) : FloatFree (.boolean b)
  | timestamp (t : Timestamp) : FloatFree (.timestamp t)
  | date (d : Date) : FloatFree (.date d)
  | uuid (u : Uuid) : FloatFree (.uuid u)
  | list {items : List Value} (each : ∀ v ∈ items, FloatFree v) : FloatFree (.list items)
  | record {elements : List (String × Value)} (each : ∀ e ∈ elements, FloatFree e.2) :
      FloatFree (.record elements)

theorem itemsEqual_self {items : List Value} (each : ∀ v ∈ items, v.equals v = true) :
    itemsEqual items items = true := by
  induction items with
  | nil => rw [itemsEqual]
  | cons v rest ih =>
    rw [itemsEqual, each v (List.mem_cons_self ..),
      ih fun w mem => each w (List.mem_cons_of_mem _ mem)]
    rfl

theorem covered_self {elements : Elements} (each : ∀ e ∈ elements, e.2.equals e.2 = true) :
    covered elements elements = true := by
  rw [covered_eq_all, List.all_eq_true]
  intro e mem
  rw [List.any_eq_true]
  exact ⟨e, mem, by simp [each e mem]⟩

theorem FloatFree.equals_self {v : Value} (h : FloatFree v) : v.equals v = true := by
  induction h with
  | list each ih =>
    rw [equals]
    exact itemsEqual_self ih
  | record each ih =>
    rw [equals, covered_self ih]
    simp
  | _ => simp [equals, scalarEquals]

end EntityMapping.Value
