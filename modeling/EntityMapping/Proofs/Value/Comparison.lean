import EntityMapping.Proofs.Value.Equivalence
import EntityMapping.Proofs.Value.Order
import Mathlib.Data.String.Basic

/-!
Values are compared by one order. Turned round it is reversed, and null is its end. Without doubles
it is also transitive wherever it holds, and the values it tells apart are the ones that are not
equal. Doubles break both: an integer is rounded before it is compared with one, and equality bears
with small differences.
-/

namespace EntityMapping

/-! ### Parts -/

instance : Std.LawfulEqCmp Timestamp.compare where
  eq_of_compare {s t} h := by
    obtain ⟨seconds, nanos⟩ := Ordering.then_eq_eq.1 h
    cases s
    cases t
    simp_all [compareOn]

instance : Std.LawfulEqCmp Date.compare where
  eq_of_compare {d e} h := by
    obtain ⟨year, rest⟩ := Ordering.then_eq_eq.1 h
    obtain ⟨month, day⟩ := Ordering.then_eq_eq.1 rest
    cases d
    cases e
    simp_all [compareOn]

instance : Std.LawfulEqCmp Uuid.compare where
  eq_of_compare {u v} h := by
    cases u
    cases v
    simp_all [Uuid.compare, compareOn]

namespace Value

variable {a b c : Value} {o o₁ o₂ o₃ : Ordering}

/-! ### Two values -/

theorem partialCompare_eq (a b : Value) : a.partialCompare b = (a.compare b).toOption := by
  cases a <;> cases b <;> rfl

/-- Turned round, a comparison is reversed. -/
theorem compare_swap (h : a.compare b = .ok o) : b.compare a = .ok o.swap := by
  cases a <;> cases b <;> simp only [compare, reduceCtorEq, Except.ok.injEq] at h ⊢ <;> rw [← h] <;>
    first
    | rfl
    | exact Std.OrientedCmp.eq_swap

theorem compare_eq_ok_swap (a b : Value) (o : Ordering) :
    a.compare b = .ok o ↔ b.compare a = .ok o.swap :=
  ⟨compare_swap, fun h => by simpa using compare_swap h⟩

theorem compare_eq_error_swap (a b : Value) :
    (∃ e, a.compare b = .error e) ↔ ∃ e, b.compare a = .error e := by
  cases a <;> cases b <;> simp [compare]

theorem compare_null (h : a ≠ .null) : Value.null.compare a = .ok .gt := by
  cases a <;> first
    | exact (h rfl).elim
    | rfl

theorem compare_self (h : a.compare a = .ok o) : o = .eq := by
  cases a <;> simp only [compare, reduceCtorEq, Except.ok.injEq] at h <;>
    rw [← h] <;> exact Std.ReflCmp.compare_self

/-- Values without doubles that are on a par are the same. -/
theorem FloatFree.eq_of_compare (ha : a.FloatFree) (hb : b.FloatFree)
    (h : a.compare b = .ok .eq) : a = b := by
  cases ha <;> cases hb <;> simp only [compare, reduceCtorEq, Except.ok.injEq] at h
  case null.null => rfl
  case integer.integer => exact congrArg _ (Int64.toInt_inj.1 (Std.LawfulEqCmp.eq_of_compare h))
  all_goals exact congrArg _ (Std.LawfulEqCmp.eq_of_compare h)

theorem FloatFree.eq_of_equals (ha : a.FloatFree) (hb : b.FloatFree) (h : a.compare b = .ok o)
    (same : a.equals b = true) : a = b := by
  have free := ha
  cases ha with
  | list | record =>
    -- These can be compared with null only, which equals neither.
    cases hb <;> simp_all [compare, equals, scalarEquals]
  | _ => exact (equals_single free rfl rfl hb).1.1 same

theorem FloatFree.compare_eq_iff (ha : a.FloatFree) (hb : b.FloatFree) :
    a.compare b = .ok .eq ↔ (∃ o, a.compare b = .ok o) ∧ a.equals b = true := by
  constructor
  · intro h
    obtain rfl := ha.eq_of_compare hb h
    exact ⟨⟨_, h⟩, ha.equals_self⟩
  · rintro ⟨⟨o, h⟩, same⟩
    obtain rfl := ha.eq_of_equals hb h same
    rwa [compare_self h] at h

/-! ### Three values -/

/-- Going up twice goes up, and a step between values on a par counts for nothing. -/
theorem FloatFree.compare_trans (ha : a.FloatFree) (hb : b.FloatFree) (hc : c.FloatFree)
    (first : a.compare b = .ok o₁) (second : b.compare c = .ok o₂) (third : a.compare c = .ok o₃)
    (up : o₁.isLE) (up' : o₂.isLE) : o₃ = o₁.then o₂ := by
  cases o₁ with
  | eq =>
    obtain rfl := ha.eq_of_compare hb first
    exact Except.ok.inj (third.symm.trans second)
  | gt => cases up
  | lt =>
    cases o₂ with
    | eq =>
      obtain rfl := hb.eq_of_compare hc second
      exact Except.ok.inj (third.symm.trans first)
    | gt => cases up'
    | lt =>
      rw [← sortOrder_of_ok third]
      exact sortOrder_lt_trans (sortOrder_of_ok first) (sortOrder_of_ok second)

theorem FloatFree.compare_trans_down (ha : a.FloatFree) (hb : b.FloatFree) (hc : c.FloatFree)
    (first : a.compare b = .ok o₁) (second : b.compare c = .ok o₂) (third : a.compare c = .ok o₃)
    (down : o₁.isGE) (down' : o₂.isGE) : o₃ = o₁.then o₂ := by
  have turned : o₃.swap = o₂.swap.then o₁.swap :=
    hc.compare_trans hb ha (compare_swap second) (compare_swap first) (compare_swap third)
      (by rwa [Ordering.isLE_swap]) (by rwa [Ordering.isLE_swap])
  cases o₁ <;> cases o₂ <;> cases o₃ <;> simp_all

end Value

/-- The partial order is the comparison without its error. A comparison fails in one direction if it
fails in the other, and else the two are reversed; null comes after all else. Without doubles the
comparison is transitive wherever it holds, and where it holds values are on a par exactly if they
are equal. -/
theorem comparison_is_one_order :
    (∀ a b : Value, a.partialCompare b = (a.compare b).toOption) ∧
    (∀ a b : Value, ((∃ e, a.compare b = .error e) ↔ ∃ e, b.compare a = .error e) ∧
      ∀ o, a.compare b = .ok o ↔ b.compare a = .ok o.swap) ∧
    (∀ a b c : Value, a.FloatFree → b.FloatFree → c.FloatFree → ∀ o₁ o₂ o₃ : Ordering,
      a.compare b = .ok o₁ → b.compare c = .ok o₂ → a.compare c = .ok o₃ →
      (o₁.isLE ∧ o₂.isLE ∨ o₁.isGE ∧ o₂.isGE) → o₃ = o₁.then o₂) ∧
    (∀ a : Value, a ≠ .null → a.compare .null = .ok .lt ∧ Value.null.compare a = .ok .gt) ∧
    ∀ a b : Value, a.FloatFree → b.FloatFree →
      (a.compare b = .ok .eq ↔ (∃ o, a.compare b = .ok o) ∧ (a == b) = true) := by
  refine ⟨Value.partialCompare_eq,
    fun a b => ⟨Value.compare_eq_error_swap a b, Value.compare_eq_ok_swap a b⟩,
    fun a b c ha hb hc o₁ o₂ o₃ first second third => ?_,
    fun a h => ⟨Value.compare_swap (Value.compare_null h), Value.compare_null h⟩,
    fun a b ha hb => ha.compare_eq_iff hb⟩
  rintro (⟨up, up'⟩ | ⟨down, down'⟩)
  · exact ha.compare_trans hb hc first second third up up'
  · exact ha.compare_trans_down hb hc first second third down down'

theorem comparison_is_one_order_days :
    ((Value.integer 3).compare (.integer 7) = .ok .lt ∧ (Value.integer 7).compare .null = .ok .lt ∧
      (Value.integer 3).compare .null = .ok (Ordering.lt.then .lt)) ∧
    (Value.null.compare (.list []) = .ok .gt) ∧
    ((Value.text "wolf").compare (.text "wolf") = .ok .eq) := by
  obtain ⟨-, -, transitive, last, par⟩ := comparison_is_one_order
  refine ⟨⟨rfl, rfl, ?_⟩, ?_, ?_⟩
  · rw [← transitive (.integer 3) (.integer 7) .null (.integer _) (.integer _) .null .lt .lt .lt
      rfl rfl rfl (.inl ⟨rfl, rfl⟩)]
    exact (last _ (by simp)).1
  · exact (last _ (by simp)).2
  · exact (par _ _ (.text _) (.text _)).2 ⟨⟨.eq, rfl⟩, by simp [Value.equals, Value.scalarEquals]⟩

end EntityMapping
