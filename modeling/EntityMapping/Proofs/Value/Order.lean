import EntityMapping.Proofs.Number.Rounding
import EntityMapping.Value.Order
import Mathlib.Data.String.Basic

/-!
The order of values in a sort, where values that have none stand beside each other. To come before
is transitive. To stand beside is not: a value can stand beside two others of which one comes before
the other. That happens in two ways and no other. Either the value has no order with the two at all,
or it is a double and the two are integers that are rounded to it.
-/

namespace EntityMapping

instance (f : Format) : Std.TransCmp (@Binary.compare f) :=
  inferInstanceAs (Std.TransOrd (Binary f))

instance : Std.TransCmp Timestamp.compare := inferInstanceAs (Std.TransOrd Timestamp)

instance : Std.TransCmp Date.compare := inferInstanceAs (Std.TransOrd Date)

instance : Std.TransCmp Uuid.compare := inferInstanceAs (Std.TransOrd Uuid)

namespace Value

variable {a b c : Value}

/-- The order of two values in a sort; values without an order stand beside each other. -/
def sortOrder (a b : Value) : Ordering :=
  match a.compare b with
  | .ok o => o
  | .error _ => .eq

theorem sortOrder_of_ok {o : Ordering} (h : a.compare b = .ok o) : a.sortOrder b = o := by
  rw [sortOrder, h]

theorem sortOrder_of_error {e : MapperError} (h : a.compare b = .error e) :
    a.sortOrder b = .eq := by
  rw [sortOrder, h]

theorem sortOrder_swap (a b : Value) : a.sortOrder b = (b.sortOrder a).swap := by
  cases a <;> cases b <;> first
    | rfl
    | (simp only [sortOrder, compare]
       exact Std.OrientedCmp.eq_swap)

/-! ### Coming before -/

/-- One value comes before another. Null is last, integers are compared with integers, other numbers
as doubles, and all else with values of its own type. -/
inductive Precedes : Value → Value → Prop where
  | null {a : Value} (h : a ≠ .null) : Precedes a .null
  | integers {m n : Int64} (h : Ord.compare m.toInt n.toInt = .lt) :
      Precedes (.integer m) (.integer n)
  | floats {x y : Double} (h : x.compare y = .lt) : Precedes (.float x) (.float y)
  | integerFloat {m : Int64} {y : Double} (h : (ofInt64 m).compare y = .lt) :
      Precedes (.integer m) (.float y)
  | floatInteger {x : Double} {n : Int64} (h : x.compare (ofInt64 n) = .lt) :
      Precedes (.float x) (.integer n)
  | texts {s t : String} (h : Ord.compare s t = .lt) : Precedes (.text s) (.text t)
  | booleans {p q : Bool} (h : Ord.compare p q = .lt) : Precedes (.boolean p) (.boolean q)
  | timestamps {s t : Timestamp} (h : s.compare t = .lt) : Precedes (.timestamp s) (.timestamp t)
  | dates {d e : Date} (h : d.compare e = .lt) : Precedes (.date d) (.date e)
  | uuids {u v : Uuid} (h : u.compare v = .lt) : Precedes (.uuid u) (.uuid v)

theorem precedes_iff : a.sortOrder b = .lt ↔ Precedes a b := by
  constructor
  · intro h
    cases a <;> cases b <;> simp only [sortOrder, compare, reduceCtorEq] at h <;>
      constructor <;> first | exact h | simp
  · intro h
    cases h with
    | null other => cases a <;> simp_all [sortOrder, compare]
    | _ h => simpa only [sortOrder, compare] using h

theorem isLE_ofInt64 {m n : Int64} (h : Ord.compare m.toInt n.toInt = .lt) :
    ((ofInt64 m).compare (ofInt64 n)).isLE = true :=
  Ordering.isLE_iff_ne_gt.2 (ofInt64_mono (Int.compare_eq_lt.1 h).le)

/-- Integers whose doubles are apart are in the order of these. -/
theorem lt_of_ofInt64_lt {m n : Int64} (h : (ofInt64 m).compare (ofInt64 n) = .lt) :
    Ord.compare m.toInt n.toInt = .lt := by
  rw [Int.compare_eq_lt]
  by_contra notLess
  exact ofInt64_mono (Int.not_lt.1 notLess) (Std.OrientedCmp.gt_of_lt h)

/-- To come before is transitive. -/
theorem Precedes.trans (first : Precedes a b) (second : Precedes b c) : Precedes a c := by
  cases first with
  | null other =>
    cases second with
    | null absurd => exact (absurd rfl).elim
  | integers h =>
    cases second with
    | null => exact .null (by simp)
    | integers g => exact .integers (Std.TransCmp.lt_trans h g)
    | integerFloat g => exact .integerFloat (Std.TransCmp.lt_of_isLE_of_lt (isLE_ofInt64 h) g)
  | floats h =>
    cases second with
    | null => exact .null (by simp)
    | floats g => exact .floats (Std.TransCmp.lt_trans h g)
    | floatInteger g => exact .floatInteger (Std.TransCmp.lt_trans h g)
  | integerFloat h =>
    cases second with
    | null => exact .null (by simp)
    | floats g => exact .integerFloat (Std.TransCmp.lt_trans h g)
    | floatInteger g => exact .integers (lt_of_ofInt64_lt (Std.TransCmp.lt_trans h g))
  | floatInteger h =>
    cases second with
    | null => exact .null (by simp)
    | integers g => exact .floatInteger (Std.TransCmp.lt_of_lt_of_isLE h (isLE_ofInt64 g))
    | integerFloat g => exact .floats (Std.TransCmp.lt_trans h g)
  | texts h =>
    cases second with
    | null => exact .null (by simp)
    | texts g => exact .texts (Std.TransCmp.lt_trans h g)
  | booleans h =>
    cases second with
    | null => exact .null (by simp)
    | booleans g => exact .booleans (Std.TransCmp.lt_trans h g)
  | timestamps h =>
    cases second with
    | null => exact .null (by simp)
    | timestamps g => exact .timestamps (Std.TransCmp.lt_trans h g)
  | dates h =>
    cases second with
    | null => exact .null (by simp)
    | dates g => exact .dates (Std.TransCmp.lt_trans h g)
  | uuids h =>
    cases second with
    | null => exact .null (by simp)
    | uuids g => exact .uuids (Std.TransCmp.lt_trans h g)

theorem sortOrder_lt_trans (first : a.sortOrder b = .lt) (second : b.sortOrder c = .lt) :
    a.sortOrder c = .lt :=
  precedes_iff.2 ((precedes_iff.1 first).trans (precedes_iff.1 second))

/-! ### Standing beside -/

/-- A value stands beside two others, even where one of these comes before the other. -/
inductive Blurs : Value → Value → Value → Prop where
  /-- It has no order with them. -/
  | apart {c a b : Value} {e f : MapperError} (left : a.compare c = .error e)
      (right : b.compare c = .error f) : Blurs c a b
  /-- It is a double that both integers are rounded to. -/
  | rounded {z : Double} {m n : Int64} (left : (ofInt64 m).compare z = .eq)
      (right : (ofInt64 n).compare z = .eq) : Blurs (.float z) (.integer m) (.integer n)

theorem Blurs.symm (h : Blurs c a b) : Blurs c b a := by
  cases h with
  | apart left right => exact .apart right left
  | rounded left right => exact .rounded right left

theorem Blurs.beside (h : Blurs c a b) : a.sortOrder c = .eq ∧ b.sortOrder c = .eq := by
  cases h with
  | apart left right => exact ⟨sortOrder_of_error left, sortOrder_of_error right⟩
  | rounded left right =>
    exact ⟨sortOrder_of_ok (congrArg _ left), sortOrder_of_ok (congrArg _ right)⟩

/-- Nothing stands beside both of two things that are in order. -/
theorem not_beside_both {α : Type} {cmp : α → α → Ordering} [Std.TransCmp cmp] {x y z : α}
    (h : cmp x y = .lt) (left : cmp x z = .eq) (right : cmp y z = .eq) : False := by
  have same := Std.TransCmp.eq_trans left (Std.OrientedCmp.eq_symm right)
  rw [same] at h
  cases h

/-- What stands beside two values of which one comes before the other does so in one of two ways. -/
theorem blurs_of_beside (h : Precedes a b) (left : a.sortOrder c = .eq)
    (right : b.sortOrder c = .eq) : Blurs c a b := by
  cases h with
  | null other =>
    cases c with
    | null =>
      rw [precedes_iff.2 (.null other)] at left
      cases left
    | _ => simp only [sortOrder, compare, reduceCtorEq] at right
  | integers h =>
    cases c <;> simp only [sortOrder, compare, reduceCtorEq] at left right
    case integer => exact (not_beside_both h left right).elim
    case float => exact .rounded left right
    all_goals exact .apart rfl rfl
  | floats h =>
    cases c <;> simp only [sortOrder, compare, reduceCtorEq] at left right
    case integer => exact (not_beside_both h left right).elim
    case float => exact (not_beside_both h left right).elim
    all_goals exact .apart rfl rfl
  | integerFloat h =>
    cases c <;> simp only [sortOrder, compare, reduceCtorEq] at left right
    case integer =>
      -- An integer beside an integer is the same one.
      rw [Int64.toInt_inj.1 (Std.LawfulEqCmp.eq_of_compare left)] at h
      rw [Std.OrientedCmp.eq_symm right] at h
      cases h
    case float => exact (not_beside_both h left right).elim
    all_goals exact .apart rfl rfl
  | floatInteger h =>
    cases c <;> simp only [sortOrder, compare, reduceCtorEq] at left right
    case integer =>
      rw [Int64.toInt_inj.1 (Std.LawfulEqCmp.eq_of_compare right), left] at h
      cases h
    case float => exact (not_beside_both h left right).elim
    all_goals exact .apart rfl rfl
  | texts h | booleans h | timestamps h | dates h | uuids h =>
    -- Beside a value of the same type nothing else is, and the other types have no order with it.
    cases c <;> simp only [sortOrder, compare, reduceCtorEq] at left right <;> first
      | exact (not_beside_both h left right).elim
      | exact .apart rfl rfl

end Value

end EntityMapping
