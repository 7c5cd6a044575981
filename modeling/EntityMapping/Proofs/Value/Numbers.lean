import EntityMapping.Proofs.Number.Nearness
import EntityMapping.Proofs.Value.Comparison

/-!
Numbers in the order of values. They can all be compared, and going up twice goes up but for one
case: an integer is rounded before it is compared with a double, so a double stands beside all the
integers that are rounded to it, although these are in order. Equality is the coarser relation.
Numbers on a par are equal, and so are doubles that are close.
-/

namespace EntityMapping

namespace Value

variable {a b c : Value}

/-! ### Going up -/

/-- Two integers, the greater one first, and between them a double that both are rounded to. -/
inductive Meet : Value → Value → Value → Prop where
  | rounded {m n : Int64} {z : Double} (less : n.toInt < m.toInt)
      (left : (ofInt64 m).compare z = .eq) (right : (ofInt64 n).compare z = .eq) :
      Meet (.integer m) (.float z) (.integer n)

theorem Meet.less {m n : Int64} {z : Double} (h : Meet (.integer m) (.float z) (.integer n)) :
    n.toInt < m.toInt := by
  cases h with
  | rounded less => exact less

theorem eq_of_isNumeric (h : a.isNumeric = true) : (∃ n, a = .integer n) ∨ ∃ x, a = .float x := by
  cases a with
  | integer n => exact .inl ⟨n, rfl⟩
  | float x => exact .inr ⟨x, rfl⟩
  | _ => cases h

theorem compare_of_isNumeric (ha : a.isNumeric = true) (hb : b.isNumeric = true) :
    a.compare b = .ok (a.sortOrder b) := by
  obtain ⟨m, rfl⟩ | ⟨x, rfl⟩ := eq_of_isNumeric ha <;>
    obtain ⟨n, rfl⟩ | ⟨y, rfl⟩ := eq_of_isNumeric hb <;> rfl

theorem Blurs.meet (ha : a.isNumeric = true) (hb : b.isNumeric = true) (blurs : b.Blurs c a)
    (below : Precedes c a) : Meet a b c := by
  cases blurs with
  | apart _ right =>
    rw [compare_of_isNumeric ha hb] at right
    cases right
  | rounded left right =>
    cases below with
    | integers less => exact .rounded (Int.compare_eq_lt.1 less) right left

/-- Going up twice goes up, unless the step in between is a double that both ends are rounded to. -/
theorem sortOrder_ne_gt_trans (ha : a.isNumeric = true) (hb : b.isNumeric = true)
    (apart : ¬ Meet a b c) (up : a.sortOrder b ≠ .gt) (up' : b.sortOrder c ≠ .gt) :
    a.sortOrder c ≠ .gt := by
  intro down
  have below : c.sortOrder a = .lt := by rw [sortOrder_swap, down]; rfl
  cases first : a.sortOrder b with
  | gt => exact up first
  | lt =>
    apply up'
    rw [sortOrder_swap, sortOrder_lt_trans below first]
    rfl
  | eq =>
    cases second : b.sortOrder c with
    | gt => exact up' second
    | lt =>
      rw [sortOrder_swap, sortOrder_lt_trans second below] at first
      cases first
    | eq =>
      -- The two ends are in order and both stand beside what is between them.
      rw [sortOrder_swap, Ordering.swap_eq_eq] at second
      exact apart ((blurs_of_beside (precedes_iff.1 below) second first).meet ha hb
        (precedes_iff.1 below))

/-! ### Equality -/

/-- Two numbers of which at least one is a double, and as doubles they are close. -/
inductive Close : Value → Value → Prop where
  | floats {x y : Double} (close : x.Close y) : Close (.float x) (.float y)
  | integerFloat {m : Int64} {y : Double} (close : (ofInt64 m).Close y) :
      Close (.integer m) (.float y)
  | floatInteger {x : Double} {n : Int64} (close : x.Close (ofInt64 n)) :
      Close (.float x) (.integer n)

theorem close_float_float {x y : Double} : Close (.float x) (.float y) ↔ x.Close y := by
  constructor
  · intro h
    cases h with
    | floats close => exact close
  · exact .floats

theorem close_integer_float {m : Int64} {y : Double} :
    Close (.integer m) (.float y) ↔ (ofInt64 m).Close y := by
  constructor
  · intro h
    cases h with
    | integerFloat close => exact close
  · exact .integerFloat

theorem close_float_integer {x : Double} {n : Int64} :
    Close (.float x) (.integer n) ↔ x.Close (ofInt64 n) := by
  constructor
  · intro h
    cases h with
    | floatInteger close => exact close
  · exact .floatInteger

theorem not_close_integer_integer {m n : Int64} : ¬ Close (.integer m) (.integer n) := by
  rintro ⟨⟩

def SameInfinity (a b : Value) : Prop := ∃ s, a = .float (.infinite s) ∧ b = .float (.infinite s)

theorem not_sameInfinity_of_isFinite {x y : Double} (h : x.isFinite = true ∨ y.isFinite = true) :
    ¬ x.SameInfinity y := by
  rintro ⟨s, rfl, rfl⟩
  rcases h with h | h <;> cases h

/-- But for infinities, numbers are equal if they are on a par or close. -/
theorem equals_iff_compare (ha : a.isNumeric = true) (hb : b.isNumeric = true)
    (apart : ¬ SameInfinity a b) :
    a.equals b = true ↔ a.compare b = .ok .eq ∨ Close a b := by
  obtain ⟨m, rfl⟩ | ⟨x, rfl⟩ := eq_of_isNumeric ha <;>
    obtain ⟨n, rfl⟩ | ⟨y, rfl⟩ := eq_of_isNumeric hb
  · rw [or_iff_left not_close_integer_integer]
    simp only [equals, scalarEquals, compare, beq_iff_eq, Except.ok.injEq,
      Std.LawfulEqCmp.compare_eq_iff_eq, Int64.toInt_inj]
  · have far := not_sameInfinity_of_isFinite (y := y) (.inl (ofInt64_eq m).1)
    rw [close_integer_float]
    simp only [equals, scalarEquals, compare, Double.near_iff_compare far, Except.ok.injEq]
  · have far := not_sameInfinity_of_isFinite (x := x) (.inr (ofInt64_eq n).1)
    rw [close_float_integer]
    simp only [equals, scalarEquals, compare, Double.near_iff_compare far, Except.ok.injEq]
  · have far : ¬ x.SameInfinity y := by
      rintro ⟨s, rfl, rfl⟩
      exact apart ⟨s, rfl, rfl⟩
    rw [close_float_float]
    simp only [equals, scalarEquals, compare, Double.near_iff_compare far, Except.ok.injEq]

end Value

/-- Any two numbers can be compared. Going up twice goes up, if one does not go from an integer by
way of its double to a lesser integer with the same double. Numbers that are not the same infinity
are equal exactly if they are on a par or, with a double among them, close: finite and less than
`2 ^ -52` apart, once that is rounded. -/
theorem numbers_compare_up_to_tolerance :
    (∀ a b : Value, a.isNumeric = true → b.isNumeric = true → ∃ o, a.compare b = .ok o) ∧
    (∀ a b c : Value, a.isNumeric = true → b.isNumeric = true → c.isNumeric = true →
      ¬ Value.Meet a b c → ∀ o₁ o₂ o₃ : Ordering, a.compare b = .ok o₁ → b.compare c = .ok o₂ →
      a.compare c = .ok o₃ → o₁ ≠ .gt → o₂ ≠ .gt → o₃ ≠ .gt) ∧
    ∀ a b : Value, a.isNumeric = true → b.isNumeric = true → ¬ Value.SameInfinity a b →
      ((a == b) = true ↔ a.compare b = .ok .eq ∨ Value.Close a b) := by
  refine ⟨fun a b ha hb => ⟨_, Value.compare_of_isNumeric ha hb⟩, ?_,
    fun a b => Value.equals_iff_compare⟩
  intro a b c ha hb _ apart o₁ o₂ o₃ first second third up up'
  rw [← Value.sortOrder_of_ok first] at up
  rw [← Value.sortOrder_of_ok second] at up'
  rw [← Value.sortOrder_of_ok third]
  exact Value.sortOrder_ne_gt_trans ha hb apart up up'

/-! ### Numbers near each other -/

namespace Scale

/-- Half of the tolerance. -/
def speck : Double := .make .double false (twoTo 52) 969

/-- The integer `2 ^ 53`, the least one whose successor has no double. -/
def brim : Int64 := 9007199254740992

theorem compare_brim :
    (Value.ofInt64 brim).compare (Value.ofInt64 (brim + 1)) = .eq := by
  decide +kernel

theorem numbers_compare_up_to_tolerance_brim :
    (¬ Value.Meet (.integer brim) (.float (Value.ofInt64 brim)) (.integer (brim + 1)) ∧
      (Value.integer brim).compare (.float (Value.ofInt64 brim)) = .ok .eq ∧
      (Value.float (Value.ofInt64 brim)).compare (.integer (brim + 1)) = .ok .eq ∧
      (Value.integer brim).compare (.integer (brim + 1)) = .ok .lt ∧ Ordering.lt ≠ .gt) ∧
    ¬ Value.SameInfinity (.float speck) (.integer 0) ∧
      (Value.float speck == Value.integer 0) = true := by
  obtain ⟨-, transitive, equal⟩ := numbers_compare_up_to_tolerance
  have apart : ¬ Value.Meet (.integer brim) (.float (Value.ofInt64 brim)) (.integer (brim + 1)) :=
    fun meet => absurd meet.less (by decide)
  have first : (Value.integer brim).compare (.float (Value.ofInt64 brim)) = .ok .eq :=
    congrArg Except.ok Std.ReflCmp.compare_self
  have second : (Value.float (Value.ofInt64 brim)).compare (.integer (brim + 1)) = .ok .eq :=
    congrArg Except.ok compare_brim
  have third : (Value.integer brim).compare (.integer (brim + 1)) = .ok .lt :=
    congrArg Except.ok (by decide : Ord.compare brim.toInt (brim + 1).toInt = .lt)
  have single : ¬ Value.SameInfinity (.float speck) (.integer 0) := by
    rintro ⟨s, -, absurd⟩
    cases absurd
  have close : speck.Close (Value.ofInt64 0) := by
    rw [Double.close_iff (by decide +kernel) (Value.ofInt64_eq 0).1]
    decide +kernel
  exact ⟨⟨apart, first, second, third,
      transitive _ _ _ rfl rfl rfl apart _ _ _ first second third (by decide) (by decide)⟩,
    single, (equal _ _ rfl rfl single).2 (.inr (.floatInteger close))⟩

/-- Without exceptions numbers do not compare consistently. Zero is less than a speck and equal to
it, an infinity is on a par with itself and not equal to itself, and two integers that are not on a
par are both on a par with one double. -/
theorem numbers_compare_inconsistently :
    ¬ ((∀ a b c : Value, a.isNumeric = true → b.isNumeric = true → c.isNumeric = true →
        ∀ o₁ o₂ o₃ : Ordering, a.compare b = .ok o₁ → b.compare c = .ok o₂ →
        a.compare c = .ok o₃ → o₁ ≠ .gt → o₂ ≠ .gt → o₃ ≠ .gt) ∧
      ∀ a b : Value, a.isNumeric = true → b.isNumeric = true →
        (a.compare b = .ok .eq ↔ (a == b) = true)) ∧
    ((Value.integer 0).compare (.float speck) = .ok .lt ∧
      (Value.integer 0 == Value.float speck) = true) ∧
    ((Value.float (.infinite false)).compare (.float (.infinite false)) = .ok .eq ∧
      (Value.float (.infinite false) == Value.float (.infinite false)) = false) ∧
    (Value.integer (brim + 1)).compare (.float (Value.ofInt64 brim)) = .ok .eq ∧
      (Value.float (Value.ofInt64 brim)).compare (.integer brim) = .ok .eq ∧
      (Value.integer (brim + 1)).compare (.integer brim) = .ok .gt := by
  have less : (Value.integer 0).compare (.float speck) = .ok .lt :=
    congrArg Except.ok (by decide +kernel : (Value.ofInt64 0).compare speck = .lt)
  have equal : (Value.integer 0 == Value.float speck) = true := by
    simp only [Value.beq_eq_equals, Value.equals, Value.scalarEquals]
    decide +kernel
  refine ⟨?_, ⟨less, equal⟩, ⟨congrArg Except.ok Std.ReflCmp.compare_self, ?_⟩,
    congrArg Except.ok (Std.OrientedCmp.eq_symm compare_brim),
    congrArg Except.ok Std.ReflCmp.compare_self,
    congrArg Except.ok (by decide : Ord.compare (brim + 1).toInt brim.toInt = .gt)⟩
  · rintro ⟨-, consistent⟩
    have par := (consistent _ _ rfl rfl).2 equal
    rw [less] at par
    cases par
  · simp only [Value.beq_eq_equals, Value.equals, Value.scalarEquals]
    decide +kernel

end Scale

end EntityMapping
