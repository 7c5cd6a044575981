import EntityMapping.Proofs.Number.Truncation
import Mathlib.Algebra.Order.Field.Basic
import Mathlib.Algebra.Order.Ring.Rat
import Mathlib.Tactic.NormNum
import Mathlib.Tactic.Ring

/-!
Doubles that count as equal. Their difference is rounded before it is held against the tolerance, so
a difference just below the tolerance is rounded up to it and counts as one. The least such
difference is half a digit of a significand below the tolerance, and whatever is smaller counts as
none. Beyond that there is what no difference tells: what is not a number counts as equal to itself,
and an infinity has no difference from itself.
-/

namespace EntityMapping

namespace Binary

variable {f : Format} {x y : Binary f}

theorem make_eq (pos : 0 < f.precision) (s : Bool) (m e : ℕ) :
    make f s m e = .infinite s ∨
      ∃ m' e' holds, make f s m e = .finite s m' e' holds ∧ m' * twoTo e' = m * twoTo e := by
  by_cases carry : m = twoTo f.precision
  · by_cases holds : f.Holds (twoTo (f.precision - 1)) (e + 1)
    · refine .inr ⟨_, _, holds, by simp only [make, if_pos carry, dif_pos holds], ?_⟩
      rw [carry, ← twoTo_pred_mul_two pos, twoTo_succ]
      ring
    · exact .inl (by simp only [make, if_pos carry, dif_neg holds])
  · by_cases holds : f.Holds m e
    · exact .inr ⟨m, e, holds, by simp only [make, if_neg carry, dif_pos holds], rfl⟩
    · exact .inl (by simp only [make, if_neg carry, dif_neg holds])

theorem round_eq (pos : 0 < f.precision) (s : Bool) (n d : ℕ) :
    round f s n d = .infinite s ∨
      ∃ m e holds, round f s n d = .finite s m e holds ∧ m * twoTo e = f.nearest n d :=
  make_eq pos s _ _

theorem abs_toRat_sub (x y : Binary f) :
    |x.toRat - y.toRat| = (x.scaled - y.scaled).natAbs / twoTo f.scale := by
  rw [toRat, toRat, div_sub_div_same, abs_div, Nat.abs_cast, ← Int.cast_sub, ← Int.cast_abs,
    Int.abs_eq_natAbs, Int.cast_natCast]

theorem eq_nan (h : x.isNaN = true) : x = .nan := by
  cases x with
  | nan => rfl
  | infinite => cases h
  | finite => cases h

theorem alike_of_rank_eq (h : x.rank = y.rank) :
    x.isNaN = true ∧ y.isNaN = true ∨ (∃ s, x = .infinite s ∧ y = .infinite s) ∨
      x.isFinite = true ∧ y.isFinite = true := by
  have ends : ∀ s, (infinite s : Binary f).rank = if s then 0 else 2 := by
    intro s
    cases s <;> rfl
  cases x <;> cases y <;> grind [rank, isNaN, isFinite]

theorem compare_eq_eq_iff : x.compare y = .eq ↔ x.rank = y.rank ∧ x.scaled = y.scaled := by
  show ((Ord.compare x.rank y.rank).then (Ord.compare x.scaled y.scaled)) = .eq ↔ _
  rw [Ordering.then_eq_eq, Nat.compare_eq_eq, Int.compare_eq_eq]

end Binary

namespace Double

variable {x y : Double} {n : ℕ}

/-- Two doubles are finite and so near that their difference is rounded to less than `2 ^ -52`, the
tolerance. -/
structure Close (x y : Double) : Prop where
  left : x.isFinite = true
  right : y.isFinite = true
  less : |x.toRat - y.toRat| < 1 / 2 ^ 52 - 1 / 2 ^ 106

/-- The least number of units that is rounded up to the tolerance. -/
def slack : ℕ := twoTo 1022 - twoTo 968

theorem nearest_slack : Format.double.nearest slack 1 = twoTo 1022 := by
  decide +kernel

theorem nearest_slack_pred : Format.double.nearest (slack - 1) 1 < twoTo 1022 := by
  decide +kernel

theorem compare_tolerance {m e : ℕ} (holds : Format.double.Holds m e) :
    (Binary.finite false m e holds).compare tolerance = .lt ↔ m * twoTo e < twoTo 1022 := by
  have units : tolerance.scaled = twoTo 1022 := by decide +kernel
  rw [Binary.compare_of_isFinite rfl (by decide +kernel), units, Int.compare_eq_lt]
  exact Int.ofNat_lt

/-- Below the slack a number of units is rounded to less than the tolerance. -/
theorem compare_round_tolerance (n : ℕ) :
    (Binary.round .double false n 1).compare tolerance = .lt ↔ n < slack := by
  constructor
  · intro below
    by_contra far
    have reach : twoTo 1022 ≤ Format.double.nearest n 1 := by
      rw [← nearest_slack]
      exact Format.nearest_mono (by decide) (by omega)
    rcases Binary.round_eq (f := .double) (by decide) false n 1 with
      infinite | ⟨m, e, holds, rounded, magnitude⟩
    · rw [infinite] at below
      exact absurd below (by decide +kernel)
    · rw [rounded, compare_tolerance, magnitude] at below
      omega
  · intro near
    have room : Format.double.spacing (n / 1) < Format.double.top := by
      refine (Format.spacing_mono (n := slack) (by omega)).trans_lt ?_
      decide +kernel
    obtain ⟨m, e, holds, rounded, magnitude⟩ :=
      Binary.exists_round (f := .double) (by decide) room false
    rw [rounded, compare_tolerance, magnitude]
    have least : Format.double.nearest n 1 ≤ Format.double.nearest (slack - 1) 1 :=
      Format.nearest_mono (by decide) (by omega)
    exact least.trans_lt nearest_slack_pred

theorem slack_div_units :
    (slack : ℚ) / (twoTo Format.double.scale : ℕ) = 1 / 2 ^ 52 - 1 / 2 ^ 106 := by
  have units : twoTo Format.double.scale = twoTo 968 * twoTo 106 := by decide +kernel
  have digits : slack = twoTo 968 * (twoTo 54 - 1) := by decide +kernel
  rw [units, digits, Nat.cast_mul, Nat.cast_mul,
    mul_div_mul_left _ _ (Nat.cast_pos.2 (twoTo_pos _)).ne']
  norm_num [twoTo]

theorem close_iff (hx : x.isFinite = true) (hy : y.isFinite = true) :
    x.Close y ↔ (x.scaled - y.scaled).natAbs < slack := by
  have unit : (0 : ℚ) < (twoTo Format.double.scale : ℕ) := Nat.cast_pos.2 (twoTo_pos _)
  have less : |x.toRat - y.toRat| < 1 / 2 ^ 52 - 1 / 2 ^ 106 ↔
      (x.scaled - y.scaled).natAbs < slack := by
    rw [Binary.abs_toRat_sub, ← slack_div_units, div_lt_div_iff_of_pos_right unit, Nat.cast_lt]
  exact ⟨fun close => less.1 close.less, fun below => ⟨hx, hy, less.2 below⟩⟩

/-- Without two finite numbers there is no distance that is less than anything. -/
theorem compare_distance_ne_lt (unreal : ¬ (x.isFinite = true ∧ y.isFinite = true)) :
    (x.distance y).compare tolerance ≠ .lt := by
  have nowhere : (Binary.nan : Double).compare tolerance ≠ .lt := by decide +kernel
  have away : (Binary.infinite false : Double).compare tolerance ≠ .lt := by decide +kernel
  cases x with
  | nan => exact nowhere
  | infinite s =>
    cases y with
    | nan => exact nowhere
    | infinite t =>
      rw [Binary.distance]
      split
      · exact nowhere
      · exact away
    | finite => exact away
  | finite =>
    cases y with
    | nan => exact nowhere
    | infinite t => exact away
    | finite => exact absurd ⟨rfl, rfl⟩ unreal

/-- Doubles count as equal if they are close, or both not a number. -/
theorem near_iff (x y : Double) :
    x.near y = true ↔ x.isNaN = true ∧ y.isNaN = true ∨ x.Close y := by
  rw [near, Bool.or_eq_true, Bool.and_eq_true, beq_iff_eq]
  refine or_congr_right ?_
  by_cases real : x.isFinite = true ∧ y.isFinite = true
  · have distance : x.distance y = .round .double false (x.scaled - y.scaled).natAbs 1 := by
      cases x <;> cases y <;> simp_all [Binary.isFinite, Binary.distance]
    rw [close_iff real.1 real.2, ← compare_round_tolerance, distance]
  · exact iff_of_false (compare_distance_ne_lt real) fun close => real ⟨close.left, close.right⟩

theorem near_self (h : x.isFinite = true) : x.near x = true := by
  rw [near_iff, close_iff h h, sub_self]
  exact .inr (by decide +kernel)

def SameInfinity (x y : Double) : Prop := ∃ s, x = .infinite s ∧ y = .infinite s

theorem close_of_scaled_eq (hx : x.isFinite = true) (hy : y.isFinite = true)
    (same : x.scaled = y.scaled) : x.Close y := by
  rw [close_iff hx hy, same, sub_self]
  decide +kernel

/-- But for infinities, doubles count as equal if they are on a par or close. -/
theorem near_iff_compare (apart : ¬ x.SameInfinity y) :
    x.near y = true ↔ x.compare y = .eq ∨ x.Close y := by
  rw [near_iff, Binary.compare_eq_eq_iff]
  constructor
  · refine Or.imp_left ?_
    rintro ⟨hx, hy⟩
    rw [Binary.eq_nan hx, Binary.eq_nan hy]
    exact ⟨rfl, rfl⟩
  · rintro (⟨rank, scaled⟩ | close)
    · rcases Binary.alike_of_rank_eq rank with nan | infinite | ⟨hx, hy⟩
      · exact .inl nan
      · exact absurd infinite apart
      · exact .inr (close_of_scaled_eq hx hy scaled)
    · exact .inr close

end Double

end EntityMapping
