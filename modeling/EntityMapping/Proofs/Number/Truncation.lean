import EntityMapping.Proofs.Number.Rounding
import Mathlib.Algebra.Order.Floor.Semifield
import Mathlib.Data.Rat.Floor

/-!
Numbers without their fraction. A finite binary number stands for a rational one, and taking its
fraction off means rounding that one toward zero. Integers of 64 bits are compared with doubles
before this is done. The least one is a double; the greatest one is not and counts as `2 ^ 63`. No
double lies strictly between two integers from `2 ^ 63` on, so what is let in is what has a
truncation among the integers of 64 bits, and `2 ^ 63`, which becomes the greatest of them.
-/

namespace EntityMapping

/-! ### Rounding toward zero -/

/-- A rational number without its fraction. -/
def towardZero (q : ℚ) : ℤ := if 0 ≤ q then ⌊q⌋ else ⌈q⌉

theorem towardZero_of_nonneg {q : ℚ} (h : 0 ≤ q) : towardZero q = ⌊q⌋ := if_pos h

theorem towardZero_of_nonpos {q : ℚ} (h : q ≤ 0) : towardZero q = ⌈q⌉ := by
  rcases h.lt_or_eq with below | rfl
  · exact if_neg (not_le.2 below)
  · rfl

@[simp] theorem towardZero_intCast (n : ℤ) : towardZero n = n := by
  rw [towardZero, Int.floor_intCast, Int.ceil_intCast, ite_self]

theorem towardZero_neg (q : ℚ) : towardZero (-q) = -towardZero q := by
  rcases le_total 0 q with h | h
  · rw [towardZero_of_nonneg h, towardZero_of_nonpos (neg_nonpos.2 h), Int.ceil_neg]
  · rw [towardZero_of_nonpos h, towardZero_of_nonneg (neg_nonneg.2 h), Int.floor_neg]

theorem towardZero_mono {p q : ℚ} (h : p ≤ q) : towardZero p ≤ towardZero q := by
  rcases le_total 0 p with hp | hp
  · rw [towardZero_of_nonneg hp, towardZero_of_nonneg (hp.trans h)]
    exact Int.floor_mono h
  · rcases le_total 0 q with hq | hq
    · -- Zero lies between them.
      rw [towardZero_of_nonpos hp, towardZero_of_nonneg hq]
      exact (Int.ceil_le.2 (Int.cast_zero (R := ℚ) ▸ hp)).trans (Int.floor_nonneg.2 hq)
    · rw [towardZero_of_nonpos hp, towardZero_of_nonpos hq]
      exact Int.ceil_mono h

@[simp] theorem towardZero_two_pow (n : ℕ) : towardZero (2 ^ n) = 2 ^ n := by
  exact_mod_cast towardZero_intCast (2 ^ n)

theorem towardZero_lt {q : ℚ} {n : ℤ} (pos : 0 < n) : towardZero q < n ↔ q < n := by
  rcases le_total 0 q with h | h
  · rw [towardZero_of_nonneg h, Int.floor_lt]
  · -- Both sides hold.
    have below : q < n := h.trans_lt (Int.cast_pos.2 pos)
    have ceil : ⌈q⌉ ≤ 0 := Int.ceil_le.2 (Int.cast_zero (R := ℚ) ▸ h)
    rw [towardZero_of_nonpos h]
    exact iff_of_true (ceil.trans_lt pos) below

theorem towardZero_le {q : ℚ} (h : 0 ≤ q) : (towardZero q : ℚ) ≤ q := by
  rw [towardZero_of_nonneg h]
  exact Int.floor_le q

theorem le_towardZero {q : ℚ} (h : q ≤ 0) : q ≤ towardZero q := by
  rw [towardZero_of_nonpos h]
  exact Int.le_ceil q

theorem intCast_lt_of_lt_towardZero {q : ℚ} {n : ℤ} (h : n < towardZero q) : (n : ℚ) < q := by
  rcases le_total 0 q with sign | sign
  · exact (Int.cast_lt.2 h).trans_le (towardZero_le sign)
  · rw [towardZero_of_nonpos sign] at h
    exact Int.lt_ceil.1 h

theorem lt_intCast_of_towardZero_lt {q : ℚ} {n : ℤ} (h : towardZero q < n) : q < n := by
  rcases le_total 0 q with sign | sign
  · rw [towardZero_of_nonneg sign] at h
    exact Int.floor_lt.1 h
  · exact (le_towardZero sign).trans_lt (Int.cast_lt.2 h)

namespace Binary

variable {f : Format} {x y : Binary f}

/-- The rational number that a finite number stands for. -/
def toRat (x : Binary f) : ℚ := x.scaled / twoTo f.scale

theorem toRat_positive {m e : ℕ} (holds : f.Holds m e) :
    (finite false m e holds).toRat = (m * twoTo e : ℕ) / (twoTo f.scale : ℕ) := rfl

theorem toRat_negative {m e : ℕ} (holds : f.Holds m e) :
    (finite true m e holds).toRat = -((m * twoTo e : ℕ) / (twoTo f.scale : ℕ)) := by
  simp only [toRat, scaled, isNegative, magnitude, ↓reduceIte, Int.cast_neg, Int.cast_natCast,
    neg_div]

theorem toRat_eq_div {n : ℤ} {d : ℕ} (pos : 0 < d) (units : x.scaled * d = n * twoTo f.scale) :
    x.toRat = n / d := by
  have unit : (twoTo f.scale : ℚ) ≠ 0 := (Nat.cast_pos.2 (twoTo_pos _)).ne'
  rw [toRat, div_eq_div_iff unit (Nat.cast_pos.2 pos).ne']
  exact_mod_cast units

theorem toRat_of_not_isFinite (unreal : ¬ x.isFinite = true) : x.toRat = 0 := by
  have zero : x.scaled = 0 := by
    cases x with
    | nan => rfl
    | infinite negative => cases negative <;> rfl
    | finite => exact absurd rfl unreal
  rw [toRat, zero, Int.cast_zero, zero_div]

/-- A finite number without its fraction is its rational number without its fraction. -/
theorem truncate?_eq (real : x.isFinite = true) : x.truncate? = some (towardZero x.toRat) := by
  cases x with
  | nan => cases real
  | infinite => cases real
  | finite negative m e holds =>
    have quotient : towardZero ((m * twoTo e : ℕ) / (twoTo f.scale : ℕ)) =
        (m * twoTo e / twoTo f.scale : ℕ) := by
      rw [towardZero_of_nonneg (by positivity), ← Int.natCast_floor_eq_floor (by positivity),
        Nat.floor_div_eq_div]
    cases negative with
    | false => rw [toRat_positive, quotient]; rfl
    | true => rw [toRat_negative, towardZero_neg, quotient]; rfl

/-- A significand that reaches past all others of its length has no digit below the point. -/
theorem exists_intCast_of_large {m e : ℕ} (holds : f.Holds m e)
    (large : (twoTo f.precision : ℚ) ≤ (m * twoTo e : ℕ) / (twoTo f.scale : ℕ)) :
    ∃ n : ℤ, (m * twoTo e : ℕ) / (twoTo f.scale : ℕ) = (n : ℚ) := by
  have units : twoTo f.precision * twoTo f.scale ≤ m * twoTo e := by
    rw [le_div_iff₀ (Nat.cast_pos.2 (twoTo_pos _))] at large
    exact_mod_cast large
  have above : f.scale ≤ e := by
    by_contra below
    have short : m * twoTo e < twoTo f.precision * twoTo f.scale :=
      Nat.mul_lt_mul_of_lt_of_le holds.lt (twoTo_le (by omega)) (twoTo_pos _)
    omega
  refine ⟨(m * twoTo (e - f.scale) : ℕ), ?_⟩
  have split : m * twoTo e = m * twoTo (e - f.scale) * twoTo f.scale := by
    rw [Nat.mul_assoc, ← twoTo_add, Nat.sub_add_cancel above]
  rw [split, Nat.cast_mul, mul_div_cancel_right₀ _ (Nat.cast_pos.2 (twoTo_pos _)).ne']
  rfl

/-- Every number as large as that is an integer. -/
theorem exists_toRat_eq_intCast (real : x.isFinite = true)
    (large : (twoTo f.precision : ℚ) ≤ |x.toRat|) : ∃ n : ℤ, x.toRat = n := by
  cases x with
  | nan => cases real
  | infinite => cases real
  | finite negative m e holds =>
    have size : |(finite negative m e holds).toRat| =
        (m * twoTo e : ℕ) / (twoTo f.scale : ℕ) := by
      cases negative with
      | false => rw [toRat_positive, abs_of_nonneg (by positivity)]
      | true => rw [toRat_negative, abs_neg, abs_of_nonneg (by positivity)]
    obtain ⟨n, whole⟩ := exists_intCast_of_large holds (size ▸ large)
    cases negative with
    | false => exact ⟨n, whole⟩
    | true => exact ⟨-n, by rw [toRat_negative, whole, Int.cast_neg]⟩

theorem toRat_le_toRat : x.toRat ≤ y.toRat ↔ x.scaled ≤ y.scaled := by
  rw [toRat, toRat, div_le_div_iff_of_pos_right (Nat.cast_pos.2 (twoTo_pos _)), Int.cast_le]

theorem compare_ne_lt_iff (hx : x.isFinite = true) (hy : y.isFinite = true) :
    x.compare y ≠ .lt ↔ y.toRat ≤ x.toRat := by
  rw [compare_of_isFinite hx hy, Ne, Int.compare_eq_lt, not_lt, toRat_le_toRat]

theorem compare_ne_gt_iff (hx : x.isFinite = true) (hy : y.isFinite = true) :
    x.compare y ≠ .gt ↔ x.toRat ≤ y.toRat := by
  rw [compare_of_isFinite hx hy, Ne, Int.compare_eq_gt, not_lt, toRat_le_toRat]

end Binary

/-! ### Integers of 64 bits -/

namespace Value

theorem scaled_ofInt64_minValue :
    (ofInt64 Int64.minValue).scaled = -(twoTo 63 * twoTo Format.double.scale : ℕ) := by
  rw [(ofInt64_eq _).2]
  decide +kernel

theorem scaled_ofInt64_maxValue :
    (ofInt64 Int64.maxValue).scaled = (twoTo 63 * twoTo Format.double.scale : ℕ) := by
  rw [(ofInt64_eq _).2]
  decide +kernel

theorem toRat_ofInt64_minValue : (ofInt64 Int64.minValue).toRat = -2 ^ 63 := by
  rw [Binary.toRat, scaled_ofInt64_minValue, Int.cast_neg, Int.cast_natCast, Nat.cast_mul, neg_div,
    mul_div_cancel_right₀ _ (Nat.cast_pos.2 (twoTo_pos _)).ne']
  norm_num [twoTo]

theorem toRat_ofInt64_maxValue : (ofInt64 Int64.maxValue).toRat = 2 ^ 63 := by
  rw [Binary.toRat, scaled_ofInt64_maxValue, Int.cast_natCast, Nat.cast_mul,
    mul_div_cancel_right₀ _ (Nat.cast_pos.2 (twoTo_pos _)).ne']
  norm_num [twoTo]

variable {x : Double} {n : Int64}

theorem inIntegerRange_iff (real : x.isFinite = true) :
    inIntegerRange x = true ↔ -2 ^ 63 ≤ x.toRat ∧ x.toRat ≤ 2 ^ 63 := by
  rw [inIntegerRange, Bool.and_eq_true, bne_iff_ne, bne_iff_ne,
    Binary.compare_ne_lt_iff real (ofInt64_eq _).1, Binary.compare_ne_gt_iff real (ofInt64_eq _).1,
    toRat_ofInt64_minValue, toRat_ofInt64_maxValue]

/-- The integer that a double is narrowed to: the double without its fraction, but the greatest
integer for `2 ^ 63`. -/
inductive Narrows (x : Double) (n : Int64) : Prop where
  | truncated (real : x.isFinite = true) (exact : n.toInt = towardZero x.toRat)
  | bound (past : x.toRat = 2 ^ 63) (greatest : n = Int64.maxValue)

theorem truncated?_of_lt (real : x.isFinite = true) (low : -2 ^ 63 ≤ x.toRat)
    (high : x.toRat < 2 ^ 63) : truncated? x = some (Int64.ofInt (towardZero x.toRat)) := by
  have below : towardZero x.toRat < 2 ^ 63 :=
    (towardZero_lt (by norm_num)).2 (by exact_mod_cast high)
  have greatest : Int64.maxValue.toInt = 2 ^ 63 - 1 := by decide
  rw [truncated?, if_pos ((inIntegerRange_iff real).2 ⟨low, high.le⟩), Binary.truncate?_eq real,
    Option.map_some, greatest, min_eq_left (by omega)]

theorem truncated?_of_eq (past : x.toRat = 2 ^ 63) : truncated? x = some Int64.maxValue := by
  have real : x.isFinite = true := by
    by_contra unreal
    rw [Binary.toRat_of_not_isFinite unreal] at past
    norm_num at past
  have within : -2 ^ 63 ≤ x.toRat ∧ x.toRat ≤ 2 ^ 63 := by
    rw [past]
    norm_num
  rw [truncated?, if_pos ((inIntegerRange_iff real).2 within), Binary.truncate?_eq real, past,
    towardZero_two_pow]
  decide

theorem within_of_truncated?_isSome (h : (truncated? x).isSome = true) :
    x.isFinite = true ∧ -2 ^ 63 ≤ x.toRat ∧ x.toRat ≤ 2 ^ 63 := by
  rw [truncated?] at h
  split at h
  · rename_i ranged
    have real : x.isFinite = true := by
      cases x with
      | finite => rfl
      | nan => cases h
      | infinite => cases h
    exact ⟨real, (inIntegerRange_iff real).1 ranged⟩
  · cases h

/-- No double is a fraction below the least integer. -/
theorem le_toRat_of_le_towardZero (real : x.isFinite = true) (h : -2 ^ 63 ≤ towardZero x.toRat) :
    -2 ^ 63 ≤ x.toRat := by
  by_contra below
  rw [not_le] at below
  have large : (twoTo Format.double.precision : ℚ) ≤ |x.toRat| := by
    rw [abs_of_neg (by linarith)]
    norm_num [twoTo, Format.double]
    linarith
  obtain ⟨k, whole⟩ := Binary.exists_toRat_eq_intCast real large
  rw [whole, towardZero_intCast] at h
  rw [whole] at below
  have above : ((-2 ^ 63 : ℤ) : ℚ) ≤ k := Int.cast_le.2 h
  push_cast at above
  linarith

/-- A double has an integer exactly if it is narrowed to it. -/
theorem truncated?_eq_some_iff : truncated? x = some n ↔ Narrows x n := by
  constructor
  · intro h
    obtain ⟨real, low, high⟩ := within_of_truncated?_isSome (Option.isSome_of_eq_some h)
    rcases high.lt_or_eq with below | past
    · rw [truncated?_of_lt real low below] at h
      obtain rfl := Option.some.inj h
      have least : -2 ^ 63 ≤ towardZero x.toRat := by
        rw [← towardZero_two_pow, ← towardZero_neg]
        exact towardZero_mono low
      have greatest : towardZero x.toRat < 2 ^ 63 :=
        (towardZero_lt (by norm_num)).2 (by exact_mod_cast below)
      exact .truncated real (Int64.toInt_ofInt_of_le least greatest)
    · rw [truncated?_of_eq past] at h
      exact .bound past (Option.some.inj h).symm
  · rintro (⟨real, exact⟩ | ⟨past, rfl⟩)
    · have low : -2 ^ 63 ≤ x.toRat := le_toRat_of_le_towardZero real (exact ▸ n.le_toInt)
      have high : towardZero x.toRat < 2 ^ 63 := exact ▸ n.toInt_lt
      rw [towardZero_lt (by norm_num)] at high
      rw [truncated?_of_lt real low (by exact_mod_cast high), ← exact, Int64.ofInt_toInt]
    · exact truncated?_of_eq past

end Value

end EntityMapping
