import EntityMapping.Value.Basic
import Mathlib.Tactic.Ring
import Mathlib.Tactic.SplitIfs

/-!
Rounding keeps the order. The natural nearest to a ratio grows with it. So does the magnitude of the
nearest binary number: numbers of one spacing are rounded alike, and where the spacing changes there
is a power of two that both sides reach but do not pass. Integers of 64 bits are far from the
largest double, so the doubles nearest to them are finite and in the same order, though not always
apart.
-/

namespace EntityMapping

/-! ### Powers of two -/

theorem twoTo_pos (n : Nat) : 0 < twoTo n := Nat.two_pow_pos n

theorem twoTo_add (m n : Nat) : twoTo (m + n) = twoTo m * twoTo n := Nat.pow_add 2 m n

theorem twoTo_succ (n : Nat) : twoTo (n + 1) = twoTo n * 2 := rfl

theorem twoTo_le {m n : Nat} (h : m ≤ n) : twoTo m ≤ twoTo n := Nat.pow_le_pow_right (by omega) h

theorem twoTo_pred_mul_two {n : Nat} (pos : 0 < n) : twoTo (n - 1) * 2 = twoTo n := by
  rw [← twoTo_succ, Nat.sub_add_cancel pos]

theorem log2_le_log2 {m n : Nat} (h : m ≤ n) : m.log2 ≤ n.log2 := by
  by_cases zero : m = 0
  · simp [zero]
  · have nonzero : n ≠ 0 := by omega
    rw [Nat.le_log2 nonzero]
    exact (Nat.log2_self_le zero).trans h

/-! ### The nearest natural -/

theorem div_le_roundHalfEven (n d : Nat) : n / d ≤ roundHalfEven n d := by
  simp only [roundHalfEven]
  split_ifs <;> omega

theorem roundHalfEven_le (n d : Nat) : roundHalfEven n d ≤ n / d + 1 := by
  simp only [roundHalfEven]
  split_ifs <;> omega

/-- A greater ratio has no smaller nearest natural. -/
theorem roundHalfEven_mono {m n : Nat} (d : Nat) (h : m ≤ n) :
    roundHalfEven m d ≤ roundHalfEven n d := by
  have quotients : m / d ≤ n / d := Nat.div_le_div_right h
  by_cases same : m / d = n / d
  · -- Over one quotient the remainders decide, and they are in order.
    have remainders : m % d ≤ n % d := by
      have hm := Nat.div_add_mod m d
      have hn := Nat.div_add_mod n d
      rw [same] at hm
      omega
    simp only [roundHalfEven, same]
    split_ifs <;> omega
  · have below := roundHalfEven_le m d
    have above := div_le_roundHalfEven n d
    omega

/-! ### The nearest binary number -/

namespace Format

/-- The exponent of the spacing among the numbers around a whole number of units. -/
def spacing (f : Format) (q : Nat) : Nat :=
  if q < twoTo f.precision then 0 else q.log2 + 1 - f.precision

/-- The magnitude of the number nearest to `n / d` units. -/
def nearest (f : Format) (n d : Nat) : Nat :=
  let e := f.spacing (n / d)
  roundHalfEven n (d * twoTo e) * twoTo e

variable {f : Format} {m n d q : Nat}

theorem spacing_of_short (short : q < twoTo f.precision) : f.spacing q = 0 := if_pos short

theorem spacing_of_long (long : ¬ q < twoTo f.precision) :
    f.spacing q = q.log2 + 1 - f.precision := if_neg long

theorem spacing_mono (h : m ≤ n) : f.spacing m ≤ f.spacing n := by
  have logs := log2_le_log2 h
  simp only [spacing]
  split_ifs <;> omega

theorem div_spacing_lt (f : Format) (q : Nat) : q / twoTo (f.spacing q) < twoTo f.precision := by
  rw [Nat.div_lt_iff_lt_mul (twoTo_pos _), ← twoTo_add]
  by_cases short : q < twoTo f.precision
  · rwa [spacing_of_short short]
  · refine Nat.lt_log2_self.trans_le (twoTo_le ?_)
    rw [spacing_of_long short]
    omega

theorem le_div_spacing (pos : 0 < f.precision) (h : 0 < f.spacing q) :
    twoTo (f.precision - 1) ≤ q / twoTo (f.spacing q) := by
  have long : ¬ q < twoTo f.precision := by
    intro short
    rw [spacing_of_short short] at h
    omega
  have nonzero : q ≠ 0 := by
    have pos := twoTo_pos f.precision
    omega
  rw [Nat.le_div_iff_mul_le (twoTo_pos _), ← twoTo_add]
  rw [spacing_of_long long] at h ⊢
  exact (twoTo_le (by omega)).trans (Nat.log2_self_le nonzero)

theorem roundHalfEven_spacing_le (f : Format) (n d : Nat) :
    roundHalfEven n (d * twoTo (f.spacing (n / d))) ≤ twoTo f.precision := by
  have digits := f.div_spacing_lt (n / d)
  rw [Nat.div_div_eq_div_mul] at digits
  have up := roundHalfEven_le n (d * twoTo (f.spacing (n / d)))
  omega

theorem le_roundHalfEven_spacing (pos : 0 < f.precision) (h : 0 < f.spacing (n / d)) :
    twoTo (f.precision - 1) ≤ roundHalfEven n (d * twoTo (f.spacing (n / d))) := by
  have digits := le_div_spacing pos h
  rw [Nat.div_div_eq_div_mul] at digits
  exact digits.trans (div_le_roundHalfEven ..)

/-- A greater ratio has no nearest number of smaller magnitude. -/
theorem nearest_mono (pos : 0 < f.precision) (h : m ≤ n) : f.nearest m d ≤ f.nearest n d := by
  have spacings : f.spacing (m / d) ≤ f.spacing (n / d) := spacing_mono (Nat.div_le_div_right h)
  simp only [nearest]
  by_cases same : f.spacing (m / d) = f.spacing (n / d)
  · rw [same]
    exact Nat.mul_le_mul_right _ (roundHalfEven_mono _ h)
  · -- The power of two between the spacings.
    have wider : f.spacing (m / d) + 1 ≤ f.spacing (n / d) := by omega
    calc
      roundHalfEven m (d * twoTo (f.spacing (m / d))) * twoTo (f.spacing (m / d))
          ≤ twoTo f.precision * twoTo (f.spacing (m / d)) :=
        Nat.mul_le_mul_right _ (f.roundHalfEven_spacing_le m d)
      _ = twoTo (f.precision - 1) * twoTo (f.spacing (m / d) + 1) := by
        rw [← twoTo_pred_mul_two pos, twoTo_succ]
        ring
      _ ≤ twoTo (f.precision - 1) * twoTo (f.spacing (n / d)) :=
        Nat.mul_le_mul_left _ (twoTo_le wider)
      _ ≤ roundHalfEven n (d * twoTo (f.spacing (n / d))) * twoTo (f.spacing (n / d)) :=
        Nat.mul_le_mul_right _ (le_roundHalfEven_spacing pos (by omega))

end Format

namespace Binary

variable {f : Format} {x y : Binary f}

theorem exists_make (pos : 0 < f.precision) {m e : Nat} (le : m ≤ twoTo f.precision)
    (full : e = 0 ∨ twoTo (f.precision - 1) ≤ m) (room : e < f.top) (s : Bool) :
    ∃ m' e' holds, make f s m e = .finite s m' e' holds ∧ m' * twoTo e' = m * twoTo e := by
  have half := twoTo_pred_mul_two pos
  have nonzero := twoTo_pos (f.precision - 1)
  by_cases carry : m = twoTo f.precision
  · have holds : f.Holds (twoTo (f.precision - 1)) (e + 1) := ⟨by omega, .inr le_rfl, room⟩
    refine ⟨_, _, holds, by simp only [make, if_pos carry, dif_pos holds], ?_⟩
    rw [carry, ← half, twoTo_succ]
    ring
  · have holds : f.Holds m e := ⟨by omega, full, room.le⟩
    exact ⟨m, e, holds, by simp only [make, if_neg carry, dif_pos holds], rfl⟩

theorem exists_round (pos : 0 < f.precision) {n d : Nat} (room : f.spacing (n / d) < f.top)
    (s : Bool) :
    ∃ m e holds, round f s n d = .finite s m e holds ∧ m * twoTo e = f.nearest n d := by
  refine exists_make pos (f.roundHalfEven_spacing_le n d) ?_ room s
  by_cases least : f.spacing (n / d) = 0
  · exact .inl least
  · exact .inr (Format.le_roundHalfEven_spacing pos (by omega))

/-- The value of the number nearest to an integer. -/
def nearestInt (f : Format) (i : Int) : Int :=
  if i < 0 then -(f.nearest (i.natAbs * twoTo f.scale) 1 : Int)
  else f.nearest (i.natAbs * twoTo f.scale) 1

theorem nearestInt_mono (pos : 0 < f.precision) {i j : Int} (h : i ≤ j) :
    nearestInt f i ≤ nearestInt f j := by
  simp only [nearestInt]
  split_ifs with hi hj hj
  · have magnitudes : f.nearest (j.natAbs * twoTo f.scale) 1 ≤
        f.nearest (i.natAbs * twoTo f.scale) 1 :=
      Format.nearest_mono pos (Nat.mul_le_mul_right _ (by omega))
    omega
  · omega
  · omega
  · have magnitudes : f.nearest (i.natAbs * twoTo f.scale) 1 ≤
        f.nearest (j.natAbs * twoTo f.scale) 1 :=
      Format.nearest_mono pos (Nat.mul_le_mul_right _ (by omega))
    omega

/-- An integer that is not too large for a format has a finite number nearest to it. -/
theorem ofInt_eq (pos : 0 < f.precision) {i : Int}
    (room : f.spacing (i.natAbs * twoTo f.scale) < f.top) :
    (ofInt f i).isFinite = true ∧ (ofInt f i).scaled = nearestInt f i := by
  obtain ⟨m, e, holds, rounded, magnitude⟩ :=
    exists_round pos (n := i.natAbs * twoTo f.scale) (d := 1) (by simpa using room) (decide (i < 0))
  have same : ofInt f i = .finite (decide (i < 0)) m e holds := rounded
  rw [same]
  refine ⟨rfl, ?_⟩
  simp only [scaled, isNegative, Binary.magnitude, magnitude, nearestInt, decide_eq_true_eq]

theorem compare_of_isFinite (hx : x.isFinite = true) (hy : y.isFinite = true) :
    x.compare y = Ord.compare x.scaled y.scaled := by
  cases x with
  | finite =>
    cases y with
    | finite => rfl
    | nan => cases hy
    | infinite => cases hy
  | nan => cases hx
  | infinite => cases hx

end Binary

namespace Value

theorem spacing_lt_top (n : Int64) :
    Format.double.spacing (n.toInt.natAbs * twoTo Format.double.scale) < Format.double.top := by
  have low := n.le_toInt
  have high := n.toInt_lt
  have size : n.toInt.natAbs ≤ twoTo 63 := by
    have bound : twoTo 63 = 9223372036854775808 := by rfl
    omega
  have bound : Format.double.spacing (n.toInt.natAbs * twoTo Format.double.scale) ≤
      Format.double.spacing (twoTo 63 * twoTo Format.double.scale) :=
    Format.spacing_mono (Nat.mul_le_mul_right _ size)
  refine bound.trans_lt ?_
  decide +kernel

theorem ofInt64_eq (n : Int64) :
    (ofInt64 n).isFinite = true ∧ (ofInt64 n).scaled = Binary.nearestInt .double n.toInt :=
  Binary.ofInt_eq (by decide) (spacing_lt_top n)

theorem ofInt64_mono {m n : Int64} (h : m.toInt ≤ n.toInt) :
    (ofInt64 m).compare (ofInt64 n) ≠ .gt := by
  obtain ⟨hm, sm⟩ := ofInt64_eq m
  obtain ⟨hn, sn⟩ := ofInt64_eq n
  rw [Binary.compare_of_isFinite hm hn, sm, sn, Ne, Int.compare_eq_gt, not_lt]
  exact Binary.nearestInt_mono (by decide) h

end Value

end EntityMapping
