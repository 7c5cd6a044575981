import EntityMapping.Proofs.Number.Rounding
import Mathlib.Tactic.Ring

/-!
Rounding what a format holds changes nothing. A magnitude with few enough digits is its own nearest
one, and a magnitude that a format holds is rounded to the very pair of significand and exponent
that it has there. So a number that is taken to a wider format and back is the number again.
-/

namespace EntityMapping

theorem roundHalfEven_mul {d : Nat} (pos : 0 < d) (m : Nat) : roundHalfEven (m * d) d = m := by
  simp only [roundHalfEven, Nat.mul_div_cancel _ pos, Nat.mul_mod_left]
  split_ifs <;> omega

namespace Format

variable {f : Format} {m e q d : Nat}

/-- A magnitude with few enough digits lies on the grid around it. -/
theorem spacing_mul_twoTo_le (short : m < twoTo f.precision) (e : Nat) :
    f.spacing (m * twoTo e) ≤ e := by
  by_cases least : m * twoTo e < twoTo f.precision
  · rw [spacing_of_short least]
    exact Nat.zero_le e
  · have nonzero : m * twoTo e ≠ 0 := by
      have pos := twoTo_pos f.precision
      omega
    have digits : (m * twoTo e).log2 < f.precision + e := by
      rw [Nat.log2_lt nonzero]
      show _ < twoTo (f.precision + e)
      rw [twoTo_add]
      exact Nat.mul_lt_mul_of_pos_right short (twoTo_pos e)
    rw [spacing_of_long least]
    omega

theorem nearest_of_dvd (pos : 0 < d) (h : twoTo (f.spacing q) ∣ q) : f.nearest (q * d) d = q := by
  obtain ⟨k, parts⟩ := h
  simp only [nearest, Nat.mul_div_cancel _ pos]
  have onGrid : q * d = k * (d * twoTo (f.spacing q)) := by
    conv_lhs => rw [parts]
    ring
  rw [onGrid, roundHalfEven_mul (Nat.mul_pos pos (twoTo_pos _)), Nat.mul_comm, ← parts]

theorem nearest_mul_twoTo (pos : 0 < d) (short : m < twoTo f.precision) (e : Nat) :
    f.nearest (m * twoTo e * d) d = m * twoTo e :=
  nearest_of_dvd pos
    ((Nat.pow_dvd_pow 2 (spacing_mul_twoTo_le short e)).trans (Nat.dvd_mul_left ..))

/-- The grid around a magnitude that a format holds is that of its exponent. -/
theorem Holds.spacing_eq (h : f.Holds m e) (pos : 0 < f.precision) :
    f.spacing (m * twoTo e) = e := by
  rcases Nat.eq_zero_or_pos e with rfl | above
  · exact spacing_of_short (by simpa [twoTo] using h.lt)
  · have full : twoTo (f.precision - 1) ≤ m := h.full.resolve_left (by omega)
    have low : twoTo (f.precision - 1 + e) ≤ m * twoTo e := by
      rw [twoTo_add]
      exact Nat.mul_le_mul_right _ full
    have long : ¬ m * twoTo e < twoTo f.precision := by
      have reach : twoTo f.precision ≤ twoTo (f.precision - 1 + e) := twoTo_le (by omega)
      omega
    have nonzero : m * twoTo e ≠ 0 := by
      have pos := twoTo_pos f.precision
      omega
    have atLeast : f.precision - 1 + e ≤ (m * twoTo e).log2 := (Nat.le_log2 nonzero).2 low
    have atMost := spacing_mul_twoTo_le h.lt e
    rw [spacing_of_long long] at atMost ⊢
    omega

end Format

namespace Binary

variable {f g : Format} {m e d : Nat}

/-- A magnitude that a format holds is rounded to itself. -/
theorem round_of_holds (h : f.Holds m e) (precise : 0 < f.precision) (pos : 0 < d)
    (negative : Bool) :
    round f negative (m * twoTo e * d) d = .finite negative m e h := by
  have rounded : round f negative (m * twoTo e * d) d =
      make f negative (roundHalfEven (m * twoTo e * d)
        (d * twoTo (f.spacing (m * twoTo e * d / d)))) (f.spacing (m * twoTo e * d / d)) := rfl
  rw [rounded, Nat.mul_div_cancel _ pos, h.spacing_eq precise, Nat.mul_assoc,
    Nat.mul_comm (twoTo e) d, roundHalfEven_mul (Nat.mul_pos pos (twoTo_pos e))]
  simp only [make, if_neg h.lt.ne, dif_pos h]

/-- In a wider format with room there is a number of the same value. -/
theorem exists_convert (h : f.Holds m e) (precise : 0 < g.precision)
    (wider : f.precision ≤ g.precision) (finer : f.scale ≤ g.scale)
    (room : f.top + (g.scale - f.scale) < g.top) (negative : Bool) :
    ∃ m' e' holds, convert g (.finite negative m e h) = .finite negative m' e' holds ∧
      m' * twoTo e' = m * twoTo (e + (g.scale - f.scale)) := by
  have short : m < twoTo g.precision := h.lt.trans_le (twoTo_le wider)
  have units : m * twoTo e * twoTo g.scale =
      m * twoTo (e + (g.scale - f.scale)) * twoTo f.scale := by
    rw [Nat.mul_assoc, Nat.mul_assoc, ← twoTo_add, ← twoTo_add]
    congr 2
    omega
  have below : g.spacing (m * twoTo (e + (g.scale - f.scale)) * twoTo f.scale / twoTo f.scale) <
      g.top := by
    rw [Nat.mul_div_cancel _ (twoTo_pos _)]
    have grid := Format.spacing_mul_twoTo_le short (e + (g.scale - f.scale))
    have high := h.le
    omega
  obtain ⟨m', e', holds, rounded, magnitude⟩ := exists_round precise below negative
  refine ⟨m', e', holds, ?_, ?_⟩
  · rw [← rounded, ← units]
    rfl
  · rw [magnitude, Format.nearest_mul_twoTo (twoTo_pos _) short]

/-- A number survives a wider format with room. -/
theorem convert_convert (x : Binary f) (precise : 0 < f.precision)
    (wider : f.precision ≤ g.precision) (finer : f.scale ≤ g.scale)
    (room : f.top + (g.scale - f.scale) < g.top) : (x.convert g).convert f = x := by
  cases x with
  | nan => rfl
  | infinite negative => rfl
  | finite negative m e h =>
    obtain ⟨m', e', holds, widened, magnitude⟩ :=
      exists_convert h (precise.trans_le wider) wider finer room negative
    have units : m' * twoTo e' * twoTo f.scale = m * twoTo e * twoTo g.scale := by
      rw [magnitude, Nat.mul_assoc, Nat.mul_assoc, ← twoTo_add, ← twoTo_add]
      congr 2
      omega
    rw [widened]
    show round f negative (m' * twoTo e' * twoTo f.scale) (twoTo g.scale) = _
    rw [units, round_of_holds h precise (twoTo_pos _)]

end Binary

/-- A single-precision number survives double precision. -/
theorem Single.convert_convert (x : Single) : (x.convert .double).convert .single = x :=
  Binary.convert_convert x (by decide) (by decide) (by decide) (by decide)

end EntityMapping
