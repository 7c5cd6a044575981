import EntityMapping.Number.Numeral
import Mathlib.Data.List.Basic
import Mathlib.Data.List.Induction

/-!
Integers as they are spelled in decimal. A spelling is the digits of a magnitude behind any zeros,
with a sign if one likes. Exactly the spellings are read, each as the integer that it spells; what
an integer is printed as is one of its spellings.
-/

namespace EntityMapping.Numeral

variable {w : List Char} {n : Nat} {k : Int} {c : Char}

/-- A word spells an integer: its digits behind any zeros and an optional sign. -/
inductive Spells : List Char → Int → Prop where
  | bare (zeros n : Nat) : Spells (List.replicate zeros '0' ++ ofNat n) n
  | plus (zeros n : Nat) : Spells ('+' :: (List.replicate zeros '0' ++ ofNat n)) n
  | minus (zeros n : Nat) : Spells ('-' :: (List.replicate zeros '0' ++ ofNat n)) (-n)

theorem spells_ofInt (k : Int) : Spells (ofInt k) k := by
  cases k with
  | ofNat n => exact .bare 0 n
  | negSucc n => exact .minus 0 (n + 1)

/-! ### Magnitudes -/

theorem isDigit_of_mem {zeros : Nat} (mem : c ∈ List.replicate zeros '0' ++ ofNat n) :
    c.isDigit = true := by
  rcases List.mem_append.1 mem with zero | digit
  · rw [List.eq_of_mem_replicate zero]
    rfl
  · exact Nat.isDigit_of_mem_toDigits (by decide) (by decide) digit

theorem exists_digitChar (digit : c.isDigit = true) :
    ∃ d < 10, c = Nat.digitChar d ∧ c.toNat - '0'.toNat = d := by
  obtain ⟨low, high⟩ := Char.isDigit_iff_toNat.1 digit
  have low : 48 ≤ c.toNat := low
  have high : c.toNat ≤ 57 := high
  have small : c.toNat - 48 < 10 := by omega
  refine ⟨c.toNat - 48, small, Char.toNat_inj.1 ?_, rfl⟩
  rw [Nat.toNat_digitChar_of_lt_ten small]
  omega

/-- Digits that do not start with a zero are those of their number. -/
theorem ofNat_ofDigitChars (digits : ∀ c ∈ w, c.isDigit = true) (nonempty : w ≠ [])
    (lead : w.head? ≠ some '0') : ofNat (Nat.ofDigitChars 10 w 0) = w := by
  induction w using List.reverseRecOn with
  | nil => exact absurd rfl nonempty
  | append_singleton w c ih =>
    obtain ⟨d, small, rfl, value⟩ := exists_digitChar (digits c (by simp))
    rw [Nat.ofDigitChars_append, Nat.ofDigitChars_cons, Nat.ofDigitChars_nil, value]
    by_cases first : w = []
    · subst first
      rw [Nat.ofDigitChars_nil, Nat.mul_zero, Nat.zero_add]
      exact Nat.toDigits_of_lt_base small
    · rw [List.head?_append_of_ne_nil _ first] at lead
      have before := ih (fun c mem => digits c (List.mem_append_left _ mem)) first lead
      -- What stands before is not zero, or it would start with one.
      have positive : 0 < Nat.ofDigitChars 10 w 0 := by
        refine Nat.pos_of_ne_zero fun zero => lead ?_
        rw [← before, zero]
        rfl
      rw [ofNat, ← Nat.toDigits_append_toDigits (by decide) positive small,
        Nat.toDigits_of_lt_base small]
      exact congrArg (· ++ _) before

/-- Every run of digits is that of its number behind some zeros. -/
theorem exists_zeros (digits : ∀ c ∈ w, c.isDigit = true) (nonempty : w ≠ []) :
    ∃ zeros, w = List.replicate zeros '0' ++ ofNat (Nat.ofDigitChars 10 w 0) := by
  induction w with
  | nil => exact absurd rfl nonempty
  | cons c w ih =>
    by_cases zero : c = '0'
    · subst zero
      by_cases alone : w = []
      · subst alone
        exact ⟨0, rfl⟩
      · obtain ⟨zeros, rest⟩ := ih (fun c mem => digits c (List.mem_cons_of_mem _ mem)) alone
        exact ⟨zeros + 1, congrArg ('0' :: ·) rest⟩
    · exact ⟨0, (ofNat_ofDigitChars digits nonempty (by simpa using zero)).symm⟩

theorem nat?_eq_some_iff : nat? w = some n ↔ ∃ zeros, w = List.replicate zeros '0' ++ ofNat n := by
  rw [nat?]
  constructor
  · intro read
    split at read
    · rename_i word
      cases read
      exact exists_zeros (List.all_eq_true.1 word.2) word.1
    · cases read
  · rintro ⟨zeros, rfl⟩
    have digits : (List.replicate zeros '0' ++ ofNat n).all Char.isDigit = true :=
      List.all_eq_true.2 fun c mem => isDigit_of_mem mem
    rw [if_pos ⟨List.append_ne_nil_of_right_ne_nil _ Nat.toDigits_ne_nil, digits⟩,
      Nat.ofDigitChars_append, Nat.ofDigitChars_replicate_zero, Nat.mul_zero, ofNat,
      Nat.ofDigitChars_ten_toDigits]

/-! ### Signs -/

theorem int?_plus (w : List Char) : int? ('+' :: w) = (nat? w).map fun n : Nat => (n : Int) := rfl

theorem int?_minus (w : List Char) :
    int? ('-' :: w) = (nat? w).map fun n : Nat => -(n : Int) := by
  rw [int?]
  cases nat? w <;> rfl

theorem int?_of_unsigned (noPlus : w.head? ≠ some '+') (noMinus : w.head? ≠ some '-') :
    int? w = (nat? w).map fun n : Nat => (n : Int) := by
  unfold int?
  split
  · exact absurd rfl noPlus
  · exact absurd rfl noMinus
  · rfl

theorem head?_ne_of_isDigit {zeros : Nat} (sign : c.isDigit = false) :
    (List.replicate zeros '0' ++ ofNat n).head? ≠ some c := by
  intro first
  rw [isDigit_of_mem (List.mem_of_head? first)] at sign
  cases sign

theorem map_nat?_eq_some_iff {g : Nat → Int} :
    (nat? w).map g = some k ↔ ∃ zeros n, w = List.replicate zeros '0' ++ ofNat n ∧ g n = k := by
  rw [Option.map_eq_some_iff]
  constructor
  · rintro ⟨n, magnitude, rfl⟩
    obtain ⟨zeros, rfl⟩ := nat?_eq_some_iff.1 magnitude
    exact ⟨zeros, n, rfl, rfl⟩
  · rintro ⟨zeros, n, rfl, rfl⟩
    exact ⟨n, nat?_eq_some_iff.2 ⟨zeros, rfl⟩, rfl⟩

/-- Exactly the spellings of an integer are read as it. -/
theorem int?_eq_some_iff : int? w = some k ↔ Spells w k := by
  constructor
  · intro read
    by_cases plus : w.head? = some '+'
    · obtain ⟨w, rfl⟩ := List.head?_eq_some_iff.1 plus
      rw [int?_plus, map_nat?_eq_some_iff] at read
      obtain ⟨zeros, n, rfl, rfl⟩ := read
      exact .plus zeros n
    by_cases minus : w.head? = some '-'
    · obtain ⟨w, rfl⟩ := List.head?_eq_some_iff.1 minus
      rw [int?_minus, map_nat?_eq_some_iff] at read
      obtain ⟨zeros, n, rfl, rfl⟩ := read
      exact .minus zeros n
    · rw [int?_of_unsigned plus minus, map_nat?_eq_some_iff] at read
      obtain ⟨zeros, n, rfl, rfl⟩ := read
      exact .bare zeros n
  · intro spelled
    cases spelled with
    | bare zeros n =>
      rw [int?_of_unsigned (head?_ne_of_isDigit rfl) (head?_ne_of_isDigit rfl),
        map_nat?_eq_some_iff]
      exact ⟨zeros, n, rfl, rfl⟩
    | plus zeros n =>
      rw [int?_plus, map_nat?_eq_some_iff]
      exact ⟨zeros, n, rfl, rfl⟩
    | minus zeros n =>
      rw [int?_minus, map_nat?_eq_some_iff]
      exact ⟨zeros, n, rfl, rfl⟩

theorem toInt_ofInt_of_fits (low : Int64.minValue.toInt ≤ k) (high : k ≤ Int64.maxValue.toInt) :
    (Int64.ofInt k).toInt = k := Int64.toInt_ofInt_of_le low (Int.lt_add_one_of_le high)

theorem fit?_eq_some_iff {m : Int64} : fit? k = some m ↔ m.toInt = k := by
  rw [fit?]
  split
  · rename_i fits
    rw [Option.some.injEq, ← Int64.toInt_inj, toInt_ofInt_of_fits fits.1 fits.2, eq_comm]
  · rename_i outside
    refine ⟨nofun, ?_⟩
    rintro rfl
    exact absurd ⟨m.minValue_le_toInt, m.toInt_le⟩ outside

theorem int64?_eq_some_iff {m : Int64} : int64? w = some m ↔ Spells w m.toInt := by
  rw [int64?, Option.bind_eq_some_iff]
  constructor
  · rintro ⟨k, read, fits⟩
    rw [fit?_eq_some_iff.1 fits]
    exact int?_eq_some_iff.1 read
  · intro spelled
    exact ⟨m.toInt, int?_eq_some_iff.2 spelled, fit?_eq_some_iff.2 rfl⟩

end EntityMapping.Numeral
