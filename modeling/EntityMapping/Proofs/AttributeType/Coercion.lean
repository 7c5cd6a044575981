import EntityMapping.AttributeType.Coercion

/-!
Integers and options that are read back. An integer that a narrower or an unsigned type has written
is in the range of the type, and an option that is there is read as what it holds.
-/

namespace EntityMapping.AttributeType

theorem unsigned_eq_ok {type : String} {n : Nat} {v : Value} (h : unsigned type n = .ok v) :
    (n : Int) ≤ Int64.maxValue.toInt ∧ v = .integer (Int64.ofNat n) := by
  rw [unsigned] at h
  split at h
  · rename_i fits
    cases h
    exact ⟨fits, rfl⟩
  · cases h

theorem toInt_ofNat {n : Nat} (fits : (n : Int) ≤ Int64.maxValue.toInt) :
    (Int64.ofNat n).toInt = n := by
  have bound : Int64.maxValue.toInt = 2 ^ 63 - 1 := by decide
  rw [bound] at fits
  exact Int64.toInt_ofNat_of_lt (by omega)

theorem narrow_ofNat {n : Nat} {high : Int} {target : String}
    (fits : (n : Int) ≤ Int64.maxValue.toInt) (below : (n : Int) ≤ high) :
    narrow (.integer (Int64.ofNat n)) 0 high target = .ok n := by
  rw [narrow, int64OfValue]
  show (if _ then _ else _) = _
  rw [toInt_ofNat fits, if_pos ⟨Int.natCast_nonneg n, below⟩]

/-- A value that is read as what was written stays as it is. -/
theorem coerce_of_ofValue {t : AttributeType} {x : t.Carrier} {v : Value}
    (written : t.toValue x = .ok v) (read : t.ofValue v = .ok x) : t.coerce v = .ok v := by
  rw [coerce, read]
  exact written

theorem ofValue_int32 (n : Int32) : AttributeType.int32.ofValue (.integer n.toInt64) = .ok n := by
  have reads : narrow (.integer n.toInt64) Int32.minValue.toInt Int32.maxValue.toInt
      AttributeType.int32.name = .ok n.toInt := by
    rw [narrow, int64OfValue]
    show (if _ then _ else _) = _
    rw [Int32.toInt_toInt64, if_pos ⟨n.minValue_le_toInt, n.toInt_le⟩]
  show (narrow ..).map Int32.ofInt = _
  rw [reads]
  exact congrArg Except.ok n.ofInt_toInt

theorem ofValue_nat32 {n : UInt32} (fits : (n.toNat : Int) ≤ Int64.maxValue.toInt) :
    AttributeType.nat32.ofValue (.integer (Int64.ofNat n.toNat)) = .ok n := by
  have below : (n.toNat : Int) ≤ UInt32.size - 1 := by
    have := n.toNat_lt
    rw [UInt32.size]
    omega
  show (narrow ..).map (fun n => UInt32.ofNat n.toNat) = _
  rw [narrow_ofNat fits below]
  exact congrArg Except.ok UInt32.ofNat_toNat

theorem map_narrow_nat64 {n : UInt64} {target : String}
    (fits : (n.toNat : Int) ≤ Int64.maxValue.toInt) :
    (narrow (.integer (Int64.ofNat n.toNat)) 0 Int64.maxValue.toInt target).map
      (fun n => UInt64.ofNat n.toNat) = .ok n := by
  rw [narrow_ofNat fits fits]
  exact congrArg Except.ok UInt64.ofNat_toNat

theorem ofValue_option {t : AttributeType} {v : Value} (notNull : v ≠ .null) :
    AttributeType.ofValue (.option t) v = (t.ofValue v).map some := by
  cases v <;> first | rfl | exact absurd rfl notNull

end EntityMapping.AttributeType
