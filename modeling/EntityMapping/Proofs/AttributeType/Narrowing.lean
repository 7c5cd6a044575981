import EntityMapping.Proofs.AttributeType.Coercion
import EntityMapping.Proofs.FirstFailure
import EntityMapping.Proofs.Number.Truncation

/-!
Doubles as attributes of whole numbers. Every type of whole numbers reads a value as an integer of
64 bits first and then asks for its own bounds, so what is known of that integer holds of all of
them. A double that is read comes back as itself without its fraction, with one exception: `2 ^ 63`
is let in by a bound that is rounded up, and becomes the greatest integer.
-/

namespace EntityMapping.AttributeType

variable {t : AttributeType} {v w : Value} {low high : Int} {target : String}

/-- The least and the greatest integer that a type of whole numbers stores. -/
def integerBounds? : AttributeType → Option (Int × Int)
  | .int64 => some (Int64.minValue.toInt, Int64.maxValue.toInt)
  | .int32 => some (Int32.minValue.toInt, Int32.maxValue.toInt)
  | .nat32 => some (0, UInt32.size - 1)
  | .nat64 | .word => some (0, Int64.maxValue.toInt)
  | _ => none

/-! ### Any value -/

/-- Reading a value as whole numbers within bounds and storing it again. -/
def StoresInteger (t : AttributeType) (low high : Int) : Prop :=
  ∀ v w, t.coerce v = .ok w ↔
    ∃ n, int64OfValue v = .ok n ∧ low ≤ n.toInt ∧ n.toInt ≤ high ∧ w = .integer n

theorem narrow_eq_ok {i : Int} :
    narrow v low high target = .ok i ↔
      ∃ n, int64OfValue v = .ok n ∧ low ≤ n.toInt ∧ n.toInt ≤ high ∧ i = n.toInt := by
  rw [narrow, bind_eq_ok_iff]
  refine exists_congr fun n => and_congr_right fun _ => ?_
  by_cases within : low ≤ n.toInt ∧ n.toInt ≤ high
  · rw [if_pos within, Except.ok.injEq]
    simp only [within, true_and, eq_comm]
  · rw [if_neg within, ← and_assoc]
    simp only [within, mismatch, reduceCtorEq, false_and]

/-- A type that narrows what it reads stores the integer that it has read. -/
theorem storesInteger_of_narrow {store : Int → t.Carrier}
    (reads : ∀ v, t.ofValue v = (narrow v low high target).map store)
    (writes : ∀ n : Int64, low ≤ n.toInt → n.toInt ≤ high →
      t.toValue (store n.toInt) = .ok (.integer n)) : t.StoresInteger low high := by
  intro v w
  rw [coerce, reads, bind_eq_ok_iff]
  simp only [map_eq_ok_iff, narrow_eq_ok]
  constructor
  · rintro ⟨_, ⟨_, ⟨n, read, above, below, rfl⟩, rfl⟩, written⟩
    rw [writes n above below] at written
    exact ⟨n, read, above, below, (Except.ok.inj written).symm⟩
  · rintro ⟨n, read, above, below, rfl⟩
    exact ⟨_, ⟨_, ⟨n, read, above, below, rfl⟩, rfl⟩, writes n above below⟩

theorem unsigned_of_toInt {type : String} {n : Int64} {k : Nat} (same : (k : Int) = n.toInt) :
    unsigned type k = .ok (.integer n) := by
  have fits : (k : Int) ≤ Int64.maxValue.toInt := same ▸ n.toInt_le
  rw [unsigned, if_pos fits]
  exact congrArg (Except.ok ∘ Value.integer) (Int64.toInt_inj.1 ((toInt_ofNat fits).trans same))

theorem toNat_ofNat_toInt {n : Int64} (above : 0 ≤ n.toInt) :
    ((UInt64.ofNat n.toInt.toNat).toNat : Int) = n.toInt := by
  have room : n.toInt.toNat < UInt64.size := by
    have := n.toInt_lt
    rw [UInt64.size]
    omega
  rw [UInt64.toNat_ofNat_of_lt' room, Int.toNat_of_nonneg above]

/-- Every type of whole numbers stores the integers within its bounds. -/
theorem storesInteger (bounds : t.integerBounds? = some (low, high)) :
    t.StoresInteger low high := by
  cases t with
  | int64 =>
    cases bounds
    intro v w
    show (int64OfValue v >>= fun n => Except.ok (Value.integer n)) = _ ↔ _
    rw [bind_eq_ok_iff]
    refine exists_congr fun n => and_congr_right fun _ => ?_
    rw [Except.ok.injEq]
    simp only [n.minValue_le_toInt, n.toInt_le, true_and, eq_comm]
  | int32 =>
    cases bounds
    refine storesInteger_of_narrow (fun v => rfl) fun n above below => ?_
    show Except.ok (Value.integer (Int32.ofInt n.toInt).toInt64) = _
    have greatest : Int32.maxValue.toInt = 2 ^ 31 - 1 := by decide
    have same : (Int32.ofInt n.toInt).toInt64.toInt = n.toInt := by
      rw [Int32.toInt_toInt64, Int32.toInt_ofInt_of_le above (by omega)]
    rw [Int64.toInt_inj.1 same]
  | nat32 =>
    cases bounds
    refine storesInteger_of_narrow (fun v => rfl) fun n above below => unsigned_of_toInt ?_
    show ((UInt32.ofNat n.toInt.toNat).toNat : Int) = _
    have room : n.toInt.toNat < UInt32.size := by omega
    rw [UInt32.toNat_ofNat_of_lt' room, Int.toNat_of_nonneg above]
  | nat64 | word =>
    cases bounds
    refine storesInteger_of_narrow (fun v => rfl) fun n above below => unsigned_of_toInt ?_
    exact toNat_ofNat_toInt above
  | _ => cases bounds

/-! ### Doubles -/

theorem int64OfValue_float {x : Double} {n : Int64} :
    int64OfValue (.float x) = .ok n ↔ Value.Narrows x n := by
  rw [← Value.truncated?_eq_some_iff, int64OfValue]
  cases Value.truncated? x <;> simp [orMismatch, mismatch]

theorem coerce_float (bounds : t.integerBounds? = some (low, high)) (x : Double) :
    t.coerce (.float x) = .ok w ↔
      ∃ n, Value.Narrows x n ∧ low ≤ n.toInt ∧ n.toInt ≤ high ∧ w = .integer n := by
  rw [storesInteger bounds]
  exact exists_congr fun n => and_congr_left' int64OfValue_float

/-- A double is taken for an integer, and stored by a type of whole numbers, exactly as the integer
that it is narrowed to, if the type has that one. -/
theorem doubles_are_narrowed (bounds : t.integerBounds? = some (low, high)) (x : Double) :
    (∀ n, (Value.float x).asInt64? = some n ↔ Value.Narrows x n) ∧
      ∀ w, t.coerce (.float x) = .ok w ↔
        ∃ n, Value.Narrows x n ∧ low ≤ n.toInt ∧ n.toInt ≤ high ∧ w = .integer n :=
  ⟨fun _ => Value.truncated?_eq_some_iff, fun _ => coerce_float bounds x⟩

/-- A quarter below `2 ^ 32`. -/
def belowWord : Double := .finite false 9007199254216704 1053 (by decide)

theorem doubles_are_narrowed_belowWord :
    integerBounds? .nat32 = some (0, 4294967295) ∧
      AttributeType.nat32.coerce (.float belowWord) = .ok (.integer 4294967295) := by
  have exact : towardZero belowWord.toRat = 4294967295 := by
    have truncated : belowWord.truncate? = some 4294967295 := by decide +kernel
    rw [Binary.truncate?_eq rfl] at truncated
    exact Option.some.inj truncated
  refine ⟨rfl, ((doubles_are_narrowed (t := .nat32) rfl belowWord).2 _).2 ?_⟩
  exact ⟨4294967295, .truncated rfl exact.symm, by decide, by decide, rfl⟩

/-- The least double beyond the integers of 64 bits. -/
def pastIntegers : Double := .finite false 4503599627370496 1085 (by decide)

/-- The least double beyond the integers of 64 bits is taken for the greatest one of these, by the
type of that width and by the unsigned ones, though it is `2 ^ 63` without its fraction. -/
theorem past_integers_become_greatest :
    towardZero pastIntegers.toRat = 2 ^ 63 ∧ Int64.maxValue.toInt = 2 ^ 63 - 1 ∧
      (Value.float pastIntegers).asInt64? = some Int64.maxValue ∧
      AttributeType.int64.coerce (.float pastIntegers) = .ok (.integer Int64.maxValue) ∧
      AttributeType.nat64.coerce (.float pastIntegers) = .ok (.integer Int64.maxValue) ∧
      AttributeType.word.coerce (.float pastIntegers) = .ok (.integer Int64.maxValue) := by
  have exact : towardZero pastIntegers.toRat = 2 ^ 63 := by
    have truncated : pastIntegers.truncate? = some (2 ^ 63) := by decide +kernel
    rw [Binary.truncate?_eq rfl] at truncated
    exact Option.some.inj truncated
  have narrowed : Value.truncated? pastIntegers = some Int64.maxValue := by decide +kernel
  have read : int64OfValue (.float pastIntegers) = .ok Int64.maxValue :=
    int64OfValue_float.2 (Value.truncated?_eq_some_iff.1 narrowed)
  refine ⟨exact, by decide, narrowed, ?_, ?_, ?_⟩ <;>
    exact (storesInteger rfl _ _).2 ⟨_, read, by decide, by decide, rfl⟩

end EntityMapping.AttributeType
