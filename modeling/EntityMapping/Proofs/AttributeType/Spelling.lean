import EntityMapping.Proofs.AttributeType.Storage
import EntityMapping.Proofs.Number.Spelling
import Mathlib.Data.List.TakeWhile
import Mathlib.Data.String.Basic

/-!
Texts that spell integers and truth values. A text spells an integer in decimal and a truth value by
its word in any case, and white space around it does not count. The types of integers, of whatever
width, and the type of truth values take a text for a value exactly if it spells the value; what the
native form of a value is displayed as is one of these texts.
-/

namespace EntityMapping

/-! ### White space -/

namespace Text

variable {before w cs : List Char} {c : Char}

/-- A text is a word with white space around it. -/
def Pads (w cs : List Char) : Prop :=
  ∃ before after, (∀ c ∈ before ++ after, isBlank c = true) ∧ cs = before ++ w ++ after

theorem Pads.refl (w : List Char) : Pads w w := ⟨[], [], nofun, (List.append_nil w).symm⟩

theorem trimFront_of_blank (blank : ∀ c ∈ before, isBlank c = true) :
    trimFront (before ++ cs) = trimFront cs := List.dropWhile_append_of_pos blank

theorem trimFront_of_solid (solid : isBlank c = false) : trimFront (c :: cs) = c :: cs :=
  List.dropWhile_cons_of_neg (by simp [solid])

theorem exists_trimFront (cs : List Char) :
    ∃ before, (∀ c ∈ before, isBlank c = true) ∧ cs = before ++ trimFront cs :=
  ⟨cs.takeWhile isBlank, fun _ mem => List.mem_takeWhile_imp mem,
    List.takeWhile_append_dropWhile.symm⟩

theorem pads_trim (cs : List Char) : Pads (trim cs) cs := by
  obtain ⟨before, blankBefore, front⟩ := exists_trimFront cs
  obtain ⟨after, blankAfter, back⟩ := exists_trimFront (trimFront cs).reverse
  refine ⟨before, after.reverse, List.forall_mem_append.2 ⟨blankBefore, fun c mem =>
    blankAfter c (List.mem_reverse.1 mem)⟩, ?_⟩
  rw [trim, List.append_assoc, ← List.reverse_append, ← back, List.reverse_reverse]
  exact front

/-- Trimming leaves a word without white space. -/
theorem trim_of_pads (solid : ∀ c ∈ w, isBlank c = false) (pads : Pads w cs) : trim cs = w := by
  obtain ⟨before, after, blank, rfl⟩ := pads
  obtain ⟨blankBefore, blankAfter⟩ := List.forall_mem_append.1 blank
  rw [trim, List.append_assoc, trimFront_of_blank blankBefore]
  cases w with
  | nil =>
    have nothing : trimFront ([] ++ after) = [] := List.dropWhile_eq_nil_iff.2 blankAfter
    rw [nothing]
    rfl
  | cons c w =>
    have behind : trimFront (after.reverse ++ (c :: w).reverse) = (c :: w).reverse := by
      rw [trimFront_of_blank fun d mem => blankAfter d (List.mem_reverse.1 mem)]
      cases reversed : (c :: w).reverse with
      | nil => rfl
      | cons d ds =>
        have last : d ∈ (c :: w).reverse := reversed ▸ List.mem_cons_self ..
        exact trimFront_of_solid (solid d (List.mem_reverse.1 last))
    rw [List.cons_append, trimFront_of_solid (solid c (List.mem_cons_self ..)), ← List.cons_append,
      List.reverse_append, behind, List.reverse_reverse]

theorem isBlank_of_isDigit (digit : c.isDigit = true) : isBlank c = false := by
  have range : 48 ≤ c.toNat ∧ c.toNat ≤ 57 := Char.isDigit_iff_toNat.1 digit
  simp [isBlank, inRanges]
  omega

theorem toLower_of_isBlank (blank : isBlank c = true) : c.toLower = c := by
  have range : ¬ (65 ≤ c.toNat ∧ c.toNat ≤ 90) := by
    simp [isBlank, inRanges] at blank
    omega
  have small : ¬ (c.val ≥ 'A'.val ∧ c.val ≤ 'Z'.val) := by
    simpa [UInt32.le_iff_toNat_le] using range
  exact dif_neg small

end Text

theorem Numeral.Spells.solid {w : List Char} {k : Int} (spelled : Numeral.Spells w k) :
    ∀ c ∈ w, Text.isBlank c = false := by
  have digits {zeros n : Nat} : ∀ c ∈ List.replicate zeros '0' ++ Numeral.ofNat n,
      Text.isBlank c = false :=
    fun c mem => Text.isBlank_of_isDigit (Numeral.isDigit_of_mem mem)
  cases spelled with
  | bare zeros n => exact digits
  | plus zeros n => exact List.forall_mem_cons.2 ⟨rfl, digits⟩
  | minus zeros n => exact List.forall_mem_cons.2 ⟨rfl, digits⟩

namespace AttributeType

variable {t : AttributeType} {x : t.Carrier} {v : Value} {s : String} {w : List Char}

/-! ### Spelled values -/

def isSpelled : AttributeType → Bool
  | .int64 | .int32 | .nat32 | .nat64 | .word | .bool => true
  | _ => false

def boolWord (b : Bool) : String := if b then "true" else "false"

/-- A word spells a value: an integer in decimal, a truth value in any case. -/
def Spells (w : List Char) : (t : AttributeType) → t.Carrier → Prop
  | .int64, (n : Int64) => Numeral.Spells w n.toInt
  | .int32, (n : Int32) => Numeral.Spells w n.toInt
  | .nat32, (n : UInt32) => Numeral.Spells w n.toNat
  | .nat64, (n : UInt64) => Numeral.Spells w n.toNat
  | .word, (n : UInt64) => Numeral.Spells w n.toNat
  | .bool, (b : Bool) => w.map Char.toLower = (boolWord b).toList
  | _, _ => False

/-- A text spells a value, with any white space around the word. -/
def SpelledBy (t : AttributeType) (x : t.Carrier) (s : String) : Prop :=
  ∃ w, Spells w t x ∧ Text.Pads w s.toList

/-- A word that spells a value has no white space. -/
theorem Spells.solid (spelled : Spells w t x) : ∀ c ∈ w, Text.isBlank c = false := by
  cases t with
  | int64 | int32 | nat32 | nat64 | word => exact Numeral.Spells.solid spelled
  | bool =>
    intro c mem
    by_contra blank
    have blank : Text.isBlank c = true := by simpa using blank
    have letter : c ∈ (boolWord x).toList := by
      have spelled : w.map Char.toLower = (boolWord x).toList := spelled
      rw [← spelled, ← Text.toLower_of_isBlank blank]
      exact List.mem_map_of_mem mem
    have solid : ∀ c ∈ (boolWord x).toList, Text.isBlank c = false := by
      cases x <;> simp [boolWord, Text.isBlank, Text.inRanges]
    rw [solid c letter] at blank
    cases blank
  | _ => exact spelled.elim

theorem spelledBy_iff : t.SpelledBy x s ↔ Spells (Text.trim s.toList) t x := by
  constructor
  · rintro ⟨w, spelled, pads⟩
    rwa [Text.trim_of_pads spelled.solid pads]
  · exact fun spelled => ⟨_, spelled, Text.pads_trim _⟩

/-! ### Reading texts -/

theorem orMismatch_eq_ok_iff {α : Type} {target : String} {answer : Option α} {a : α} :
    orMismatch v target answer = .ok a ↔ answer = some a := by
  cases answer <;> simp [orMismatch, mismatch]

theorem int64OfValue_text_eq_ok_iff {n : Int64} :
    int64OfValue (.text s) = .ok n ↔ Numeral.Spells (Text.trim s.toList) n.toInt :=
  orMismatch_eq_ok_iff.trans Numeral.int64?_eq_some_iff

/-- A narrower type reads the integers in its range from the texts that spell them. -/
theorem narrow_text_eq_ok_iff {low high k : Int} {target : String}
    (above : Int64.minValue.toInt ≤ low) (below : high ≤ Int64.maxValue.toInt) :
    narrow (.text s) low high target = .ok k ↔
      Numeral.Spells (Text.trim s.toList) k ∧ low ≤ k ∧ k ≤ high := by
  rw [narrow, bind_eq_ok_iff]
  constructor
  · rintro ⟨n, read, inside⟩
    split at inside
    · rename_i range
      cases inside
      exact ⟨int64OfValue_text_eq_ok_iff.1 read, range⟩
    · cases inside
  · rintro ⟨spelled, range⟩
    have exact : (Int64.ofInt k).toInt = k :=
      Numeral.toInt_ofInt_of_fits (above.trans range.1) (range.2.trans below)
    refine ⟨Int64.ofInt k, int64OfValue_text_eq_ok_iff.2 (exact.symm ▸ spelled), ?_⟩
    rw [exact, if_pos range]

theorem ofValue_text_int32 {n : Int32} :
    AttributeType.int32.ofValue (.text s) = .ok n ↔
      Spells (Text.trim s.toList) .int32 n := by
  show (narrow ..).map Int32.ofInt = .ok n ↔ Numeral.Spells (Text.trim s.toList) n.toInt
  rw [map_eq_ok_iff]
  constructor
  · rintro ⟨k, read, rfl⟩
    obtain ⟨spelled, low, high⟩ := (narrow_text_eq_ok_iff (by decide) (by decide)).1 read
    rwa [Int32.toInt_ofInt_of_le low (Int.lt_add_one_of_le high)]
  · intro spelled
    exact ⟨n.toInt, (narrow_text_eq_ok_iff (by decide) (by decide)).2
      ⟨spelled, n.minValue_le_toInt, n.toInt_le⟩, n.ofInt_toInt⟩

/-- Both unsigned types of 64 bits read the same texts. -/
theorem map_narrow_text_nat64 {n : UInt64} {target : String}
    (fits : (n.toNat : Int) ≤ Int64.maxValue.toInt) :
    (narrow (.text s) 0 Int64.maxValue.toInt target).map (fun n => UInt64.ofNat n.toNat) = .ok n ↔
      Numeral.Spells (Text.trim s.toList) n.toNat := by
  rw [map_eq_ok_iff]
  constructor
  · rintro ⟨k, read, rfl⟩
    obtain ⟨spelled, low, high⟩ := (narrow_text_eq_ok_iff (by decide) le_rfl).1 read
    have small : k.toNat < 2 ^ 64 := by
      have bound : Int64.maxValue.toInt = 2 ^ 63 - 1 := by decide
      omega
    rwa [UInt64.toNat_ofNat_of_lt' small, Int.toNat_of_nonneg low]
  · intro spelled
    exact ⟨n.toNat, (narrow_text_eq_ok_iff (by decide) le_rfl).2
      ⟨spelled, Int.natCast_nonneg _, fits⟩, UInt64.ofNat_toNat⟩

theorem ofValue_text_nat32 {n : UInt32} :
    AttributeType.nat32.ofValue (.text s) = .ok n ↔
      Spells (Text.trim s.toList) .nat32 n := by
  show (narrow ..).map (fun n => UInt32.ofNat n.toNat) = .ok n ↔
    Numeral.Spells (Text.trim s.toList) n.toNat
  rw [map_eq_ok_iff]
  constructor
  · rintro ⟨k, read, rfl⟩
    obtain ⟨spelled, low, high⟩ := (narrow_text_eq_ok_iff (by decide) (by decide)).1 read
    have small : k.toNat < 2 ^ 32 := by
      rw [UInt32.size] at high
      omega
    rwa [UInt32.toNat_ofNat_of_lt' small, Int.toNat_of_nonneg low]
  · intro spelled
    have high : (n.toNat : Int) ≤ UInt32.size - 1 := by
      have := n.toNat_lt
      rw [UInt32.size]
      omega
    exact ⟨n.toNat, (narrow_text_eq_ok_iff (by decide) (by decide)).2
      ⟨spelled, Int.natCast_nonneg _, high⟩, UInt32.ofNat_toNat⟩

/-- Of the two words each is read as the truth value that it is for. -/
theorem boolOfText?_eq_some_iff {b : Bool} :
    boolOfText? s = some b ↔ Spells (Text.trim s.toList) .bool b := by
  have word (b : Bool) : Spells (Text.trim s.toList) .bool b ↔
      String.ofList ((Text.trim s.toList).map Char.toLower) = boolWord b := String.ofList_eq.symm
  rw [word, boolOfText?]
  split
  · rename_i same
    cases b <;> simp [same, boolWord]
  · rename_i noTrue
    split
    · rename_i same
      cases b <;> simp [same, boolWord]
    · rename_i noFalse
      cases b <;> simp [noTrue, noFalse, boolWord]

/-- Where a value can be written, exactly the texts that spell it are read as it. -/
theorem ofValue_text_eq_ok_iff (spelled : t.isSpelled = true) (written : t.toValue x = .ok v) :
    t.ofValue (.text s) = .ok x ↔ t.SpelledBy x s := by
  rw [spelledBy_iff]
  cases t with
  | int64 => exact int64OfValue_text_eq_ok_iff
  | int32 => exact ofValue_text_int32
  | nat32 => exact ofValue_text_nat32
  | nat64 | word => exact map_narrow_text_nat64 (unsigned_eq_ok written).1
  | bool => exact orMismatch_eq_ok_iff.trans boolOfText?_eq_some_iff
  | _ => cases spelled

/-! ### Coercion -/

theorem single_of_isSpelled (spelled : t.isSpelled = true) :
    t.shape = .scalar ∧ t.nullable = false := by
  cases t <;> first | exact ⟨rfl, rfl⟩ | cases spelled

theorem ofValue_written (spelled : t.isSpelled = true) (written : t.toValue x = .ok v) :
    v ≠ .null ∧ t.ofValue v = .ok x := by
  obtain ⟨scalar, notNullable⟩ := single_of_isSpelled spelled
  have notNull : v ≠ .null := by
    rintro rfl
    rw [nullable_of_toValue written] at notNullable
    cases notNullable
  exact ⟨notNull, ofValue_of_toValue (shows_of_scalar scalar written notNull) written⟩

theorem coerce_written (spelled : t.isSpelled = true) (written : t.toValue x = .ok v) :
    t.coerce v = .ok v := coerce_of_ofValue written (ofValue_written spelled written).2

/-- A text is stored as the native form of a value exactly if it spells the value. -/
theorem coerce_text_eq_ok_iff (spelled : t.isSpelled = true) (written : t.toValue x = .ok v) :
    t.coerce (.text s) = .ok v ↔ t.SpelledBy x s := by
  rw [← ofValue_text_eq_ok_iff spelled written, coerce, bind_eq_ok_iff]
  constructor
  · rintro ⟨y, read, writtenToo⟩
    have same := (ofValue_written spelled written).2.symm.trans
      (ofValue_written spelled writtenToo).2
    rwa [Except.ok.inj same]
  · exact fun read => ⟨x, read, written⟩

theorem spells_display {n : Int64} {k : Int} (exact : n.toInt = k) :
    Numeral.Spells (Value.display (.integer n)).toList k := by
  show Numeral.Spells (String.ofList (Numeral.ofInt n.toInt)).toList k
  rw [exact, String.toList_ofList]
  exact Numeral.spells_ofInt _

/-- What the native form of a value is displayed as spells the value. -/
theorem spelledBy_display (spelled : t.isSpelled = true) (written : t.toValue x = .ok v) :
    t.SpelledBy x v.display := by
  refine ⟨v.display.toList, ?_, .refl _⟩
  cases t with
  | int64 =>
    cases written
    exact spells_display rfl
  | int32 =>
    cases written
    exact spells_display (Int32.toInt_toInt64 x)
  | nat32 | nat64 | word =>
    obtain ⟨fits, rfl⟩ := unsigned_eq_ok written
    exact spells_display (toInt_ofNat fits)
  | bool =>
    cases written
    cases x <;> simp [Spells, Value.display, boolWord]
  | _ => cases spelled

end AttributeType

end EntityMapping
