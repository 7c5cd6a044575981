import EntityMapping.Proofs.AttributeType.Coercion
import EntityMapping.Proofs.Collection
import EntityMapping.Proofs.FirstFailure
import EntityMapping.Proofs.Number.Exactness
import EntityMapping.Query.Filter

/-!
Storing values and reading them back. The one thing that cannot be written is an unsigned number
above the greatest integer, and the one thing that does not come back is an option that is there but
holds what is written as null. A type has no such values if its options are apart, directly around
neither an option nor any native value; and whatever the type, reading a native value never gives
one. So values of the former types survive storage, and what is coerced once stays as it is, but for
the order in which hash tables are passed.
-/

namespace EntityMapping.AttributeType

/-! ### Types and what their values hold -/

/-- A type that has a value written as null. -/
def nullable : AttributeType → Bool
  | .option _ | .value => true
  | _ => false

/-- No option is directly around a type that has a value written as null. -/
def optionsApart : AttributeType → Bool
  | .option t => !t.nullable && t.optionsApart
  | .list t | .set t | .map t | .hashSet t _ | .hashMap t _ => t.optionsApart
  | _ => true

/-- There is no hash table in a type, so the order in which its values are written is told by the
values. -/
def ordered : AttributeType → Bool
  | .option t | .list t | .set t | .map t => t.ordered
  | .hashSet .. | .hashMap .. => false
  | _ => true

/-- The unsigned numbers in a value. -/
def unsignedParts : (t : AttributeType) → t.Carrier → List Nat
  | .nat32, (n : UInt32) => [n.toNat]
  | .nat64, (n : UInt64) => [n.toNat]
  | .word, (n : UInt64) => [n.toNat]
  | .option t, (x : Option t.Carrier) => x.toList.flatMap t.unsignedParts
  | .list t, (xs : List t.Carrier) => xs.flatMap t.unsignedParts
  | .set t, (s : SortedSet t.Carrier) => s.items.flatMap t.unsignedParts
  | .hashSet t _, (s : SortedSet t.Carrier) => s.items.flatMap t.unsignedParts
  | .map t, (m : SortedMap t.Carrier) => m.entries.flatMap fun e => t.unsignedParts e.2
  | .hashMap t _, (m : SortedMap t.Carrier) => m.entries.flatMap fun e => t.unsignedParts e.2
  | _, _ => []

/-- Every option in a value that is there can be told from an absent one: what it holds is not
written as null. -/
def Shows : (t : AttributeType) → t.Carrier → Prop
  | .option t, (x : Option t.Carrier) => ∀ y ∈ x, t.toValue y ≠ .ok .null ∧ t.Shows y
  | .list t, (xs : List t.Carrier) => ∀ x ∈ xs, t.Shows x
  | .set t, (s : SortedSet t.Carrier) => ∀ x ∈ s.items, t.Shows x
  | .hashSet t _, (s : SortedSet t.Carrier) => ∀ x ∈ s.items, t.Shows x
  | .map t, (m : SortedMap t.Carrier) => ∀ e ∈ m.entries, t.Shows e.2
  | .hashMap t _, (m : SortedMap t.Carrier) => ∀ e ∈ m.entries, t.Shows e.2
  | _, _ => True

/-! ### Entries -/

section Entries

variable {α β : Type} {f : α → Except MapperError β} {es : Keyed α} {ds : Keyed β}

theorem mapEntries_eq_mapM (f : α → Except MapperError β) (es : Keyed α) :
    mapEntries f es = es.mapM fun e => (f e.2).map fun y => (e.1, y) := by
  induction es with
  | nil => rfl
  | cons e rest ih =>
    obtain ⟨k, x⟩ := e
    rw [mapEntries, List.mapM_cons, ih]
    cases f x <;> rfl

theorem exists_mapEntries_iff :
    (∃ ds, mapEntries f es = .ok ds) ↔ ∀ e ∈ es, ∃ y, f e.2 = .ok y := by
  simp only [mapEntries_eq_mapM, exists_mapM_iff, exists_map_iff]

theorem exists_of_mem_mapEntries (h : mapEntries f es = .ok ds) {d : String × β} (mem : d ∈ ds) :
    ∃ e ∈ es, f e.2 = .ok d.2 := by
  rw [mapEntries_eq_mapM] at h
  obtain ⟨e, he, step⟩ := exists_of_mem_mapM h mem
  obtain ⟨y, answer, rfl⟩ := map_eq_ok_iff.1 step
  exact ⟨e, he, answer⟩

theorem mapEntries_back {g : β → Except MapperError α} (h : mapEntries f es = .ok ds)
    (back : ∀ e ∈ es, ∀ y, f e.2 = .ok y → g y = .ok e.2) : mapEntries g ds = .ok es := by
  rw [mapEntries_eq_mapM] at h ⊢
  refine mapM_back h fun e he d step => ?_
  obtain ⟨y, answer, rfl⟩ := map_eq_ok_iff.1 step
  exact map_eq_ok_iff.2 ⟨e.2, back e he y answer, rfl⟩

end Entries

/-! ### Writing -/

theorem exists_unsigned_iff {type : String} {n : Nat} :
    (∃ v, unsigned type n = .ok v) ↔ (n : Int) ≤ Int64.maxValue.toInt := by
  rw [unsigned]
  split
  · rename_i fits
    exact ⟨fun _ => fits, fun _ => ⟨_, rfl⟩⟩
  · rename_i large
    constructor
    · rintro ⟨v, written⟩
      cases written
    · exact fun fits => absurd fits large

/-- A type whose values are written unless an unsigned number in them is too large. -/
def WritesFitting (t : AttributeType) : Prop :=
  ∀ x : t.Carrier,
    (∃ v, t.toValue x = .ok v) ↔ ∀ n ∈ t.unsignedParts x, (n : Int) ≤ Int64.maxValue.toInt

theorem WritesFitting.items {t : AttributeType} (each : t.WritesFitting) {xs ys : List t.Carrier}
    (perm : ys.Perm xs) :
    (∃ v, (ys.mapM t.toValue).map Value.list = .ok v) ↔
      ∀ n ∈ xs.flatMap t.unsignedParts, (n : Int) ≤ Int64.maxValue.toInt := by
  rw [exists_map_iff, exists_mapM_iff, List.forall_mem_flatMap]
  exact forall_congr' fun x => imp_congr perm.mem_iff (each x)

theorem WritesFitting.entries {t : AttributeType} (each : t.WritesFitting) {es ds : Keyed t.Carrier}
    (perm : ds.Perm es) :
    (∃ v, (mapEntries t.toValue ds).map Value.record = .ok v) ↔
      ∀ n ∈ es.flatMap (fun e => t.unsignedParts e.2), (n : Int) ≤ Int64.maxValue.toInt := by
  rw [exists_map_iff, exists_mapEntries_iff, List.forall_mem_flatMap]
  exact forall_congr' fun e => imp_congr perm.mem_iff (each e.2)

/-- A value is written if the unsigned numbers in it are not too large. -/
theorem writesFitting (t : AttributeType) : t.WritesFitting := by
  induction t with
  | nat32 | nat64 | word =>
    intro n
    simpa [toValue, unsignedParts] using exists_unsigned_iff
  | option t each =>
    intro x
    cases x with
    | none => simp [toValue, unsignedParts]
    | some x => simpa [toValue, unsignedParts] using each x
  | list t each => exact fun xs => each.items (.refl xs)
  | set t each => exact fun s => each.items (.refl s.items)
  | hashSet t seed each => exact fun s => each.items (perm_shuffle seed s.items)
  | map t each => exact fun m => each.entries (.refl m.entries)
  | hashMap t seed each => exact fun m => each.entries (perm_shuffle seed m.entries)
  | _ => exact fun _ => ⟨fun _ => nofun, fun _ => ⟨_, rfl⟩⟩

/-- Only a type that has a value written as null writes one. -/
theorem nullable_of_toValue {t : AttributeType} {x : t.Carrier} (h : t.toValue x = .ok .null) :
    t.nullable = true := by
  cases t with
  | option t => rfl
  | value => rfl
  | nat32 | nat64 | word =>
    obtain ⟨-, same⟩ := unsigned_eq_ok h
    cases same
  | list t | set t | hashSet t | map t | hashMap t =>
    obtain ⟨_, -, same⟩ := map_eq_ok_iff.1 h
    cases same
  | _ => cases h

/-- Where options are apart, all of them show. -/
theorem shows_of_optionsApart {t : AttributeType} (apart : t.optionsApart = true) (x : t.Carrier) :
    t.Shows x := by
  induction t with
  | option t each =>
    simp only [optionsApart, Bool.and_eq_true, Bool.not_eq_true'] at apart
    refine fun y _ => ⟨fun null => ?_, each apart.2 y⟩
    rw [nullable_of_toValue null] at apart
    cases apart.1
  | list t each => exact fun y _ => each apart y
  | set t each => exact fun y _ => each apart y
  | hashSet t seed each => exact fun y _ => each apart y
  | map t each => exact fun e _ => each apart e.2
  | hashMap t seed each => exact fun e _ => each apart e.2
  | _ => trivial

theorem shows_of_scalar {t : AttributeType} {x : t.Carrier} {v : Value} (single : t.shape = .scalar)
    (written : t.toValue x = .ok v) (notNull : v ≠ .null) : t.Shows x := by
  induction t with
  | option t each =>
    rintro y rfl
    refine ⟨fun null => notNull ?_, each single written⟩
    exact Except.ok.inj (written.symm.trans null)
  | list | set | map | hashSet | hashMap => cases single
  | _ => trivial

/-! ### Reading -/

/-- Only null is read as something that is written as null. -/
theorem toValue_ne_null_of_ofValue {t : AttributeType} {v : Value} {x : t.Carrier}
    (read : t.ofValue v = .ok x) (notNull : v ≠ .null) : t.toValue x ≠ .ok .null := by
  induction t with
  | value =>
    cases read
    exact fun h => notNull (Except.ok.inj h)
  | option t each =>
    rw [ofValue_option notNull] at read
    obtain ⟨y, item, rfl⟩ := map_eq_ok_iff.1 read
    exact each item
  | _ => exact fun h => Bool.noConfusion (nullable_of_toValue h)

/-- In what is read from a native value all options show. -/
theorem shows_of_ofValue {t : AttributeType} {v : Value} {x : t.Carrier}
    (read : t.ofValue v = .ok x) : t.Shows x := by
  induction t generalizing v with
  | option t each =>
    by_cases null : v = .null
    · subst null
      cases read
      exact nofun
    · rw [ofValue_option null] at read
      obtain ⟨y, item, rfl⟩ := map_eq_ok_iff.1 read
      rintro _ ⟨⟩
      exact ⟨toValue_ne_null_of_ofValue item null, each item⟩
  | list t each =>
    intro y mem
    obtain ⟨w, -, item⟩ := exists_of_mem_mapM read mem
    exact each item
  | set t each | hashSet t _ each =>
    obtain ⟨xs, items, rfl⟩ := map_eq_ok_iff.1 read
    intro y mem
    obtain ⟨w, -, item⟩ := exists_of_mem_mapM items (SortedSet.mem_of_mem_ofList mem)
    exact each item
  | map t each | hashMap t _ each =>
    obtain ⟨es, -, rest⟩ := bind_eq_ok_iff.1 read
    obtain ⟨ds, entries, rfl⟩ := map_eq_ok_iff.1 rest
    intro e mem
    obtain ⟨d, -, item⟩ := exists_of_mem_mapEntries entries (SortedMap.mem_of_mem_ofList mem)
    exact each item
  | _ => trivial

/-- A value in which all options show comes back from what is written. -/
theorem ofValue_of_toValue {t : AttributeType} {x : t.Carrier} {v : Value} (shows : t.Shows x)
    (written : t.toValue x = .ok v) : t.ofValue v = .ok x := by
  induction t generalizing v with
  | int32 =>
    cases written
    exact ofValue_int32 x
  | nat32 =>
    obtain ⟨fits, rfl⟩ := unsigned_eq_ok written
    exact ofValue_nat32 fits
  | nat64 | word =>
    obtain ⟨fits, rfl⟩ := unsigned_eq_ok written
    exact map_narrow_nat64 fits
  | float32 =>
    cases written
    exact congrArg Except.ok (Single.convert_convert x)
  | option t back =>
    cases x with
    | none =>
      cases written
      rfl
    | some y =>
      obtain ⟨notNull, shows⟩ := shows y rfl
      rw [ofValue_option fun null => notNull (null ▸ written), back shows written]
      rfl
  | list t back =>
    obtain ⟨vs, items, rfl⟩ := map_eq_ok_iff.1 written
    exact mapM_back items fun y mem w item => back (shows y mem) item
  | set t back =>
    obtain ⟨vs, items, rfl⟩ := map_eq_ok_iff.1 written
    have read := mapM_back items fun y mem w item => back (shows y mem) item
    exact map_eq_ok_iff.2 ⟨x.items, read, SortedSet.ofList_of_perm (.refl _)⟩
  | hashSet t seed back =>
    obtain ⟨vs, items, rfl⟩ := map_eq_ok_iff.1 written
    have perm := perm_shuffle seed x.items
    have read := mapM_back items fun y mem w item => back (shows y (perm.mem_iff.1 mem)) item
    exact map_eq_ok_iff.2 ⟨_, read, SortedSet.ofList_of_perm perm⟩
  | map t back =>
    obtain ⟨ds, entries, rfl⟩ := map_eq_ok_iff.1 written
    have read := mapEntries_back entries fun e mem w item => back (shows e mem) item
    exact map_eq_ok_iff.2 ⟨x.entries, read, SortedMap.ofList_of_perm (.refl _)⟩
  | hashMap t seed back =>
    obtain ⟨ds, entries, rfl⟩ := map_eq_ok_iff.1 written
    have perm := perm_shuffle seed x.entries
    have read := mapEntries_back entries fun e mem w item =>
      back (shows e (perm.mem_iff.1 mem)) item
    exact map_eq_ok_iff.2 ⟨_, read, SortedMap.ofList_of_perm perm⟩
  | _ =>
    cases written
    rfl

/-! ### Storage and coercion -/

/-- What a type of single values has written is in the form in which it stores it, null apart. -/
theorem coerce_of_toValue {t : AttributeType} {x : t.Carrier} {v : Value}
    (single : t.shape = .scalar) (written : t.toValue x = .ok v) (notNull : v ≠ .null) :
    t.coerce v = .ok v :=
  coerce_of_ofValue written (ofValue_of_toValue (shows_of_scalar single written notNull) written)

/-- What a type would store is the form of the value that is read, and is read as this value. -/
theorem exists_of_coerce {t : AttributeType} {v w : Value} (h : t.coerce v = .ok w) :
    ∃ x : t.Carrier, t.ofValue v = .ok x ∧ t.toValue x = .ok w ∧ t.ofValue w = .ok x := by
  obtain ⟨x, read, written⟩ := bind_eq_ok_iff.1 h
  exact ⟨x, read, written, ofValue_of_toValue (shows_of_ofValue read) written⟩

/-- A value of a type whose options are apart cannot be written exactly if an unsigned number in it
is above the greatest integer, and comes back from what is written otherwise. -/
theorem values_survive_storage {t : AttributeType} (apart : t.optionsApart = true)
    (x : t.Carrier) :
    ((∃ e, t.toValue x = .error e) ↔ ∃ n ∈ t.unsignedParts x, Int64.maxValue.toInt < n) ∧
    ∀ v, t.toValue x = .ok v → t.ofValue v = .ok x := by
  refine ⟨?_, fun v written => ofValue_of_toValue (shows_of_optionsApart apart x) written⟩
  have writes := writesFitting t x
  cases answer : t.toValue x with
  | ok v =>
    rw [answer] at writes
    have fits := writes.1 ⟨v, rfl⟩
    refine ⟨nofun, ?_⟩
    rintro ⟨n, mem, large⟩
    exact absurd large (not_lt.2 (fits n mem))
  | error e =>
    rw [answer] at writes
    refine ⟨fun _ => ?_, fun _ => ⟨e, rfl⟩⟩
    by_contra none
    push Not at none
    obtain ⟨v, written⟩ := writes.2 none
    cases written

def counts : AttributeType := .map (.list (.option .nat64))

def someCounts : counts.Carrier :=
  SortedMap.ofList [("b", [some (7 : UInt64), none]), ("a", ([] : List (Option UInt64)))]

def greatCount : counts.Carrier := SortedMap.ofList [("b", [some (18446744073709551615 : UInt64)])]

theorem values_survive_storage_counts :
    counts.optionsApart = true ∧ (∃ e, counts.toValue greatCount = .error e) ∧
      counts.toValue someCounts =
        .ok (.record [("a", .list []), ("b", .list [.integer 7, .null])]) ∧
      counts.ofValue (.record [("a", .list []), ("b", .list [.integer 7, .null])]) =
        .ok someCounts := by
  have apart : counts.optionsApart = true := by decide
  have written : counts.toValue someCounts =
      .ok (.record [("a", .list []), ("b", .list [.integer 7, .null])]) := by rfl
  refine ⟨apart, ?_, written, (values_survive_storage apart someCounts).2 _ written⟩
  exact (values_survive_storage apart greatCount).1.2 ⟨18446744073709551615, by decide, by decide⟩

end EntityMapping.AttributeType

namespace EntityMapping

open AttributeType

/-- There is no hash table in what an attribute holds. -/
def FieldType.ordered : FieldType → Bool
  | .plain t _ => t.ordered
  | _ => true

theorem MappedField.coerce_coerce {f : MappedField} {v w : Value} (h : f.coerce v = .ok w) :
    f.coerce w = .ok w := by
  rw [coerce] at h ⊢
  split at h
  · obtain ⟨x, -, written, read⟩ := exists_of_coerce h
    exact coerce_of_ofValue written read
  · rfl

/-- What is coerced is the form in which the type stores the value that was read, and is read as the
same value. So it stays as it is when it is coerced again, as do the arguments of queries; only hash
tables may be passed in another order the next time. -/
theorem coercion_settles :
    (∀ (t : AttributeType) (v w : Value), t.coerce v = .ok w →
      ∃ x : t.Carrier, t.ofValue v = .ok x ∧ t.toValue x = .ok w ∧ t.ofValue w = .ok x) ∧
    (∀ (t : AttributeType) (v w : Value), t.ordered = true → t.coerce v = .ok w →
      t.coerce w = .ok w) ∧
    ∀ (cs : Converters) (f : MappedField) (a : QueryArgument) (w : Value), f.type.ordered = true →
      a.toNative cs f = .ok w → QueryArgument.toNative cs f (.native w) = .ok w := by
  refine ⟨fun t v w coerced => exists_of_coerce coerced, fun t v w _ coerced => ?_,
    fun cs f a w _ answer => ?_⟩
  · obtain ⟨x, -, written, read⟩ := exists_of_coerce coerced
    exact coerce_of_ofValue written read
  · unfold QueryArgument.toNative at answer ⊢
    cases converter : f.converter? with
    | some c => rfl
    | none =>
      rw [converter] at answer
      cases a
      case «attribute» => cases answer
      case native v =>
        simp only at answer ⊢
        split at answer
        · rename_i plain
          rw [if_pos plain]
          exact MappedField.coerce_coerce answer
        · rename_i other
          rw [if_neg other]

def AttributeType.numberSets : AttributeType := .map (.set (.option .int64))

theorem coercion_settles_numbers :
    numberSets.ordered = true ∧ numberSets.coerce (.record [("b", .integer 1),
        ("a", .list [.text " 5", .null, .boolean true, .integer 5]), ("b", .text "2")]) =
      .ok (.record [("a", .list [.null, .integer 1, .integer 5]), ("b", .list [.integer 2])]) ∧
    numberSets.coerce (.record [("a", .list [.null, .integer 1, .integer 5]),
        ("b", .list [.integer 2])]) =
      .ok (.record [("a", .list [.null, .integer 1, .integer 5]), ("b", .list [.integer 2])]) := by
  have coerced : numberSets.coerce (.record [("b", .integer 1),
      ("a", .list [.text " 5", .null, .boolean true, .integer 5]), ("b", .text "2")]) =
      .ok (.record [("a", .list [.null, .integer 1, .integer 5]), ("b", .list [.integer 2])]) := by
    rfl
  exact ⟨by decide, coerced, coercion_settles.2.1 _ _ _ (by decide) coerced⟩

end EntityMapping
