import EntityMapping.AttributeType.Coercion

/-!
What can be wrong with a value. A value that cannot be converted, from an attribute or to one, is a
mismatch of types and nothing else, however deep it lies in the value.
-/

namespace EntityMapping

variable {α β : Type} {Q R : MapperError → Prop}

/-- A computation that fails does so with an error of some sort. -/
structure Faults (Q : MapperError → Prop) (x : Except MapperError α) : Prop where
  error_of : ∀ e, x = .error e → Q e

namespace Faults

theorem ok (a : α) : Faults Q (.ok a) := ⟨nofun⟩

theorem error {e : MapperError} (h : Q e) : Faults Q (.error e : Except MapperError α) :=
  ⟨fun _ same => Except.error.inj same ▸ h⟩

theorem imp {x : Except MapperError α} (hx : Faults Q x) (h : ∀ e, Q e → R e) : Faults R x :=
  ⟨fun e failed => h e (hx.error_of e failed)⟩

theorem bind {x : Except MapperError α} {f : α → Except MapperError β} (hx : Faults Q x)
    (hf : ∀ a, Faults Q (f a)) : Faults Q (x >>= f) := by
  cases x with
  | error e => exact error (hx.error_of e rfl)
  | ok a => exact hf a

theorem map {x : Except MapperError α} {f : α → β} (hx : Faults Q x) : Faults Q (x.map f) := by
  cases x with
  | error e => exact error (hx.error_of e rfl)
  | ok a => exact ok (f a)

theorem mapM {f : α → Except MapperError β} (hf : ∀ a, Faults Q (f a)) (xs : List α) :
    Faults Q (xs.mapM f) := by
  induction xs with
  | nil => exact ok []
  | cons x xs ih =>
    rw [List.mapM_cons]
    exact (hf x).bind fun y => ih.bind fun ys => ok _

end Faults

namespace AttributeType

/-- A computation fails only over the type of a value. -/
abbrev Mismatches (x : Except MapperError α) : Prop := Faults (·.kind = .typeMismatch) x

theorem mismatches_mismatch (v : Value) (target : String) :
    Mismatches (mismatch v target : Except MapperError α) := .error rfl

theorem mismatches_orMismatch (v : Value) (target : String) (x : Option α) :
    Mismatches (orMismatch v target x) := by
  cases x with
  | none => exact mismatches_mismatch v target
  | some a => exact .ok a

theorem mismatches_mapEntries {f : α → Except MapperError β} (hf : ∀ a, Mismatches (f a))
    (es : Keyed α) : Mismatches (mapEntries f es) := by
  induction es with
  | nil => exact .ok []
  | cons e rest ih =>
    obtain ⟨k, x⟩ := e
    exact (hf x).bind fun y => ih.bind fun ys => .ok _

/-! ### Reading -/

theorem mismatches_int64OfValue (v : Value) : Mismatches (int64OfValue v) := by
  unfold int64OfValue
  split <;> first | exact mismatches_orMismatch .. | exact mismatches_mismatch .. | exact .ok _

theorem mismatches_narrow (v : Value) (low high : Int) (target : String) :
    Mismatches (narrow v low high target) := by
  refine (mismatches_int64OfValue v).bind fun n => ?_
  split
  · exact .ok _
  · exact mismatches_mismatch v target

theorem mismatches_doubleOfValue (v : Value) : Mismatches (doubleOfValue v) := by
  unfold doubleOfValue
  split <;> first | exact mismatches_orMismatch .. | exact mismatches_mismatch .. | exact .ok _

theorem mismatches_entriesOf (target : AttributeType) (v : Value) :
    Mismatches (entriesOf target v) := by
  unfold entriesOf
  split <;> first | exact mismatches_mismatch .. | exact .ok _

/-- A value that cannot be read as a type is of another type. -/
theorem mismatches_ofValue (t : AttributeType) (v : Value) : Mismatches (t.ofValue v) := by
  induction t generalizing v with
  | int64 => exact mismatches_int64OfValue v
  | int32 | nat32 | nat64 | word => exact (mismatches_narrow ..).map
  | float64 => exact mismatches_doubleOfValue v
  | float32 => exact (mismatches_doubleOfValue v).map
  | bool =>
    show Mismatches (boolOfValue v)
    unfold boolOfValue
    split <;> first | exact mismatches_orMismatch .. | exact mismatches_mismatch .. | exact .ok _
  | string =>
    show Mismatches (stringOfValue v)
    unfold stringOfValue
    split <;> first | exact mismatches_mismatch .. | exact .ok _
  | uuid =>
    show Mismatches (uuidOfValue v)
    unfold uuidOfValue
    split <;> first | exact mismatches_orMismatch .. | exact mismatches_mismatch .. | exact .ok _
  | timestamp =>
    show Mismatches (timestampOfValue v)
    unfold timestampOfValue
    split <;> first | exact mismatches_orMismatch .. | exact mismatches_mismatch .. | exact .ok _
  | date =>
    show Mismatches (dateOfValue v)
    unfold dateOfValue
    split <;> first | exact mismatches_orMismatch .. | exact mismatches_mismatch .. | exact .ok _
  | value => exact .ok v
  | option t ih =>
    cases v with
    | null => exact .ok none
    | _ => exact (ih _).map
  | list t ih => exact .mapM ih _
  | set t ih => exact (Faults.mapM ih _).map
  | hashSet t seed ih => exact (Faults.mapM ih _).map
  | map t ih => exact (mismatches_entriesOf ..).bind fun es => (mismatches_mapEntries ih es).map
  | hashMap t seed ih =>
    exact (mismatches_entriesOf ..).bind fun es => (mismatches_mapEntries ih es).map

/-! ### Writing -/

theorem mismatches_unsigned (type : String) (n : Nat) : Mismatches (unsigned type n) := by
  unfold unsigned
  split
  · exact .ok _
  · exact .error rfl

/-- A value of a type that cannot be written is too large. -/
theorem mismatches_toValue (t : AttributeType) (x : t.Carrier) : Mismatches (t.toValue x) := by
  induction t with
  | nat32 | nat64 | word => exact mismatches_unsigned ..
  | option t ih =>
    cases x with
    | none => exact .ok Value.null
    | some x => exact ih x
  | list t ih => exact (Faults.mapM ih _).map
  | set t ih => exact (Faults.mapM ih _).map
  | hashSet t seed ih => exact (Faults.mapM ih _).map
  | map t ih => exact (mismatches_mapEntries ih _).map
  | hashMap t seed ih => exact (mismatches_mapEntries ih _).map
  | _ => exact .ok _

end AttributeType

end EntityMapping
