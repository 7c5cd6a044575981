import EntityMapping.Proofs.FirstFailure
import EntityMapping.Store.Basic

/-!
What a delete leaves behind. Its scan fails as the first record on which the condition cannot be
decided. The records that it has taken out by then are not put back, so a delete that fails leaves
its collection empty, whatever was in it, and the other collections as they are.
-/

namespace EntityMapping.Store

variable {s : Store}

def asksFor (s : Store) (q : DeleteQuery) (r : Record) : Except MapperError Bool :=
  Condition.selects s.likeMode r q.condition

/-- A scan fails exactly as the first record that it cannot decide. -/
theorem split_eq_error {q : DeleteQuery} {rs : List Record} {e : MapperError} :
    s.split q.condition rs = .error e ↔ FailsFirst (s.asksFor q) rs e := by
  induction rs with
  | nil => exact ⟨nofun, fun h => absurd h FailsFirst.not_nil⟩
  | cons r rs ih =>
    cases hr : s.asksFor q r with
    | error f =>
      rw [FailsFirst.cons_of_error hr, split, show Condition.selects _ r q.condition = _ from hr]
      constructor <;> (intro h; cases h; rfl)
    | ok x =>
      rw [FailsFirst.cons_of_ok hr, ← ih, split, show Condition.selects _ r q.condition = _ from hr]
      cases s.split q.condition rs with
      | error f => constructor <;> (intro h; cases h; rfl)
      | ok halves => exact ⟨nofun, nofun⟩

theorem delete_of_split_eq_error {q : DeleteQuery} {rs : List Record} {e : MapperError}
    (found : s.collections.find? q.name = some rs) (h : s.split q.condition rs = .error e) :
    s.delete q = (.error e, s.setRecords q.name []) := by
  rw [delete, found]
  simp only [h]

theorem delete_of_split_eq_ok {q : DeleteQuery} {rs taken kept : List Record}
    (found : s.collections.find? q.name = some rs)
    (h : s.split q.condition rs = .ok (taken, kept)) :
    s.delete q = (.ok taken.length, s.setRecords q.name kept) := by
  rw [delete, found]
  simp only [h]

/-- What stays was there before. -/
theorem split_subset {c : Option Condition} {rs taken kept : List Record}
    (h : s.split c rs = .ok (taken, kept)) : kept ⊆ rs := by
  induction rs generalizing taken kept with
  | nil =>
    cases h
    exact List.Subset.refl []
  | cons r rest ih =>
    rw [split] at h
    cases one : Condition.selects s.likeMode r c with
    | error e =>
      rw [one] at h
      cases h
    | ok x =>
      cases below : s.split c rest with
      | error e =>
        rw [one, below] at h
        cases h
      | ok halves =>
        rw [one, below] at h
        cases x with
        | true =>
          cases h
          exact List.subset_cons_of_subset r (ih below)
        | false =>
          cases h
          exact List.cons_subset_cons r (ih below)

/-- A delete adds no record. -/
theorem mem_records_of_delete {q : DeleteQuery} {x : Record} {name : String}
    (mem : x ∈ (s.delete q).2.records name) : x ∈ s.records name := by
  cases found : s.collections.find? q.name with
  | none =>
    rw [delete, found] at mem
    exact mem
  | some rs =>
    have there : s.records q.name = rs := by rw [records, found]; rfl
    cases scan : s.split q.condition rs with
    | error e =>
      rw [delete_of_split_eq_error found scan, records_setRecords] at mem
      split at mem
      · cases mem
      · exact mem
    | ok halves =>
      rw [delete_of_split_eq_ok found scan, records_setRecords] at mem
      split at mem
      · rename_i same
        rw [same, there]
        exact split_subset scan mem
      · exact mem

/-- A delete fails exactly as the scan of its collection. -/
theorem delete_eq_error {q : DeleteQuery} {e : MapperError} :
    (s.delete q).1 = .error e ↔ FailsFirst (s.asksFor q) (s.records q.name) e := by
  cases found : s.collections.find? q.name with
  | none =>
    have empty : s.records q.name = [] := by rw [records, found]; rfl
    rw [empty, delete, found]
    exact ⟨fun h => (by cases h), fun h => absurd h FailsFirst.not_nil⟩
  | some rs =>
    have there : s.records q.name = rs := by rw [records, found]; rfl
    rw [there, ← split_eq_error]
    cases h : s.split q.condition rs with
    | error f =>
      rw [delete_of_split_eq_error found h]
      constructor <;> (intro g; cases g; rfl)
    | ok halves =>
      rw [delete_of_split_eq_ok found h]
      constructor <;> (intro g; cases g)

/-- A delete that fails has already emptied its collection. -/
theorem delete_snd_of_eq_error {q : DeleteQuery} {e : MapperError}
    (h : (s.delete q).1 = .error e) : (s.delete q).2 = s.setRecords q.name [] := by
  cases found : s.collections.find? q.name with
  | none => rw [delete, found] at h; cases h
  | some rs =>
    cases g : s.split q.condition rs with
    | error f => rw [delete_of_split_eq_error found g]
    | ok halves => rw [delete_of_split_eq_ok found g] at h; cases h

/-- A delete fails exactly when its condition cannot be decided on some record of its collection.
It then loses every record of that collection, of which there is at least one, and no other. -/
theorem failed_delete_empties_collection (s : Store) (q : DeleteQuery) :
    (∀ e, (s.delete q).1 = .error e ↔ FailsFirst (s.asksFor q) (s.records q.name) e) ∧
    (∀ e, (s.delete q).1 = .error e → s.records q.name ≠ [] ∧
      ∀ name, (s.delete q).2.records name = if name = q.name then [] else s.records name) := by
  refine ⟨fun e => delete_eq_error, fun e h => ⟨?_, fun name => ?_⟩⟩
  · exact (delete_eq_error.1 h).ne_nil
  · rw [delete_snd_of_eq_error h, records_setRecords]

def ofRecord (r : Record) : Store := (({} : Store).insert r).2

def numberAsPattern : DeleteQuery :=
  { name := "Person", condition := some (.compare .like "name" (.integer 5)) }

theorem failed_delete_empties_collection_numberAsPattern :
    let s := ofRecord ⟨"Person", [("name", .text "Ada")]⟩
    (s.delete numberAsPattern).1 = .error (.patternNotText "INTEGER") ∧
      (s.records "Person").length = 1 ∧ (s.delete numberAsPattern).2.records "Person" = [] := by
  intro s
  have fails : (s.delete numberAsPattern).1 = .error (.patternNotText "INTEGER") := by rfl
  have lost := ((failed_delete_empties_collection s numberAsPattern).2 _ fails).2 "Person"
  exact ⟨fails, rfl, lost⟩

/-- Not every delete that fails leaves the store as it was. -/
theorem failed_delete_loses_records :
    ¬ ∀ (s : Store) (q : DeleteQuery) (e : MapperError), (s.delete q).1 = .error e →
      ∀ name, (s.delete q).2.records name = s.records name := by
  intro unharmed
  have same := unharmed (ofRecord ⟨"Person", [("name", .text "Ada")]⟩) numberAsPattern
    (.patternNotText "INTEGER") (by rfl) "Person"
  have lengths := congrArg List.length same
  exact absurd lengths (by decide)

end EntityMapping.Store
