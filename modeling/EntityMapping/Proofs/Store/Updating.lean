import EntityMapping.Proofs.Keyed
import EntityMapping.Proofs.Value.Equality
import EntityMapping.Store.Basic

/-!
What an update leaves behind. It replaces the records with an equal value under a key, each where it
stands, and touches no others; where there are none it adds the record. An update that fails has
changed nothing. To update a second time changes nothing either, as long as the id equals itself,
which is so for all ids without doubles.
-/

namespace EntityMapping.Store

variable {s s' : Store} {key : String} {id : Value} {r stored : Record} {rs : List Record}

/-! ### One collection at a time -/

/-- Two stores are alike but for the records of one name. -/
structure SameBut (name : String) (s s' : Store) : Prop where
  records : ∀ other, other ≠ name → s'.records other = s.records other
  likeMode : s'.likeMode = s.likeMode
  refusal : s'.refusal = s.refusal
  numbering : s'.numbering = s.numbering

theorem SameBut.refl (name : String) (s : Store) : SameBut name s s :=
  ⟨fun _ _ => rfl, rfl, rfl, rfl⟩

theorem sameBut_setRecords (s : Store) (name : String) (rs : List Record) :
    SameBut name s (s.setRecords name rs) := by
  refine ⟨fun other apart => ?_, rfl, rfl, rfl⟩
  rw [records_setRecords, if_neg apart]

theorem setRecords_setRecords (s : Store) (name : String) (rs rs' : List Record) :
    (s.setRecords name rs).setRecords name rs' = s.setRecords name rs' := by
  simp only [setRecords, Keyed.put_put]

/-! ### Records of a collection -/

/-- Every record of a collection is replaced or kept where it stands. -/
theorem getElem?_upsert {k : Nat} {old : Record} (h : rs[k]? = some old) :
    (upsert key id r rs)[k]? = some (if identifiedBy key id old then r else old) := by
  rw [upsert]
  split
  · rw [List.getElem?_map, h]
    rfl
  · rename_i new
    have other : identifiedBy key id old = false := by
      rw [Bool.eq_false_iff]
      intro same
      exact new (List.any_eq_true.2 ⟨old, List.mem_of_getElem? h, same⟩)
    rw [other, List.getElem?_append_left (List.getElem?_eq_some_iff.1 h).1, h]
    rfl

theorem mem_upsert {old : Record} (h : old ∈ upsert key id r rs) : old = r ∨ old ∈ rs := by
  rw [upsert] at h
  split at h
  · obtain ⟨before, mem, rfl⟩ := List.mem_map.1 h
    split
    · exact .inl rfl
    · exact .inr mem
  · exact (List.mem_append.1 h).symm.imp_left List.mem_singleton.1

theorem upsert_of_new (new : ∀ old ∈ rs, identifiedBy key id old = false) :
    upsert key id r rs = rs ++ [r] := by
  have none : rs.any (identifiedBy key id) = false := List.any_eq_false.2 fun old mem => by
    simp [new old mem]
  rw [upsert, none]
  rfl

theorem length_upsert_of_known {old : Record} (mem : old ∈ rs)
    (known : identifiedBy key id old = true) : (upsert key id r rs).length = rs.length := by
  have some : rs.any (identifiedBy key id) = true := List.any_eq_true.2 ⟨old, mem, known⟩
  rw [upsert, if_pos some, List.length_map]

theorem any_upsert (own : identifiedBy key id r = true) :
    (upsert key id r rs).any (identifiedBy key id) = true := by
  rw [upsert]
  split
  · rename_i known
    obtain ⟨old, mem, same⟩ := List.any_eq_true.1 known
    exact List.any_eq_true.2 ⟨r, List.mem_map.2 ⟨old, mem, if_pos same⟩, own⟩
  · exact List.any_eq_true.2 ⟨r, List.mem_append_right _ (List.mem_singleton.2 rfl), own⟩

/-- No other record has the id after an update. -/
theorem eq_of_mem_upsert {old : Record} (mem : old ∈ upsert key id r rs)
    (same : identifiedBy key id old = true) : old = r := by
  rw [upsert] at mem
  split at mem
  · obtain ⟨before, -, rfl⟩ := List.mem_map.1 mem
    split
    · rfl
    · rename_i other
      rw [if_neg other] at same
      exact absurd same other
  · rename_i new
    rcases List.mem_append.1 mem with there | added
    · exact absurd (List.any_eq_true.2 ⟨old, there, same⟩) new
    · exact List.mem_singleton.1 added

/-- What an update has replaced or added it would replace by the same again. -/
theorem upsert_upsert (own : identifiedBy key id r = true) :
    upsert key id r (upsert key id r rs) = upsert key id r rs := by
  rw [upsert, if_pos (any_upsert own)]
  refine (List.map_congr_left fun s mem => ?_).trans (List.map_id _)
  split
  · rename_i same
    exact (eq_of_mem_upsert mem same).symm
  · rfl

theorem identifiedBy_self (found : r.find? key = some id) (free : id.FloatFree) :
    identifiedBy key id r = true := by
  rw [identifiedBy, found]
  exact free.equals_self

/-! ### Updates -/

theorem update_of_found (accepts : s.refusal = none) (found : r.find? key = some id) :
    s.update r key = (.ok r, s.setRecords r.name (upsert key id r (s.records r.name))) := by
  rw [update, accepts]
  dsimp only
  rw [found]

theorem update_of_missing (accepts : s.refusal = none) (missing : r.find? key = none) :
    s.update r key = (.error (.missingKey r.name key), s) := by
  rw [update, accepts]
  dsimp only
  rw [missing]

theorem update_eq_ok (h : s.update r key = (.ok stored, s')) :
    stored = r ∧ ∃ id, r.find? key = some id ∧
      s' = s.setRecords r.name (upsert key id r (s.records r.name)) := by
  rw [update] at h
  split at h
  · cases h
  · split at h
    · cases h
    · rename_i id found
      cases h
      exact ⟨rfl, id, found, rfl⟩

theorem update_eq_error {e : MapperError} (h : s.update r key = (.error e, s')) : s' = s := by
  rw [update] at h
  split at h
  · cases h
    rfl
  · split at h
    · cases h
      rfl
    · cases h

/-- What an upsert in place makes of a store. It replaces the records with an id by one record, each
where it stands, and keeps the others; the record is added behind them exactly if none has the
id. -/
structure Upserts (key : String) (id : Value) (r : Record) (s s' : Store) : Prop where
  elsewhere : SameBut r.name s s'
  inPlace : ∀ (k : Nat) old, (s.records r.name)[k]? = some old →
    (s'.records r.name)[k]? = some (if identifiedBy key id old then r else old)
  added : (∀ old ∈ s.records r.name, identifiedBy key id old = false) →
    s'.records r.name = s.records r.name ++ [r]
  replaced : ∀ old ∈ s.records r.name, identifiedBy key id old = true →
    (s'.records r.name).length = (s.records r.name).length

theorem upserts_setRecords (s : Store) (key : String) (id : Value) (r : Record) :
    Upserts key id r s (s.setRecords r.name (upsert key id r (s.records r.name))) := by
  have there : (s.setRecords r.name (upsert key id r (s.records r.name))).records r.name =
      upsert key id r (s.records r.name) := by simp
  constructor
  case elsewhere => exact sameBut_setRecords ..
  case inPlace =>
    intro k old h
    rw [there, getElem?_upsert h]
  case added =>
    intro new
    rw [there, upsert_of_new new]
  case replaced =>
    intro old mem known
    rw [there, length_upsert_of_known mem known]

/-- An update is an upsert in place: it changes one collection only, where it replaces the records
with the id of the record, or adds the record. With an id without doubles a second update leaves
the store as the first one did. An update of a record without an id fails and changes nothing. -/
theorem update_upserts_in_place (s : Store) (accepts : s.refusal = none) (r : Record)
    (key : String) :
    (∀ id, r.find? key = some id → ∃ s', s.update r key = (.ok r, s') ∧ Upserts key id r s s' ∧
      (id.FloatFree → s'.update r key = (.ok r, s'))) ∧
    (r.find? key = none → s.update r key = (.error (.missingKey r.name key), s)) := by
  constructor
  · intro id found
    refine ⟨_, update_of_found accepts found, upserts_setRecords s key id r, fun free => ?_⟩
    have still : (s.setRecords r.name (upsert key id r (s.records r.name))).refusal = none :=
      accepts
    rw [update_of_found still found, records_setRecords, if_pos rfl, setRecords_setRecords,
      upsert_upsert (identifiedBy_self found free)]
  · exact update_of_missing accepts

/-! ### Seats -/

def seat (row : Int64) (letter guest : String) : Record :=
  ⟨"Seat", [("_id", .record [("row", .integer row), ("letter", .text letter)]),
    ("guest", .text guest)]⟩

def turned (row : Int64) (letter guest : String) : Record :=
  ⟨"Seat", [("_id", .record [("letter", .text letter), ("row", .integer row)]),
    ("guest", .text guest)]⟩

def hall : Store := ({} : Store).setRecords "Seat" [turned 1 "A" "Ada", seat 2 "B" "Bob"]

theorem update_upserts_in_place_seat :
    hall.refusal = none ∧ ∃ s',
      hall.update (seat 1 "A" "Eve") "_id" = (.ok (seat 1 "A" "Eve"), s') ∧
      s'.records "Seat" = [seat 1 "A" "Eve", seat 2 "B" "Bob"] ∧
      s'.update (seat 1 "A" "Eve") "_id" = (.ok (seat 1 "A" "Eve"), s') := by
  obtain ⟨s', updated, upserts, again⟩ :=
    (update_upserts_in_place hall rfl (seat 1 "A" "Eve") "_id").1 _ rfl
  have free : (Value.record [("row", .integer 1), ("letter", .text "A")]).FloatFree := by
    refine .record fun e mem => ?_
    simp only [List.mem_cons, List.not_mem_nil, or_false] at mem
    rcases mem with rfl | rfl
    · exact .integer 1
    · exact .text "A"
  have known : identifiedBy "_id" (.record [("row", .integer 1), ("letter", .text "A")])
      (turned 1 "A" "Ada") = true := by cbv
  have other : identifiedBy "_id" (.record [("row", .integer 1), ("letter", .text "A")])
      (seat 2 "B" "Bob") = false := by cbv
  have first := upserts.inPlace 0 (turned 1 "A" "Ada") rfl
  have second := upserts.inPlace 1 (seat 2 "B" "Bob") rfl
  have size := upserts.replaced _ (List.mem_cons_self ..) known
  rw [if_pos known] at first
  rw [other] at second
  refine ⟨rfl, s', updated, ?_, again free⟩
  refine List.ext_getElem? fun k => ?_
  rcases k with _ | _ | k
  · exact first
  · exact second
  · exact (List.getElem?_eq_none (size ▸ Nat.le_add_left 2 k)).trans rfl

end EntityMapping.Store
