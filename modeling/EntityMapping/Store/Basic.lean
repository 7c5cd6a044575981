import EntityMapping.Config
import EntityMapping.Like.Automaton
import EntityMapping.Store.Evaluation
import EntityMapping.Store.Ordering

/-!
A store of records in memory. Records of one name are a collection, in the order in which
they came. An update replaces, in place, all records with an equal id, or adds the record
where there is none. A delete takes the records out one by one and puts back those that stay
only at the end: where the condition fails on a record, the collection is left empty.

A store may refuse every write, and may number the records that are inserted.
-/

namespace EntityMapping

/-- Gives out numbers under a key. -/
structure Numbering where
  key : String
  next : Int64

/-- The records by name. -/
structure Store where
  collections : Keyed (List Record) := []
  /-- How patterns are matched. -/
  likeMode : Like.Mode := .ofCase true
  /-- The error of every insert and update. -/
  refusal : Option MapperError := none
  /-- The numbering of inserted records. -/
  numbering : Option Numbering := none

namespace Store

instance : Inhabited Store := ⟨{}⟩

/-- An empty store that compares texts as configured. -/
def ofConfig (config : Config) : Store := { likeMode := .ofCase config.caseSensitiveLike }

def records (s : Store) (name : String) : List Record := (s.collections.find? name).getD []

def setRecords (s : Store) (name : String) (rs : List Record) : Store :=
  { s with collections := s.collections.put name rs }

@[simp] theorem records_setRecords (s : Store) (name other : String) (rs : List Record) :
    (s.setRecords name rs).records other = if other = name then rs else s.records other := by
  by_cases h : other = name <;> simp [records, setRecords, Keyed.find?_put, h]

/-! ### Writing -/

/-- The record with its number, and the store with the number given out. -/
def numbered (s : Store) (r : Record) : Record × Store :=
  match s.numbering with
  | none => (r, s)
  | some n => (r.add n.key (.integer n.next), { s with numbering := some ⟨n.key, n.next + 1⟩ })

/-- Adds a record; gives it as it is stored. -/
def insert (s : Store) (r : Record) : Except MapperError Record × Store :=
  match s.refusal with
  | some e => (.error e, s)
  | none =>
    let (r, s) := s.numbered r
    (.ok r, s.setRecords r.name (s.records r.name ++ [r]))

/-- Whether a record has a value under a key. -/
def identifiedBy (key : String) (id : Value) (r : Record) : Bool :=
  match r.find? key with
  | some v => v == id
  | none => false

/-- Replaces the records that have the value of a record under a key, or adds the record. -/
def upsert (key : String) (id : Value) (r : Record) (rs : List Record) : List Record :=
  if rs.any (identifiedBy key id) then
    rs.map fun s => if identifiedBy key id s then r else s
  else rs ++ [r]

/-- Replaces the records with the id of a record, or adds the record. -/
def update (s : Store) (r : Record) (key : String) : Except MapperError Record × Store :=
  match s.refusal with
  | some e => (.error e, s)
  | none =>
    match r.find? key with
    | none => (.error (.missingKey r.name key), s)
    | some id => (.ok r, s.setRecords r.name (upsert key id r (s.records r.name)))

/-! ### Queries -/

/-- The records that meet a condition. -/
def matching (s : Store) (c : Option Condition) : List Record → Except MapperError (List Record)
  | [] => .ok []
  | r :: rs => do
    let b ← Condition.selects s.likeMode r c
    let rest ← s.matching c rs
    .ok (if b then r :: rest else rest)

/-- The page of a list after some items; a limit of zero is none. -/
def page {α : Type} (skip limit : Nat) (xs : List α) : List α :=
  let rest := xs.drop skip
  if limit = 0 then rest else rest.take limit

/-- The records that a query asks for. -/
def select (s : Store) (q : SelectQuery) : Except MapperError (List Record) := do
  let rs ← s.matching q.condition (s.records q.name)
  .ok (page q.skip q.limit (Record.sortBy q.sorts rs))

/-- The number of records that meet a condition; without one no record is looked at. -/
def count (s : Store) (name : String) : Option Condition → Except MapperError Nat
  | none => .ok (s.records name).length
  | some c => do
    let rs ← s.matching (some c) (s.records name)
    .ok rs.length

/-- Splits records into those that meet a condition and those that do not. -/
def split (s : Store) (c : Option Condition) :
    List Record → Except MapperError (List Record × List Record)
  | [] => .ok ([], [])
  | r :: rs => do
    let b ← Condition.selects s.likeMode r c
    let (taken, kept) ← s.split c rs
    .ok (if b then (r :: taken, kept) else (taken, r :: kept))

/-- Deletes the records that a query names; gives their number. -/
def delete (s : Store) (q : DeleteQuery) : Except MapperError Nat × Store :=
  match s.collections.find? q.name with
  | none => (.ok 0, s)
  | some rs =>
    match s.split q.condition rs with
    | .ok (taken, kept) => (.ok taken.length, s.setRecords q.name kept)
    | .error e => (.error e, s.setRecords q.name [])

end Store

end EntityMapping
