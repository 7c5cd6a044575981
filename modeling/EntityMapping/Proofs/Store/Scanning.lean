import EntityMapping.Proofs.Store.Deletion
import EntityMapping.Proofs.Store.Identity
import Mathlib.Data.List.Basic

/-!
Selecting, counting and deleting look at the records of a collection one after the other, each in
its own way, and take the same decisions. So they fail together, as the first record that cannot be
decided; and where every record can be decided, what one selects is what the next counts and the
third takes out. The pages of a selection put together are the whole of it.
-/

namespace EntityMapping.Store

variable {s : Store} {name : String} {c : Option Condition} {rs : List Record} {r : Record}

/-! ### Scans -/

/-- Whether a record meets a condition, where that can be decided. -/
def chooses (s : Store) (c : Option Condition) (r : Record) : Bool :=
  match Condition.selects s.likeMode r c with
  | .ok b => b
  | .error _ => false

theorem selects_eq_chooses (h : ∃ b, Condition.selects s.likeMode r c = .ok b) :
    Condition.selects s.likeMode r c = .ok (s.chooses c r) := by
  obtain ⟨b, h⟩ := h
  rw [chooses, h]

/-- What a selection finds is what a delete takes out. -/
theorem matching_eq_taken (s : Store) (c : Option Condition) (rs : List Record) :
    s.matching c rs = (s.split c rs).map Prod.fst := by
  induction rs with
  | nil => rfl
  | cons r rest ih =>
    rw [matching, split, ih]
    cases Condition.selects s.likeMode r c with
    | error e => rfl
    | ok b => cases s.split c rest <;> cases b <;> rfl

theorem matching_eq_error {q : DeleteQuery} {e : MapperError} :
    s.matching q.condition rs = .error e ↔ FailsFirst (s.asksFor q) rs e := by
  rw [matching_eq_taken, ← split_eq_error]
  cases s.split q.condition rs <;> simp [Except.map]

theorem select_eq (s : Store) (q : SelectQuery) :
    s.select q = (s.matching q.condition (s.records q.name)).map fun rs =>
      page q.skip q.limit (Record.sortBy q.sorts rs) := by
  rw [select]
  cases s.matching q.condition (s.records q.name) <;> rfl

/-- The scans for a condition fail together. -/
structure ScansFail (s : Store) (name : String) (c : Option Condition) (e : MapperError) :
    Prop where
  first : FailsFirst (fun r => Condition.selects s.likeMode r c) (s.records name) e
  select : s.select { name := name, condition := c } = .error e
  count : s.count name c = .error e
  delete : (s.delete { name := name, condition := c }).1 = .error e

/-- The scans for a condition mean the same records. -/
structure ScansAnswer (s : Store) (name : String) (c : Option Condition) : Prop where
  decided : ∀ r ∈ s.records name, Condition.selects s.likeMode r c = .ok (s.chooses c r)
  select : s.select { name := name, condition := c } = .ok ((s.records name).filter (s.chooses c))
  count : s.count name c = .ok ((s.records name).filter (s.chooses c)).length
  delete : ∃ s', s.delete { name := name, condition := c } =
      (.ok ((s.records name).filter (s.chooses c)).length, s') ∧
    s'.records name = (s.records name).filter (fun r => !s.chooses c r) ∧ SameBut name s s' ∧
    s'.count name c = .ok 0

theorem scansFail_of_failsFirst {e : MapperError}
    (first : FailsFirst (fun r => Condition.selects s.likeMode r c) (s.records name) e) :
    ScansFail s name c e := by
  have fails : s.matching c (s.records name) = .error e :=
    matching_eq_error (q := { name := name, condition := c }).2 first
  constructor
  case first => exact first
  case select => simp only [select_eq, fails, Except.map]
  case count => simp only [count_eq, fails, Except.map]
  case delete => exact delete_eq_error.2 first

theorem sameBut_delete (s : Store) (q : DeleteQuery) : SameBut q.name s (s.delete q).2 := by
  cases found : s.collections.find? q.name with
  | none =>
    rw [delete, found]
    exact SameBut.refl ..
  | some rs =>
    cases scan : s.split q.condition rs with
    | error e =>
      rw [delete_of_split_eq_error found scan]
      exact sameBut_setRecords ..
    | ok halves =>
      rw [delete_of_split_eq_ok found scan]
      exact sameBut_setRecords ..

theorem scansAnswer_of_decided (decided : ∀ r ∈ s.records name,
      Condition.selects s.likeMode r c = .ok (s.chooses c r)) :
    ScansAnswer s name c := by
  obtain ⟨number, left⟩ := delete_eq_filter decided
  have same := sameBut_delete s { name := name, condition := c }
  generalize gone : s.delete { name := name, condition := c } = run at number left same
  obtain ⟨answer, s'⟩ := run
  -- What is left does not meet the condition, in the store that is left.
  have decided' : ∀ r ∈ s'.records name,
      Condition.selects s'.likeMode r c = .ok (s.chooses c r) := by
    intro r mem
    rw [same.likeMode]
    rw [left] at mem
    exact decided r (List.mem_of_mem_filter mem)
  have nothing : (s'.records name).filter (s.chooses c) = [] := by
    rw [left, List.filter_filter, List.filter_eq_nil_iff]
    simp
  constructor
  case decided => exact decided
  case select => exact select_eq_filter decided
  case count => exact count_eq_filter decided
  case delete =>
    refine ⟨s', ?_, left, same, ?_⟩
    · rw [gone, ← number]
    · rw [count_eq_filter decided', nothing]
      rfl

theorem scansFail_or_scansAnswer (s : Store) (name : String) (c : Option Condition) :
    (∃ e, ScansFail s name c e) ∨ ScansAnswer s name c := by
  rcases failsFirst_or_forall_ok (fun r => Condition.selects s.likeMode r c)
    (s.records name) with ⟨e, first⟩ | fine
  · exact .inl ⟨e, scansFail_of_failsFirst first⟩
  · exact .inr (scansAnswer_of_decided fun r mem => selects_eq_chooses (fine r mem))

/-! ### Pages -/

theorem page_of_pos {α : Type} {n : Nat} (pos : 0 < n) (skip : Nat) (xs : List α) :
    page skip n xs = (xs.drop skip).take n := by
  simp only [page, if_neg (Nat.ne_of_gt pos)]

/-- The first pages together are a front of the list. -/
theorem flatMap_page {α : Type} {n : Nat} (pos : 0 < n) (xs : List α) (m : Nat) :
    (List.range m).flatMap (fun k => page (k * n) n xs) = xs.take (m * n) := by
  induction m with
  | zero => simp
  | succ m ih =>
    simp only [page_of_pos pos] at ih ⊢
    rw [List.range_succ, List.flatMap_append, ih, Nat.succ_mul, List.take_add]
    simp

/-- Selecting, counting and deleting fail with one error, or mean the same records: the select gives
these in the order in which they came, the count is their number, and the delete takes them out and
nothing else, so that a count then finds none. However a selection is sorted, its pages of any one
size put together are the whole of it. -/
theorem scans_agree_and_pages_join (s : Store) :
    (∀ name c, (∃ e, ScansFail s name c e) ∨ ScansAnswer s name c) ∧
    ∀ (q : SelectQuery) (found : List Record) (n : Nat), s.select q = .ok found → 0 < n →
      ∃ (all : List Record) (pages : Nat → List Record),
        s.select { q with skip := 0, limit := 0 } = .ok all ∧
        (∀ k, s.select { q with skip := k * n, limit := n } = .ok (pages k)) ∧
        ∀ m, all.length ≤ m * n → (List.range m).flatMap pages = all := by
  refine ⟨scansFail_or_scansAnswer s, fun q found n selected pos => ?_⟩
  rw [select_eq] at selected
  cases matched : s.matching q.condition (s.records q.name) with
  | error e =>
    rw [matched] at selected
    cases selected
  | ok rs =>
    refine ⟨Record.sortBy q.sorts rs, fun k => page (k * n) n (Record.sortBy q.sorts rs),
      ?_, ?_, ?_⟩
    · rw [select_eq, matched]
      rfl
    · intro k
      rw [select_eq, matched]
      rfl
    · intro m enough
      rw [flatMap_page pos, List.take_of_length_le enough]

/-! ### People -/

def aged (name : String) (age : Int64) : Record :=
  ⟨"Person", [("name", .text name), ("age", .integer age)]⟩

def people : Store :=
  ({} : Store).setRecords "Person" [aged "Ada" 36, aged "Bob" 12, aged "Eve" 85, aged "Dan" 41]

def adults : SelectQuery where
  name := "Person"
  condition := some (.compare .greaterOrEqual "age" (.integer 18))
  sorts := [⟨"age", .descending⟩]

theorem scans_agree_and_pages_join_people :
    people.select adults = .ok [aged "Eve" 85, aged "Dan" 41, aged "Ada" 36] ∧ 0 < 2 ∧
      ScansAnswer people "Person" adults.condition ∧ ∃ pages : Nat → List Record,
        (∀ k, people.select { adults with skip := k * 2, limit := 2 } = .ok (pages k)) ∧
        pages 0 ++ pages 1 = [aged "Eve" 85, aged "Dan" 41, aged "Ada" 36] := by
  obtain ⟨scans, paging⟩ := scans_agree_and_pages_join people
  have selected : people.select adults = .ok [aged "Eve" 85, aged "Dan" 41, aged "Ada" 36] := by
    rfl
  have answers : ScansAnswer people "Person" adults.condition := by
    refine (scans "Person" adults.condition).resolve_left ?_
    rintro ⟨e, fails⟩
    have counted : people.count "Person" adults.condition = .ok 3 := by rfl
    rw [fails.count] at counted
    cases counted
  obtain ⟨all, pages, whole, each, join⟩ := paging adults _ 2 selected (by decide)
  obtain rfl : [aged "Eve" 85, aged "Dan" 41, aged "Ada" 36] = all :=
    Except.ok.inj (selected.symm.trans whole)
  have two := join 2 (by decide)
  exact ⟨selected, by decide, answers, pages, each, by simpa [List.range_succ] using two⟩

end EntityMapping.Store
