import EntityMapping.Error

/-!
Steps that are taken for the items of a list from the left and end at the first error: which item
that is, and how the answer follows the list.
-/

namespace EntityMapping

variable {α β : Type}

/-- A step fails for some item, and `e` is its error for the first one. -/
def FailsFirst (f : α → Except MapperError β) (xs : List α) (e : MapperError) : Prop :=
  ∃ before x after, xs = before ++ x :: after ∧ (∀ b ∈ before, ∃ y, f b = .ok y) ∧ f x = .error e

namespace FailsFirst

variable {f : α → Except MapperError β} {x : α} {xs : List α} {e : MapperError}

theorem ne_nil (h : FailsFirst f xs e) : xs ≠ [] := by
  obtain ⟨before, x, after, rfl, -, -⟩ := h
  simp

@[simp] theorem not_nil : ¬ FailsFirst f [] e := fun h => h.ne_nil rfl

/-- An item without an error leaves the decision to those after it. -/
theorem cons_of_ok {y : β} (hx : f x = .ok y) : FailsFirst f (x :: xs) e ↔ FailsFirst f xs e := by
  constructor
  · rintro ⟨before, z, after, parts, fine, fails⟩
    cases before with
    | nil =>
      cases parts
      rw [hx] at fails
      cases fails
    | cons b before =>
      cases parts
      exact ⟨before, z, after, rfl, fun c hc => fine c (List.mem_cons_of_mem _ hc), fails⟩
  · rintro ⟨before, z, after, rfl, fine, fails⟩
    refine ⟨x :: before, z, after, rfl, fun b hb => ?_, fails⟩
    rcases List.mem_cons.1 hb with rfl | hb
    · exact ⟨y, hx⟩
    · exact fine b hb

/-- An item with an error decides for the whole list. -/
theorem cons_of_error {g : MapperError} (hx : f x = .error g) :
    FailsFirst f (x :: xs) e ↔ g = e := by
  constructor
  · rintro ⟨before, z, after, parts, fine, fails⟩
    cases before with
    | nil =>
      cases parts
      rw [hx] at fails
      cases fails
      rfl
    | cons b before =>
      cases parts
      obtain ⟨y, hy⟩ := fine _ (List.mem_cons_self ..)
      rw [hx] at hy
      cases hy
  · rintro rfl
    exact ⟨[], x, xs, rfl, by simp, hx⟩

end FailsFirst

/-- Steps have an error for some item, or answers for all of them. -/
theorem failsFirst_or_forall_ok (f : α → Except MapperError β) (xs : List α) :
    (∃ e, FailsFirst f xs e) ∨ ∀ x ∈ xs, ∃ y, f x = .ok y := by
  induction xs with
  | nil => exact .inr nofun
  | cons x xs ih =>
    cases hx : f x with
    | error e => exact .inl ⟨e, (FailsFirst.cons_of_error hx).2 rfl⟩
    | ok y =>
      rcases ih with ⟨e, fails⟩ | fine
      · exact .inl ⟨e, (FailsFirst.cons_of_ok hx).2 fails⟩
      · right
        intro z hz
        rcases List.mem_cons.1 hz with rfl | hz
        · exact ⟨y, hx⟩
        · exact fine z hz

variable {f : α → Except MapperError β} {xs : List α}

/-- Steps taken for all items fail with the error of the first item that has one. -/
theorem mapM_eq_error_iff {e : MapperError} : xs.mapM f = .error e ↔ FailsFirst f xs e := by
  induction xs with
  | nil => exact ⟨nofun, fun h => absurd h FailsFirst.not_nil⟩
  | cons x xs ih =>
    rw [List.mapM_cons]
    cases hx : f x with
    | error g =>
      rw [FailsFirst.cons_of_error hx]
      exact ⟨Except.error.inj, congrArg _⟩
    | ok y =>
      rw [FailsFirst.cons_of_ok hx, ← ih]
      cases xs.mapM f with
      | error g =>
        exact ⟨fun h => congrArg _ (Except.error.inj h), fun h => congrArg _ (Except.error.inj h)⟩
      | ok ys => exact ⟨nofun, nofun⟩

theorem bind_eq_ok_iff {x : Except MapperError α} {g : α → Except MapperError β} {b : β} :
    (x >>= g) = .ok b ↔ ∃ a, x = .ok a ∧ g a = .ok b := by
  cases x <;> simp [bind, Except.bind]

theorem map_eq_ok_iff {x : Except MapperError α} {g : α → β} {b : β} :
    x.map g = .ok b ↔ ∃ a, x = .ok a ∧ g a = b := by
  cases x <;> simp [Except.map]

theorem exists_map_iff {x : Except MapperError α} {g : α → β} :
    (∃ b, x.map g = .ok b) ↔ ∃ a, x = .ok a := by
  cases x <;> simp [Except.map]

theorem mapM_cons_eq_ok {x : α} {ys : List β} :
    (x :: xs).mapM f = .ok ys ↔ ∃ y rest, f x = .ok y ∧ xs.mapM f = .ok rest ∧ ys = y :: rest := by
  rw [List.mapM_cons]
  cases f x with
  | error e => exact ⟨nofun, nofun⟩
  | ok y =>
    cases xs.mapM f with
    | error e => exact ⟨nofun, nofun⟩
    | ok rest =>
      constructor
      · intro h
        exact ⟨y, rest, rfl, rfl, (Except.ok.inj h).symm⟩
      · rintro ⟨y', rest', hy, hrest, rfl⟩
        cases hy
        cases hrest
        rfl

theorem exists_ok_of_mapM {ys : List β} (h : xs.mapM f = .ok ys) {x : α} (mem : x ∈ xs) :
    ∃ y, f x = .ok y := by
  induction xs generalizing ys with
  | nil => cases mem
  | cons z xs ih =>
    obtain ⟨y, rest, hz, hrest, -⟩ := mapM_cons_eq_ok.1 h
    rcases List.mem_cons.1 mem with rfl | mem
    · exact ⟨y, hz⟩
    · exact ih hrest mem

theorem exists_mapM_iff : (∃ ys, xs.mapM f = .ok ys) ↔ ∀ x ∈ xs, ∃ y, f x = .ok y := by
  constructor
  · rintro ⟨ys, h⟩ x mem
    exact exists_ok_of_mapM h mem
  · intro fine
    cases h : xs.mapM f with
    | ok ys => exact ⟨ys, rfl⟩
    | error e =>
      obtain ⟨_, x, _, rfl, -, fails⟩ := mapM_eq_error_iff.1 h
      obtain ⟨y, hy⟩ := fine x (by simp)
      rw [fails] at hy
      cases hy

theorem exists_of_mem_mapM {ys : List β} (h : xs.mapM f = .ok ys) {y : β} (mem : y ∈ ys) :
    ∃ x ∈ xs, f x = .ok y := by
  induction xs generalizing ys with
  | nil =>
    cases h
    cases mem
  | cons x xs ih =>
    obtain ⟨z, rest, hx, hrest, rfl⟩ := mapM_cons_eq_ok.1 h
    rcases List.mem_cons.1 mem with rfl | mem
    · exact ⟨x, List.mem_cons_self .., hx⟩
    · obtain ⟨w, hw, step⟩ := ih hrest mem
      exact ⟨w, List.mem_cons_of_mem _ hw, step⟩

/-- Steps that lead back from every answer lead back from all of them. -/
theorem mapM_back {g : β → Except MapperError α} {ys : List β} (h : xs.mapM f = .ok ys)
    (back : ∀ x ∈ xs, ∀ y, f x = .ok y → g y = .ok x) : ys.mapM g = .ok xs := by
  induction xs generalizing ys with
  | nil =>
    cases h
    rfl
  | cons x xs ih =>
    obtain ⟨y, rest, hx, hrest, rfl⟩ := mapM_cons_eq_ok.1 h
    have tail := ih hrest fun z mem => back z (List.mem_cons_of_mem _ mem)
    exact mapM_cons_eq_ok.2 ⟨x, xs, back x (List.mem_cons_self ..) y hx, tail, rfl⟩

end EntityMapping
