import EntityMapping.Like

/-!
Matching part by part is right: row by row it finds exactly the tails of a text that some parts
match. What parts match is said by a relation that knows of no rows, in which a run of characters
goes as far as it likes but not past a line feed.
-/

namespace EntityMapping.Like

variable {same : Char → Char → Bool} {t : Token} {ts : List Token} {cs : List Char}

/-! ### What parts match -/

theorem matches_nil_iff : Matches same [] cs ↔ cs = [] := by
  constructor
  · intro h
    cases h
    rfl
  · rintro rfl
    exact .nil

theorem matches_literal_cons {c d : Char} :
    Matches same (.literal c :: ts) (d :: cs) ↔ same c d ∧ Matches same ts cs := by
  constructor
  · intro h
    cases h with
    | literal alike rest => exact ⟨alike, rest⟩
  · rintro ⟨alike, rest⟩
    exact .literal alike rest

theorem matches_one_cons {d : Char} :
    Matches same (.one :: ts) (d :: cs) ↔ d ≠ '\n' ∧ Matches same ts cs := by
  constructor
  · intro h
    cases h with
    | one other rest => exact ⟨other, rest⟩
  · rintro ⟨other, rest⟩
    exact .one other rest

theorem matches_run_cons {d : Char} :
    Matches same (.run :: ts) (d :: cs) ↔
      Matches same ts (d :: cs) ∨ d ≠ '\n' ∧ Matches same (.run :: ts) cs := by
  constructor
  · intro h
    cases h with
    | runEnd rest => exact .inl rest
    | runMore other more => exact .inr ⟨other, more⟩
  · rintro (rest | ⟨other, more⟩)
    · exact .runEnd rest
    · exact .runMore other more

theorem matches_run_nil : Matches same (.run :: ts) [] ↔ Matches same ts [] := by
  constructor
  · intro h
    cases h with
    | runEnd rest => exact rest
  · exact .runEnd

/-- A run takes some characters, none of them a line feed. -/
theorem matches_run_iff :
    Matches same (.run :: ts) cs ↔
      ∃ taken rest, cs = taken ++ rest ∧ '\n' ∉ taken ∧ Matches same ts rest := by
  induction cs with
  | nil =>
    rw [matches_run_nil]
    constructor
    · exact fun h => ⟨[], [], rfl, List.not_mem_nil, h⟩
    · rintro ⟨taken, rest, parts, -, matched⟩
      obtain ⟨-, rfl⟩ := List.append_eq_nil_iff.1 parts.symm
      exact matched
  | cons d cs ih =>
    rw [matches_run_cons, ih]
    constructor
    · rintro (matched | ⟨other, taken, rest, rfl, feedless, matched⟩)
      · exact ⟨[], d :: cs, rfl, List.not_mem_nil, matched⟩
      · refine ⟨d :: taken, rest, rfl, ?_, matched⟩
        rw [List.mem_cons, not_or]
        exact ⟨Ne.symm other, feedless⟩
    · rintro ⟨taken, rest, parts, feedless, matched⟩
      cases taken with
      | nil =>
        rw [List.nil_append] at parts
        exact .inl (parts ▸ matched)
      | cons e taken =>
        obtain ⟨rfl, rfl⟩ := List.cons.inj parts
        rw [List.mem_cons, not_or] at feedless
        exact .inr ⟨Ne.symm feedless.1, taken, rest, rfl, feedless.2, matched⟩

/-! ### Rows -/

/-- A row tells for each tail of a text whether some parts match it. -/
inductive Tells (same : Char → Char → Bool) (ts : List Token) : List Bool → List Char → Prop where
  | last {b : Bool} (here : b = true ↔ Matches same ts []) : Tells same ts [b] []
  | step {b : Bool} {row : List Bool} {c : Char} {cs : List Char}
      (here : b = true ↔ Matches same ts (c :: cs)) (behind : Tells same ts row cs) :
      Tells same ts (b :: row) (c :: cs)

@[simp] theorem front_cons (b : Bool) (row : List Bool) : front (b :: row) = b := rfl

theorem Tells.front {row : List Bool} (h : Tells same ts row cs) :
    front row = true ↔ Matches same ts cs := by
  cases h with
  | last here => exact here
  | step here => exact here

theorem tells_lastRow (same : Char → Char → Bool) (cs : List Char) :
    Tells same [] (lastRow cs) cs := by
  induction cs with
  | nil => exact .last ⟨fun _ => .nil, fun _ => rfl⟩
  | cons c cs ih => exact .step ⟨nofun, nofun⟩ ih

/-- A part looks at the row behind it, and a run also at what it has found one character further. -/
theorem Tells.rowBefore {row : List Bool} (h : Tells same ts row cs) (t : Token) :
    Tells same (t :: ts) (rowBefore same t row cs) cs := by
  induction h with
  | last here =>
    refine .last ?_
    cases t with
    | literal c => exact ⟨nofun, nofun⟩
    | one => exact ⟨nofun, nofun⟩
    | run => exact here.trans matches_run_nil.symm
  | step here behind rest =>
    refine .step ?_ rest
    cases t with
    | literal c => simp [matches_literal_cons, behind.front, and_comm]
    | one => simp [matches_one_cons, behind.front, and_comm]
    | run => simp [matches_run_cons, rest.front, and_comm, ← here]

theorem tells_row (same : Char → Char → Bool) (ts : List Token) (cs : List Char) :
    Tells same ts (row same ts cs) cs := by
  induction ts with
  | nil => exact tells_lastRow same cs
  | cons t ts ih => exact ih.rowBefore t

/-- The first place of the rows says whether the parts match the whole text. -/
theorem matchTokens_iff : matchTokens same ts cs = true ↔ Matches same ts cs :=
  (tells_row same ts cs).front

end EntityMapping.Like
