import EntityMapping.Proofs.Query.Meaning

/-!
Conditions are composed of what their parts answer. A condition that two are joined to, or that is
negated, answers as its parts joined or negated, whatever trees they are and whether or not they
answer with an error. A comparison with two bounds is two comparisons, and one with some candidates
is one for each of them.
-/

namespace EntityMapping.Condition

variable (mode : Like.Mode) (r : Record)

theorem holds_compare_of_found {key : String} {actual : Value}
    (found : r.findPath key = some actual) (o : Operator) (v : Value) :
    holds mode r (.compare o key v) = relates mode key actual v o := by
  simp only [holds, found]

theorem holds_compare_of_missing {key : String} (missing : r.findPath key = none) (o : Operator)
    (v : Value) : holds mode r (.compare o key v) = .ok false := by
  simp only [holds, missing]

/-- To be between two bounds is to be at least the one and at most the other. -/
theorem holds_between (key : String) (low high : Value) :
    holds mode r (.compare .between key (.list [low, high])) =
      Answer.both (holds mode r (.compare .greaterOrEqual key low))
        (holds mode r (.compare .lessOrEqual key high)) := by
  cases found : r.findPath key with
  | none =>
    simp only [holds_compare_of_missing _ _ found]
    rfl
  | some actual =>
    simp only [holds_compare_of_found _ _ found, relates, Answer.both, Except.bind]
    cases atLeast actual low <;> rfl

theorem holds_isIn_nil (key : String) :
    holds mode r (.compare .isIn key (.list [])) = .ok false := by
  cases found : r.findPath key with
  | none => exact holds_compare_of_missing _ _ found _ _
  | some actual => exact holds_compare_of_found _ _ found _ _

/-- To be one of some candidates is to equal the first one, or one of the others. -/
theorem holds_isIn_cons (key : String) (v : Value) (vs : List Value) :
    holds mode r (.compare .isIn key (.list (v :: vs))) =
      Answer.either (holds mode r (.compare .equals key v))
        (holds mode r (.compare .isIn key (.list vs))) := by
  cases found : r.findPath key with
  | none =>
    simp only [holds_compare_of_missing _ _ found]
    rfl
  | some actual =>
    simp only [holds_compare_of_found _ _ found, relates, Answer.either, Except.bind, List.any_cons]
    cases meets actual v <;> rfl

/-- To be one of some candidates is to equal one of them. -/
theorem holds_isIn (key : String) (vs : List Value) :
    holds mode r (.compare .isIn key (.list vs)) =
      holds mode r (.or (vs.map fun v => .compare .equals key v)) := by
  rw [holds_or]
  induction vs with
  | nil => rw [holds_isIn_nil, List.map_nil, anyHolds]
  | cons v vs ih => rw [holds_isIn_cons, List.map_cons, anyHolds_cons, ih]

/-- Conditions that are joined or negated answer as their answers joined or negated, where the
second of two is looked at only as far as the first leaves the outcome open; a comparison with two
bounds or with some candidates answers as the comparisons with each of them, joined. -/
theorem conditions_answer_as_their_parts :
    (∀ a b : Condition,
      holds mode r (a.both b) = Answer.both (holds mode r a) (holds mode r b)) ∧
    (∀ a b : Condition,
      holds mode r (a.either b) =
        Answer.either (holds mode r a) (holds mode r b)) ∧
    (∀ a : Condition, holds mode r a.negate = Answer.negate (holds mode r a)) ∧
    (∀ (key : String) (low high : Value),
      holds mode r (.compare .between key (.list [low, high])) =
        holds mode r
          (.and [.compare .greaterOrEqual key low, .compare .lessOrEqual key high])) ∧
    (∀ (key : String) (vs : List Value),
      holds mode r (.compare .isIn key (.list vs)) =
        holds mode r (.or (vs.map fun v => .compare .equals key v))) := by
  refine ⟨holds_conjoined mode r, holds_disjoined mode r, holds_negated mode r,
    fun key low high => ?_, holds_isIn mode r⟩
  rw [holds_and_pair, holds_between]

end EntityMapping.Condition
