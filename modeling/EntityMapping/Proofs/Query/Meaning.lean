import EntityMapping.Proofs.FirstFailure
import EntityMapping.Query.Builder
import EntityMapping.Store.Evaluation

/-!
What the calls of a query builder mean. A condition is built by joining and negating trees, where
a conjunction takes in its right side as a last part and a negation takes off another one. On a
record it answers as if every call were asked by itself, from the left, and the answers joined as
the calls say: the second of two answers is looked at only where the first leaves the outcome
open, and an error that is met stays. The mark of a variant is asked for last.
-/

namespace EntityMapping

/-! ### Answers -/

abbrev Answer := Except MapperError Bool

namespace Answer

/-- Yes if both are; the second one is asked only after a yes. -/
def both (a b : Answer) : Answer := a.bind fun x => if x then b else .ok false

/-- Yes if one is; the second one is asked only after a no. -/
def either (a b : Answer) : Answer := a.bind fun x => if x then .ok true else b

def negate (a : Answer) : Answer := a.map (!·)

/-- Joins an answer to what was asked before it. -/
def join (before : Option Answer) (j : Join) (a : Answer) : Answer :=
  match before, j with
  | none, _ => a
  | some b, .both => b.both a
  | some b, .either => b.either a

@[simp] theorem negate_negate (a : Answer) : a.negate.negate = a := by
  cases a with
  | error e => rfl
  | ok x => simp [negate, Except.map]

theorem both_assoc (a b c : Answer) : (a.both b).both c = a.both (b.both c) := by
  rcases a with e | x
  · rfl
  · cases x <;> rfl

theorem either_assoc (a b c : Answer) : (a.either b).either c = a.either (b.either c) := by
  rcases a with e | x
  · rfl
  · cases x <;> rfl

theorem eq_yes_of_both {a b : Answer} (h : a.both b = .ok true) : b = .ok true := by
  rcases a with e | x
  · cases h
  · cases x
    · cases h
    · exact h

end Answer

/-! ### Conditions -/

namespace Condition

variable (mode : Like.Mode) (r : Record)

theorem holds_not (c : Condition) :
    holds mode r (.not c) = Answer.negate (holds mode r c) := by
  rw [holds]
  cases holds mode r c <;> rfl

theorem holds_and (cs : List Condition) :
    holds mode r (.and cs) = allHold mode r cs := by rw [holds]

theorem holds_or (cs : List Condition) :
    holds mode r (.or cs) = anyHolds mode r cs := by rw [holds]

theorem allHold_cons (c : Condition) (cs : List Condition) :
    allHold mode r (c :: cs) =
      Answer.both (holds mode r c) (allHold mode r cs) := by
  rw [allHold]
  rfl

theorem anyHolds_cons (c : Condition) (cs : List Condition) :
    anyHolds mode r (c :: cs) =
      Answer.either (holds mode r c) (anyHolds mode r cs) := by
  rw [anyHolds]
  rfl

theorem allHold_singleton (c : Condition) : allHold mode r [c] = holds mode r c := by
  rw [allHold_cons, allHold]
  rcases holds mode r c with e | x
  · rfl
  · cases x <;> rfl

theorem anyHolds_singleton (c : Condition) : anyHolds mode r [c] = holds mode r c := by
  rw [anyHolds_cons, anyHolds]
  rcases holds mode r c with e | x
  · rfl
  · cases x <;> rfl

theorem allHold_append (cs ds : List Condition) :
    allHold mode r (cs ++ ds) =
      Answer.both (allHold mode r cs) (allHold mode r ds) := by
  induction cs with
  | nil =>
    rw [List.nil_append, allHold]
    rfl
  | cons c cs ih => rw [List.cons_append, allHold_cons, allHold_cons, ih, Answer.both_assoc]

theorem anyHolds_append (cs ds : List Condition) :
    anyHolds mode r (cs ++ ds) =
      Answer.either (anyHolds mode r cs) (anyHolds mode r ds) := by
  induction cs with
  | nil =>
    rw [List.nil_append, anyHolds]
    rfl
  | cons c cs ih => rw [List.cons_append, anyHolds_cons, anyHolds_cons, ih, Answer.either_assoc]

theorem holds_and_pair (c d : Condition) :
    holds mode r (.and [c, d]) = Answer.both (holds mode r c) (holds mode r d) := by
  rw [holds_and, allHold_cons, allHold_singleton]

theorem holds_or_pair (c d : Condition) :
    holds mode r (.or [c, d]) = Answer.either (holds mode r c) (holds mode r d) := by
  rw [holds_or, anyHolds_cons, anyHolds_singleton]

theorem holds_negated (c : Condition) :
    holds mode r c.negate = Answer.negate (holds mode r c) := by
  cases c with
  | not inner => rw [negate, holds_not, Answer.negate_negate]
  | compare o k v => exact holds_not ..
  | and parts => exact holds_not ..
  | or parts => exact holds_not ..

theorem holds_conjoined (c d : Condition) :
    holds mode r (c.both d) = Answer.both (holds mode r c) (holds mode r d) := by
  cases c with
  | and parts => rw [both, holds_and, holds_and, allHold_append, allHold_singleton]
  | compare o k v => exact holds_and_pair ..
  | not inner => exact holds_and_pair ..
  | or parts => exact holds_and_pair ..

theorem holds_disjoined (c d : Condition) :
    holds mode r (c.either d) = Answer.either (holds mode r c) (holds mode r d) := by
  cases c with
  | or parts => rw [either, holds_or, holds_or, anyHolds_append, anyHolds_singleton]
  | compare o k v => exact holds_or_pair ..
  | not inner => exact holds_or_pair ..
  | and parts => exact holds_or_pair ..

theorem holds_join (before : Option Condition) (j : Join) (c : Condition) :
    holds mode r (join before j c) =
      Answer.join (before.map (holds mode r)) j (holds mode r c) := by
  cases before with
  | none => rfl
  | some b =>
    cases j with
    | both => exact holds_conjoined ..
    | either => exact holds_disjoined ..

end Condition

/-! ### Calls -/

theorem QueryArgument.toNative_plain {f : MappedField} {t : AttributeType} {initial : t.Carrier}
    (type : f.type = .plain t initial) (single : t.shape = .scalar) (cs : Converters) (v : Value) :
    QueryArgument.toNative cs f (.native v) = t.coerce v := by
  have converter : f.converter? = none := by rw [MappedField.converter?, type]; rfl
  have kind : f.kind = .plain := by
    rw [MappedField.kind, type, FieldType.kind, single]
    rfl
  have coerce : f.coerce v = t.coerce v := by rw [MappedField.coerce, type]
  unfold QueryArgument.toNative
  simp only [converter, kind, coerce, ↓reduceIte]

namespace Clause

variable (m : Metadata) (converters : Converters)

def values (c : Clause) : Except MapperError (List Value) :=
  c.arguments.mapM (c.argument m converters)

variable (mode : Like.Mode) (r : Record)

/-- What a clause asks of a record by itself. -/
def ask (c : Clause) : Answer := do
  let vs ← c.values m converters
  let plain := Condition.compare c.operator (m.nativePath c.path) (operand c.operator vs)
  if c.negations % 2 = 1 then Answer.negate (plain.holds mode r)
  else plain.holds mode r

/-- What some clauses ask after others, joined from the left. -/
def askAfter (before : Option Answer) (clauses : List Clause) : Option Answer :=
  clauses.foldl (fun before c => Answer.join before c.join (c.ask m converters mode r)) before

/-- What the calls of a builder ask of a record; a variant asks for its mark last. -/
def askAll (clauses : List Clause) : Answer :=
  let asked := askAfter m converters mode r none clauses
  match m.binding with
  | none => asked.getD (.ok true)
  | some b => Answer.join asked .both ((Condition.ofBinding b).holds mode r)

variable {m converters}

/-- A clause cannot be used exactly if its arguments have no native form. -/
theorem condition_eq_error {c : Clause} {e : MapperError} :
    c.condition m converters = .error e ↔ c.values m converters = .error e := by
  rw [condition, comparison, ← values]
  cases c.values m converters with
  | error _ => constructor <;> (intro h; cases h; rfl)
  | ok vs => exact ⟨nofun, nofun⟩

theorem exists_values_of_condition {c : Clause} {cond : Condition}
    (h : c.condition m converters = .ok cond) : ∃ vs, c.values m converters = .ok vs := by
  cases hv : c.values m converters with
  | error e => rw [condition_eq_error.2 hv] at h; cases h
  | ok vs => exact ⟨vs, rfl⟩

theorem holds_condition {c : Clause} {cond : Condition}
    (h : c.condition m converters = .ok cond) :
    cond.holds mode r = c.ask m converters mode r := by
  obtain ⟨vs, hv⟩ := exists_values_of_condition h
  rw [condition, comparison, ← values, hv] at h
  rw [ask, hv]
  cases h
  change Condition.holds mode r (if c.negations % 2 = 1 then _ else _) =
    (if c.negations % 2 = 1 then _ else _)
  split
  · exact Condition.holds_negated ..
  · rfl

end Clause

namespace Condition

variable {m : Metadata} {converters : Converters}

/-- The first clause that cannot be used decides, whatever came before. -/
theorem ofClausesAfter_eq_error {before : Option Condition} {clauses : List Clause}
    {e : MapperError} :
    ofClausesAfter m converters before clauses = .error e ↔
      FailsFirst (Clause.values m converters) clauses e := by
  induction clauses generalizing before with
  | nil => exact ⟨nofun, fun h => absurd h FailsFirst.not_nil⟩
  | cons c clauses ih =>
    rw [ofClausesAfter]
    cases hc : c.condition m converters with
    | error f =>
      rw [FailsFirst.cons_of_error (Clause.condition_eq_error.1 hc)]
      constructor <;> (intro h; cases h; rfl)
    | ok cond =>
      obtain ⟨vs, hv⟩ := Clause.exists_values_of_condition hc
      rw [FailsFirst.cons_of_ok hv]
      exact ih

/-- One clause after the other, the condition keeps answering what has been asked so far. -/
theorem holds_ofClausesAfter {before built : Option Condition} {clauses : List Clause}
    (h : ofClausesAfter m converters before clauses = .ok built) (mode : Like.Mode) (r : Record) :
    built.map (holds mode r) =
      Clause.askAfter m converters mode r (before.map (holds mode r)) clauses := by
  induction clauses generalizing before with
  | nil =>
    cases h
    rfl
  | cons c clauses ih =>
    rw [ofClausesAfter] at h
    cases hc : c.condition m converters with
    | error f => rw [hc] at h; cases h
    | ok cond =>
      rw [hc] at h
      have next := ih h
      rw [Option.map_some, holds_join, Clause.holds_condition mode r hc] at next
      exact next

theorem selects_marked (m : Metadata) (c : Option Condition) (mode : Like.Mode) (r : Record) :
    selects mode r (marked m c) =
      match m.binding with
      | none => (c.map (holds mode r)).getD (.ok true)
      | some b =>
        Answer.join (c.map (holds mode r)) .both ((ofBinding b).holds mode r) := by
  rw [marked]
  cases m.binding with
  | none => cases c <;> rfl
  | some b => exact holds_join ..

/-- The outcome of building a condition is what some calls stand for: it fails exactly as the
first call that cannot be used, else the condition answers as the calls ask, and one on a variant
is met by no record without the mark of the variant. -/
structure Means (m : Metadata) (converters : Converters) (clauses : List Clause)
    (built : Except MapperError (Option Condition)) : Prop where
  fails : ∀ e, built = .error e ↔ FailsFirst (Clause.values m converters) clauses e
  answers : ∀ c, built = .ok c → ∀ mode r,
    selects mode r c = Clause.askAll m converters mode r clauses
  guarded : ∀ c, built = .ok c → ∀ b, m.binding = some b → ∀ mode r,
    selects mode r c = .ok true → (ofBinding b).holds mode r = .ok true

theorem ofClauses_means (m : Metadata) (converters : Converters) (clauses : List Clause) :
    Means m converters clauses (ofClauses m converters clauses) := by
  have answers : ∀ c, ofClauses m converters clauses = .ok c → ∀ mode r,
      selects mode r c = Clause.askAll m converters mode r clauses := by
    intro c h mode r
    rw [ofClauses] at h
    cases hb : ofClausesAfter m converters none clauses with
    | error e => rw [hb] at h; cases h
    | ok built =>
      rw [hb] at h
      cases h
      rw [selects_marked, holds_ofClausesAfter hb]
      rfl
  refine ⟨fun e => ?_, answers, fun c h b hb mode r yes => ?_⟩
  · rw [ofClauses, ← ofClausesAfter_eq_error]
    cases ofClausesAfter m converters none clauses <;> simp [Except.map]
  · rw [answers c h, Clause.askAll, hb] at yes
    -- The mark is the right side of the last join, so a yes needs it.
    cases asked : Clause.askAfter m converters mode r none clauses with
    | none => rw [asked] at yes; exact yes
    | some a => rw [asked] at yes; exact Answer.eq_yes_of_both yes

end Condition

/-! ### Builders -/

theorem SelectQuery.condition_foldl_apply (m : Metadata) (q : SelectQuery)
    (calls : List QueryCall) : (calls.foldl (QueryCall.apply m) q).condition = q.condition := by
  induction calls generalizing q with
  | nil => rfl
  | cons call calls ih =>
    rw [List.foldl_cons, ih]
    cases call <;> rfl

theorem SelectQuery.condition_ofCalls (m : Metadata) (converters : Converters)
    (calls : List QueryCall) :
    (SelectQuery.ofCalls m converters calls).map (·.condition) =
      Condition.ofClauses m converters (calls.filterMap QueryCall.clause?) := by
  rw [SelectQuery.ofCalls]
  cases Condition.ofClauses m converters (calls.filterMap QueryCall.clause?) with
  | error e => rfl
  | ok c => exact congrArg Except.ok (condition_foldl_apply m _ calls)

theorem DeleteQuery.condition_ofClauses (m : Metadata) (converters : Converters)
    (clauses : List Clause) :
    (DeleteQuery.ofClauses m converters clauses).map (·.condition) =
      Condition.ofClauses m converters clauses := by
  rw [DeleteQuery.ofClauses]
  cases Condition.ofClauses m converters clauses <;> rfl

/-- A select query and a delete query mean what their calls say, whatever else is called between
the clauses of a select. -/
theorem queries_mean_their_calls (m : Metadata) (converters : Converters) :
    (∀ calls : List QueryCall, Condition.Means m converters (calls.filterMap QueryCall.clause?)
      ((SelectQuery.ofCalls m converters calls).map (·.condition))) ∧
    (∀ clauses : List Clause, Condition.Means m converters clauses
      ((DeleteQuery.ofClauses m converters clauses).map (·.condition))) := by
  constructor
  · intro calls
    rw [SelectQuery.condition_ofCalls]
    exact Condition.ofClauses_means ..
  · intro clauses
    rw [DeleteQuery.condition_ofClauses]
    exact Condition.ofClauses_means ..

end EntityMapping
