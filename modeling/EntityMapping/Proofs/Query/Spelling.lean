import EntityMapping.Proofs.AttributeType.Spelling
import EntityMapping.Proofs.Query.Meaning
import Mathlib.Data.List.Forall2

/-!
Texts as arguments of queries. Where a path leads to an attribute of integers or of truth values, a
clause may name a value by any text that spells it: the arguments are brought into the form that the
attribute stores before there is a condition, so the clause is the one with the native values.
Patterns are the exception, they are taken as they are.
-/

namespace EntityMapping

variable {m : Metadata} {cs : Converters} {p : NativePath} {f : MappedField} {t : AttributeType}
  {initial : t.Carrier} {a : QueryArgument} {v : Value} {vs : List Value} {c d : Clause}

/-! ### Arguments -/

/-- An argument stands for the native form of a value: it is that form, or a text that spells the
value. -/
inductive QueryArgument.StandsFor (t : AttributeType) (v : Value) : QueryArgument → Prop where
  | native {x : t.Carrier} (written : t.toValue x = .ok v) : StandsFor t v (.native v)
  | text {x : t.Carrier} {s : String} (written : t.toValue x = .ok v)
      (spells : t.SpelledBy x s) : StandsFor t v (.native (.text s))

theorem QueryArgument.StandsFor.self (stands : StandsFor t v a) : StandsFor t v (.native v) := by
  cases stands with
  | native written => exact .native written
  | text written spells => exact .native written

theorem QueryArgument.standsFor_natives {as : List QueryArgument}
    (stand : List.Forall₂ (StandsFor t) vs as) :
    List.Forall₂ (StandsFor t) vs (vs.map .native) := by
  induction stand with
  | nil => exact .nil
  | cons stands rest ih => exact .cons stands.self ih

theorem QueryArgument.StandsFor.toNative (spelled : t.isSpelled = true)
    (type : f.type = .plain t initial) (stands : StandsFor t v a) : a.toNative cs f = .ok v := by
  have coerces (w : Value) : QueryArgument.toNative cs f (.native w) = t.coerce w :=
    toNative_plain type (AttributeType.single_of_isSpelled spelled).1 cs w
  cases stands with
  | native written =>
    rw [coerces]
    exact AttributeType.coerce_written spelled written
  | text written spells =>
    rw [coerces]
    exact (AttributeType.coerce_text_eq_ok_iff spelled written).2 spells

theorem mapM_of_forall₂ {α β : Type} {f : α → Except MapperError β} {xs : List α} {ys : List β}
    (each : List.Forall₂ (fun y x => f x = .ok y) ys xs) : xs.mapM f = .ok ys := by
  induction each with
  | nil => rfl
  | cons first rest ih => exact mapM_cons_eq_ok.2 ⟨_, _, first, ih, rfl⟩

/-! ### Clauses -/

namespace Clause

def withNatives (c : Clause) (vs : List Value) : Clause := { c with arguments := vs.map .native }

/-- The comparison of what a path leads to with an argument, for equality. -/
def equals (path : String) (a : QueryArgument) : Clause where
  join := .both
  path := path
  operator := .equals
  arguments := [a]

theorem operator_equals_ne (path : String) (a : QueryArgument) :
    (equals path a).operator ≠ .like := nofun

/-- A clause takes an argument as the attribute does that its path leads to. -/
theorem argument_of_indexed (indexed : m.findNative? c.path = some p)
    (noPattern : c.operator ≠ .like) : c.argument m cs a = a.toNative cs p.field := by
  unfold argument
  split
  · exact absurd ‹_› noPattern
  · simp only [indexed]

/-- A clause whose arguments stand for native values compares with these. -/
theorem comparison_of_standsFor (spelled : t.isSpelled = true)
    (indexed : m.findNative? c.path = some p) (type : p.field.type = .plain t initial)
    (noPattern : c.operator ≠ .like)
    (stand : List.Forall₂ (QueryArgument.StandsFor t) vs c.arguments) :
    c.comparison m cs = .ok (.compare c.operator p.native (operand c.operator vs)) := by
  have values : c.arguments.mapM (c.argument m cs) = .ok vs := by
    refine mapM_of_forall₂ (stand.imp fun v a stands => ?_)
    rw [argument_of_indexed indexed noPattern]
    exact stands.toNative spelled type
  have native : m.nativePath c.path = p.native := by
    rw [Metadata.nativePath, indexed]
  rw [comparison, values, native]
  rfl

theorem condition_withNatives (spelled : t.isSpelled = true)
    (indexed : m.findNative? c.path = some p) (type : p.field.type = .plain t initial)
    (noPattern : c.operator ≠ .like)
    (stand : List.Forall₂ (QueryArgument.StandsFor t) vs c.arguments) :
    c.condition m cs = (c.withNatives vs).condition m cs := by
  rw [condition, condition, comparison_of_standsFor spelled indexed type noPattern stand,
    comparison_of_standsFor (c := c.withNatives vs) spelled indexed type noPattern
      (QueryArgument.standsFor_natives stand)]
  rfl

end Clause

/-! ### Queries -/

section Replacing

variable (same : c.condition m cs = d.condition m cs) (join : c.join = d.join)
include same join

/-- A clause may be replaced by one with the same condition, whatever stands before and after. -/
theorem Condition.ofClauses_replace (before after : List Clause) :
    ofClauses m cs (before ++ c :: after) = ofClauses m cs (before ++ d :: after) := by
  have later (built : Option Condition) :
      ofClausesAfter m cs built (before ++ c :: after) =
        ofClausesAfter m cs built (before ++ d :: after) := by
    induction before generalizing built with
    | nil => rw [List.nil_append, List.nil_append, ofClausesAfter, ofClausesAfter, same, join]
    | cons b before ih =>
      rw [List.cons_append, List.cons_append, ofClausesAfter, ofClausesAfter]
      exact bind_congr fun cond => ih _
  rw [ofClauses, ofClauses, later]

theorem DeleteQuery.ofClauses_replace (before after : List Clause) :
    ofClauses m cs (before ++ c :: after) = ofClauses m cs (before ++ d :: after) := by
  rw [ofClauses, ofClauses, Condition.ofClauses_replace same join]

theorem SelectQuery.ofCalls_replace (before after : List QueryCall) :
    ofCalls m cs (before ++ .filter c :: after) = ofCalls m cs (before ++ .filter d :: after) := by
  have clauses (c : Clause) : (before ++ QueryCall.filter c :: after).filterMap QueryCall.clause? =
      before.filterMap QueryCall.clause? ++ c :: after.filterMap QueryCall.clause? := by
    rw [List.filterMap_append]
    rfl
  have applied (c : Clause) (q : SelectQuery) :
      (before ++ QueryCall.filter c :: after).foldl (QueryCall.apply m) q =
        after.foldl (QueryCall.apply m) (before.foldl (QueryCall.apply m) q) := by
    rw [List.foldl_append]
    rfl
  rw [ofCalls, ofCalls, clauses, clauses, Condition.ofClauses_replace same join]
  simp only [applied]

end Replacing

end EntityMapping
