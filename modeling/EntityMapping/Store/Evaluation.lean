import EntityMapping.Condition
import EntityMapping.Error
import EntityMapping.Like

/-!
What conditions mean on records. A record without the key of a comparison never passes it,
and an ordering comparison never holds for null or for values that have no order. A stored
list equals a value if one of its items does. Conjunctions and disjunctions stop at the part
that decides them, so what comes after cannot fail.
-/

namespace EntityMapping.Condition

/-- Equality of a stored value with a given one. -/
def meets (actual expected : Value) : Bool :=
  match actual, expected with
  | .list items, .list _ => Value.list items == expected
  | .list items, _ => items.any (· == expected)
  | _, _ => actual == expected

/-- The order of two values, if both are there and have one. -/
def order? (actual expected : Value) : Option Ordering :=
  if actual.isNull || expected.isNull then none else (actual.compare expected).toOption

def atLeast (actual low : Value) : Bool :=
  match order? actual low with
  | some .gt | some .eq => true
  | _ => false

def atMost (actual high : Value) : Bool :=
  match order? actual high with
  | some .lt | some .eq => true
  | _ => false

/-- Whether a stored value stands in a relation to a given one. `mode` is for patterns. -/
def relates (mode : Like.Mode) (key : String) (actual expected : Value) :
    Operator → Except MapperError Bool
  | .equals => .ok (meets actual expected)
  | .greater => .ok (order? actual expected == some .gt)
  | .greaterOrEqual => .ok (atLeast actual expected)
  | .less => .ok (order? actual expected == some .lt)
  | .lessOrEqual => .ok (atMost actual expected)
  | .like =>
    match actual, expected with
    | .text s, .text pattern => EntityMapping.like mode s pattern
    | _, .text _ => .ok false
    | _, v => .error (.patternNotText v.typeName)
  | .between =>
    match expected with
    | .list [low, high] => .ok (atLeast actual low && atMost actual high)
    | _ => .error (.boundsMissing key)
  | .isIn =>
    match expected with
    | .list candidates => .ok (candidates.any (meets actual ·))
    | _ => .error (.candidatesMissing key)

mutual

/-- Whether a record meets a condition. -/
def holds (mode : Like.Mode) (r : Record) : Condition → Except MapperError Bool
  | .compare o key expected =>
    match r.findPath key with
    | none => .ok false
    | some actual => relates mode key actual expected o
  | .not c => do
    let b ← holds mode r c
    .ok !b
  | .and cs => allHold mode r cs
  | .or cs => anyHolds mode r cs

/-- Whether a record meets all of some conditions, up to the first that it does not meet. -/
def allHold (mode : Like.Mode) (r : Record) : List Condition → Except MapperError Bool
  | [] => .ok true
  | c :: cs => do
    let b ← holds mode r c
    if b then allHold mode r cs else .ok false

/-- Whether a record meets one of some conditions, up to the first that it meets. -/
def anyHolds (mode : Like.Mode) (r : Record) : List Condition → Except MapperError Bool
  | [] => .ok false
  | c :: cs => do
    let b ← holds mode r c
    if b then .ok true else anyHolds mode r cs

end

/-- Whether a record is selected; without a condition it is. -/
def selects (mode : Like.Mode) (r : Record) : Option Condition → Except MapperError Bool
  | none => .ok true
  | some c => c.holds mode r

end EntityMapping.Condition
