import EntityMapping.Record

/-!
Conditions on records: comparisons of the value at a key with a given one, and their
negations, conjunctions and disjunctions. Joining extends a conjunction or disjunction in
place, and negating a negation takes it off.
-/

namespace EntityMapping

/-- How a stored value is compared. -/
inductive Operator where
  | equals
  | greater
  | greaterOrEqual
  | less
  | lessOrEqual
  | like
  | between
  | isIn
  deriving DecidableEq, Repr

namespace Operator

/-- The sign of an operator in the text of a condition. -/
def sign : Operator → String
  | .equals => "="
  | .greater => ">"
  | .greaterOrEqual => ">="
  | .less => "<"
  | .lessOrEqual => "<="
  | .like => "LIKE"
  | .between => "BETWEEN"
  | .isIn => "IN"

end Operator

inductive Condition where
  | compare (operator : Operator) (key : String) (value : Value)
  | not (inner : Condition)
  | and (parts : List Condition)
  | or (parts : List Condition)

namespace Condition

instance : Inhabited Condition := ⟨.and []⟩

/-! ### Building -/

def negate : Condition → Condition
  | .not inner => inner
  | c => .not c

/-- Both conditions; a conjunction takes the second one in as its last part. -/
def both : Condition → Condition → Condition
  | .and parts, c => .and (parts ++ [c])
  | first, c => .and [first, c]

/-- Either condition; a disjunction takes the second one in as its last part. -/
def either : Condition → Condition → Condition
  | .or parts, c => .or (parts ++ [c])
  | first, c => .or [first, c]

/-! ### Equality and text -/

mutual

def same : Condition → Condition → Bool
  | .compare o k v, .compare p l w => o == p && k == l && v == w
  | .not c, .not d => same c d
  | .and cs, .and ds => allSame cs ds
  | .or cs, .or ds => allSame cs ds
  | _, _ => false

def allSame : List Condition → List Condition → Bool
  | [], [] => true
  | c :: cs, d :: ds => same c d && allSame cs ds
  | _, _ => false

end

instance : BEq Condition := ⟨same⟩

mutual

def display : Condition → String
  | .compare o k v => k ++ " " ++ o.sign ++ " " ++ v.display
  | .not c => "NOT (" ++ c.display ++ ")"
  | .and cs => " AND ".intercalate (partTexts cs)
  | .or cs => " OR ".intercalate (partTexts cs)

def partTexts : List Condition → List String
  | [] => []
  | c :: cs => ("(" ++ c.display ++ ")") :: partTexts cs

end

instance : ToString Condition := ⟨display⟩

end Condition

/-! ### Queries -/

inductive Direction where
  | ascending
  | descending
  deriving DecidableEq, Repr

structure SortKey where
  name : String
  direction : Direction
  deriving DecidableEq, Repr

/-- What to select from the records of a name; a limit of zero is none. -/
structure SelectQuery where
  name : String
  condition : Option Condition := none
  sorts : List SortKey := []
  skip : Nat := 0
  limit : Nat := 0

/-- What to delete from the records of a name. -/
structure DeleteQuery where
  name : String
  condition : Option Condition := none

end EntityMapping
