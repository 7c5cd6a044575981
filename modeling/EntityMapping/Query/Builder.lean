import EntityMapping.Query.Filter

/-!
Queries on the attributes of a type, call by call. Sorts lead where their paths lead; of
several skips and limits the last one counts.
-/

namespace EntityMapping

/-- A call that extends a query. -/
inductive QueryCall where
  | filter (c : Clause)
  | sort (path : String) (direction : Direction)
  | skip (n : Nat)
  | limit (n : Nat)

namespace QueryCall

def clause? : QueryCall → Option Clause
  | .filter c => some c
  | _ => none

/-- What a call does to a select query, conditions apart. -/
def apply (m : Metadata) (q : SelectQuery) : QueryCall → SelectQuery
  | .filter _ => q
  | .sort path d => { q with sorts := q.sorts ++ [⟨m.nativePath path, d⟩] }
  | .skip n => { q with skip := n }
  | .limit n => { q with limit := n }

end QueryCall

namespace SelectQuery

def ofCalls (m : Metadata) (cs : Converters) (calls : List QueryCall) :
    Except MapperError SelectQuery := do
  let condition ← Condition.ofClauses m cs (calls.filterMap QueryCall.clause?)
  .ok (calls.foldl (QueryCall.apply m) { name := m.name, condition := condition })

end SelectQuery

namespace DeleteQuery

def ofClauses (m : Metadata) (cs : Converters) (clauses : List Clause) :
    Except MapperError DeleteQuery := do
  let condition ← Condition.ofClauses m cs clauses
  .ok { name := m.name, condition := condition }

end DeleteQuery

end EntityMapping
