import EntityMapping.Condition
import EntityMapping.Schema.Metadata

/-!
Conditions on the attributes of a type. A clause compares what a path of attributes leads to
with arguments, which are brought into the form that the attribute stores. Clauses join from
the left; the first clause whose arguments cannot be converted decides that there is no
condition. A condition on a variant ends with its discriminator.
-/

namespace EntityMapping

inductive QueryArgument where
  | native (v : Value)
  | attribute (a : Attribute)

namespace QueryArgument

/-- The native value of an argument for an attribute: through the converter of the attribute,
or in the form that a plain attribute of one value stores. -/
def toNative (cs : Converters) (f : MappedField) (a : QueryArgument) : Except MapperError Value :=
  match a, f.converter? with
  | .attribute a, some r => do
    let k ← cs.get r
    k.toNative a
  | .attribute _, none => .error (.attributeForPlainField f.field)
  | .native v, some _ => .ok v
  | .native v, none => if f.kind = .plain then f.coerce v else .ok v

end QueryArgument

/-- How a clause joins those before it. -/
inductive Join where
  | both
  | either
  deriving DecidableEq, Repr

/-- A comparison of what a path leads to. -/
structure Clause where
  join : Join
  path : String
  /-- How often the comparison is negated. -/
  negations : Nat := 0
  operator : Operator
  arguments : List QueryArgument

namespace Clause

/-- The native value of an argument of a clause. Patterns are taken as they are. -/
def argument (m : Metadata) (cs : Converters) (c : Clause) (a : QueryArgument) :
    Except MapperError Value :=
  match c.operator, a with
  | .like, .native v => .ok v
  | _, a =>
    match m.findNative? c.path, a with
    | some p, a => a.toNative cs p.field
    | none, .native v => .ok v
    | none, .attribute _ => .error (.unknownPath c.path m.name)

/-- What a clause compares with: a list where the operator asks for one. -/
def operand (o : Operator) (vs : List Value) : Value :=
  match o with
  | .between | .isIn => .list vs
  | _ => vs.getLast?.getD .null

def comparison (m : Metadata) (cs : Converters) (c : Clause) : Except MapperError Condition := do
  let vs ← c.arguments.mapM (c.argument m cs)
  .ok (.compare c.operator (m.nativePath c.path) (operand c.operator vs))

def condition (m : Metadata) (cs : Converters) (c : Clause) : Except MapperError Condition := do
  let cond ← c.comparison m cs
  .ok (if c.negations % 2 = 1 then cond.negate else cond)

end Clause

namespace Condition

def join (before : Option Condition) (j : Join) (c : Condition) : Condition :=
  match before, j with
  | none, _ => c
  | some b, .both => b.both c
  | some b, .either => b.either c

/-- The condition that marks the records of a variant. -/
def ofBinding (b : VariantBinding) : Condition :=
  .compare .equals b.column (.text b.discriminator)

/-- A condition with the mark of the variant, if there is one. -/
def marked (m : Metadata) (c : Option Condition) : Option Condition :=
  match m.binding with
  | none => c
  | some b => some (Condition.join c .both (ofBinding b))

/-- Joins the conditions of clauses from the left. -/
def ofClausesAfter (m : Metadata) (cs : Converters) (before : Option Condition) :
    List Clause → Except MapperError (Option Condition)
  | [] => .ok before
  | c :: rest => do
    let cond ← c.condition m cs
    ofClausesAfter m cs (some (Condition.join before c.join cond)) rest

def ofClauses (m : Metadata) (cs : Converters) (clauses : List Clause) :
    Except MapperError (Option Condition) :=
  (ofClausesAfter m cs none clauses).map (marked m)

end Condition

end EntityMapping
