import EntityMapping.Inspect

/-!
Columns: how an attribute is named on both sides. The native name is optional; without it
the metadata chooses one.
-/

namespace EntityMapping

/-- An attribute with its native name and whether it is the id. -/
structure Column where
  field : String
  name : Option String := none
  isId : Bool := false
  deriving DecidableEq, Repr

namespace Column

/-- The column of an attribute, nothing else said. -/
def of (field : String) : Column := { field := field }

def id (c : Column) : Column := { c with isId := true }

def named (c : Column) (name : String) : Column := { c with name := some name }

def inspect (c : Column) : String :=
  Inspect.fields "Column" [("field_name", Text.quoted c.field),
    ("name", Inspect.option (c.name.map Text.quoted)), ("id", Inspect.bool c.isId)]

end Column

end EntityMapping
