import EntityMapping.Keyed
import EntityMapping.Number.Binary

/-!
JSON documents. A number is an integer or a double. The members of an object stand in the
order of their names and each name once; a document in which that holds at every level is
in order.
-/

namespace EntityMapping

/-- A JSON document. -/
inductive Json where
  | null
  | bool (b : Bool)
  | integer (n : Int)
  | double (x : Double)
  | string (s : String)
  | array (items : List Json)
  | object (members : List (String × Json))

namespace Json

instance : Inhabited Json := ⟨.null⟩

mutual

/-- Whether the members of every object are in the order of their names. -/
def InOrder : Json → Prop
  | .array items => ItemsInOrder items
  | .object members => (Keyed.keys members).Pairwise (· < ·) ∧ MembersInOrder members
  | _ => True

def ItemsInOrder : List Json → Prop
  | [] => True
  | j :: rest => j.InOrder ∧ ItemsInOrder rest

def MembersInOrder : List (String × Json) → Prop
  | [] => True
  | (_, j) :: rest => j.InOrder ∧ MembersInOrder rest

end

def get? (j : Json) (name : String) : Option Json :=
  match j with
  | .object members => Keyed.find? name members
  | _ => none

end Json

end EntityMapping
