import EntityMapping.Schema.Fields

/-!
The keys that share a record. An embedded object writes into the record of its owner, so its
keys have to differ from the keys of the owner and of all that is embedded beside it. No type
may embed itself, directly or through others. The search carries the types that it has not
entered yet on its way down, and ends because they get fewer.
-/

namespace EntityMapping.Schema

/-- Adds the keys of some attributes to those seen before. `fresh` are the types that may
still be entered. -/
def collectKeys (catalog : Catalog) (config : Config) (fresh : List TypeRef)
    (seen : List String) : List MappedField → Except MapperError (List String)
  | [] => .ok seen
  | f :: fs => do
    let seen ← (match f.type with
      | .embedded t =>
        if _h : t ∈ fresh then do
          let children ← fieldsOf config (catalog.describe t)
          collectKeys catalog config (fresh.erase t) seen children
        else .error (.embedsItself t.name f.field)
      | _ => if f.key ∈ seen then .error (.sharedKey f.key) else .ok (seen ++ [f.key]))
    collectKeys catalog config fresh seen fs
termination_by fs => (fresh.length, fs.length)
decreasing_by
  · exact .left _ _ (TypeRef.length_erase_lt _h)
  · exact .right _ (by simp)

/-- The keys of the record of a type. -/
def recordKeys (catalog : Catalog) (config : Config) (t : TypeRef) (fs : List MappedField) :
    Except MapperError (List String) :=
  collectKeys catalog config (catalog.types.erase t) [] fs

end EntityMapping.Schema
