import EntityMapping.Schema.Fields

/-!
The index of paths. A path names an attribute, or goes through attributes that hold objects
to an attribute of these. It leads to the native key of its last attribute, behind the keys
of the nested records on the way; embedded objects have no record of their own and add no
key. A path that ends on objects leads to everything indexed below it, in the order of the
paths, or to the key of the objects where there is nothing below. A type is not entered again
on the way down, so the index is finite.
-/

namespace EntityMapping.Schema

/-- What is written before the native paths below an attribute. -/
def nativePrefix (before : String) (f : MappedField) : String :=
  match f.type with
  | .embedded _ => before
  | _ => before ++ f.key ++ "."

/-- Where a path of objects leads, by what is indexed below it. -/
def composite (before : String) (f : MappedField) (below : Keyed NativePath) : String :=
  if below.isEmpty then before ++ f.key else ",".intercalate (below.map (·.2.native))

/-- Adds the paths of some attributes to an index. `fresh` are the types that may still be
entered, `path` and `native` what stands before paths and native paths. -/
def indexFields (catalog : Catalog) (config : Config) (fresh : List TypeRef)
    (path native : String) (index : Keyed NativePath) :
    List MappedField → Except MapperError (Keyed NativePath)
  | [] => .ok index
  | f :: fs => do
    let here := path ++ f.field
    let index ← (match f.type.element? with
      | none => .ok (index.insert here ⟨native ++ f.key, f⟩)
      | some t => do
        let below ← (
          if _h : t ∈ fresh then do
            let children ← fieldsOf config (catalog.describe t)
            indexFields catalog config (fresh.erase t) (here ++ ".") (nativePrefix native f) []
              children
          else .ok [])
        .ok (below.foldl (fun index (p, n) => index.insert p n)
          (index.insert here ⟨composite native f below, f⟩)))
    indexFields catalog config fresh path native index fs
termination_by fs => (fresh.length, fs.length)
decreasing_by
  · exact .left _ _ (TypeRef.length_erase_lt _h)
  · exact .right _ (by simp)

/-- The paths of a type. -/
def pathIndex (catalog : Catalog) (config : Config) (t : TypeRef) (fs : List MappedField) :
    Except MapperError (Keyed NativePath) :=
  indexFields catalog config (catalog.types.erase t) "" "" [] fs

end EntityMapping.Schema
