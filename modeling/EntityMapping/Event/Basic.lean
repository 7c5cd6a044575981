import EntityMapping.Condition
import EntityMapping.Inspect
import EntityMapping.Instance.Basic

/-!
The moments at which listeners are called, and what they are shown: an instance, a record, a
query, or a pair of a key and a value.
-/

namespace EntityMapping

/-- A value under a key of its own. -/
structure KeyValue where
  key : Value
  value : Value

/-- A moment at which listeners are called. -/
inductive Phase where
  /-- A record is about to be written. -/
  | preRecord
  /-- A record was written. -/
  | postRecord
  /-- An instance is about to become a record. -/
  | preEntity
  /-- An instance was made from a record. -/
  | postEntity
  /-- An instance is about to be stored. -/
  | preMappedEntity
  /-- An instance was stored. -/
  | postMappedEntity
  /-- Records are about to be selected. -/
  | preQuery
  /-- Records are about to be deleted. -/
  | preDeleteQuery
  /-- A pair was made of an instance. -/
  | preKeyValue
  /-- A pair is about to become an instance. -/
  | postKeyValue
  /-- An instance is about to become a pair. -/
  | preKeyValueEntity
  /-- An instance was made from a pair. -/
  | postKeyValueEntity
  deriving DecidableEq, Repr

namespace Phase

def all : List Phase :=
  [.preRecord, .postRecord, .preEntity, .postEntity, .preMappedEntity, .postMappedEntity,
    .preQuery, .preDeleteQuery, .preKeyValue, .postKeyValue, .preKeyValueEntity,
    .postKeyValueEntity]

def name : Phase → String
  | .preRecord => "PreRecord"
  | .postRecord => "PostRecord"
  | .preEntity => "PreEntity"
  | .postEntity => "PostEntity"
  | .preMappedEntity => "PreMappedEntity"
  | .postMappedEntity => "PostMappedEntity"
  | .preQuery => "PreQuery"
  | .preDeleteQuery => "PreDeleteQuery"
  | .preKeyValue => "PreKeyValue"
  | .postKeyValue => "PostKeyValue"
  | .preKeyValueEntity => "PreKeyValueEntity"
  | .postKeyValueEntity => "PostKeyValueEntity"

theorem mem_all (p : Phase) : p ∈ all := by cases p <;> decide

end Phase

/-- What a listener is shown. -/
inductive Payload where
  | entity (i : Instance)
  | record (r : Record)
  | query (q : SelectQuery)
  | deleteQuery (q : DeleteQuery)
  | keyValue (p : KeyValue)

namespace Payload

def inspect : Payload → String
  | .entity _ => Inspect.wrapped "Entity" ".."
  | .record r => Inspect.wrapped "Record" r.name
  | .query q => Inspect.wrapped "Query" q.name
  | .deleteQuery q => Inspect.wrapped "DeleteQuery" q.name
  | .keyValue p => Inspect.wrapped "KeyValue" p.key.display

end Payload

end EntityMapping
