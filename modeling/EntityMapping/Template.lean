import EntityMapping.Conversion.Entity
import EntityMapping.Query.Builder
import EntityMapping.Store.Basic

/-!
A template runs the operations on instances against a store. Every write takes the same way:
the instance becomes a record, the listeners are shown the instance and the record, the store
takes the record, the listeners are shown the record as stored, the record becomes an
instance again, and the listeners are shown that. The first failure ends it. Counting calls
no listener.
-/

namespace EntityMapping

/-- A context and the store that it works on. -/
structure Template where
  context : Context
  store : Store

/-- A step that may change the context and the store. -/
abbrev Persisting := ExceptT MapperError (StateM Template)

/-- How a record is written. -/
inductive WriteMode where
  | insert
  /-- Replaces the records with an equal value under a key. -/
  | update (key : String)
  deriving DecidableEq, Repr

namespace Persisting

/-- A step on the context. -/
def ofMapping {α : Type} (f : Mapping α) : Persisting α := do
  let t ← get
  let (result, context) := f.run t.context
  set { t with context := context }
  match result with
  | .ok x => pure x
  | .error e => throw e

/-- A step on the store. -/
def ofStore {α : Type} (f : Store → Except MapperError α × Store) : Persisting α := do
  let t ← get
  let (result, store) := f t.store
  set { t with store := store }
  match result with
  | .ok x => pure x
  | .error e => throw e

/-- A look-up in the store. -/
def askStore {α : Type} (f : Store → Except MapperError α) : Persisting α :=
  ofStore fun s => (f s, s)

def ofExcept {α : Type} : Except MapperError α → Persisting α
  | .ok x => pure x
  | .error e => throw e

/-! ### Writing -/

/-- Gives a record to the store. -/
def write (t : TypeRef) (r : Record) : WriteMode → Persisting Record
  | .insert => ofStore (·.insert r)
  | .update key =>
    if r.contains key then ofStore (·.update r key)
    else throw (.missingUpdateKey t.name key)

/-- Stores an instance of a type; gives the instance as it is stored. -/
def persist (t : TypeRef) (i : Instance) (mode : WriteMode) : Persisting Instance := do
  let r ← ofMapping (Mapping.toRecord t i)
  ofMapping (Mapping.fire .preMappedEntity (.entity i))
  ofMapping (Mapping.fire .preRecord (.record r))
  let stored ← write t r mode
  ofMapping (Mapping.fire .postRecord (.record stored))
  let j ← ofMapping (Mapping.toEntity t stored)
  ofMapping (Mapping.fire .postMappedEntity (.entity j))
  pure j

def insert (t : TypeRef) (i : Instance) : Persisting Instance := persist t i .insert

/-- The key of the id of an instance of a type, or of the variant that it holds. -/
def idKey (t : TypeRef) (i : Instance) : Persisting String := ofMapping do
  let m ← Mapping.load t
  let j ← Mapping.ofExcept (Environment.concrete m i)
  let m ← Mapping.ofLoading fun _ => Environment.concreteMetadata m j
  let f ← Mapping.ofExcept m.id
  pure f.key

/-- Replaces the stored instances with the id of an instance, or adds the instance. -/
def update (t : TypeRef) (i : Instance) : Persisting Instance := do
  let key ← idKey t i
  persist t i (.update key)

/-! ### Queries -/

/-- Runs a select query and reads every record as an instance of a type. -/
def runSelect (t : TypeRef) (q : SelectQuery) : Persisting (List Instance) := do
  ofMapping (Mapping.fire .preQuery (.query q))
  let rs ← askStore (·.select q)
  rs.mapM fun r => ofMapping (Mapping.toEntity t r)

def runDelete (q : DeleteQuery) : Persisting Nat := do
  ofMapping (Mapping.fire .preDeleteQuery (.deleteQuery q))
  ofStore (·.delete q)

/-- The select query of some calls on a type. -/
def selectQuery (t : TypeRef) (calls : List QueryCall) : Mapping SelectQuery := do
  let m ← Mapping.load t
  Mapping.ofExcept (SelectQuery.ofCalls m (← Mapping.converters) calls)

/-- The delete query of some clauses on a type. -/
def deleteQuery (t : TypeRef) (clauses : List Clause) : Mapping DeleteQuery := do
  let m ← Mapping.load t
  Mapping.ofExcept (DeleteQuery.ofClauses m (← Mapping.converters) clauses)

/-- The instances of a type that some calls ask for. -/
def result (t : TypeRef) (calls : List QueryCall) : Persisting (List Instance) := do
  let q ← ofMapping (selectQuery t calls)
  runSelect t q

/-- The only instance that some calls ask for, if there is one. -/
def single (t : TypeRef) (calls : List QueryCall) : Persisting (Option Instance) := do
  match ← result t calls with
  | [] => pure none
  | [i] => pure (some i)
  | is => throw (.notUnique t.name is.length)

/-- The only instance that some calls ask for, which has to be there. -/
def required (t : TypeRef) (calls : List QueryCall) : Persisting Instance := do
  match ← single t calls with
  | some i => pure i
  | none => throw (.nothingFound t.name)

/-- The first instance that some calls ask for. -/
def first (t : TypeRef) (calls : List QueryCall) : Persisting (Option Instance) := do
  let is ← result t (calls ++ [.limit 1])
  pure is.head?

/-- Deletes the instances of a type that some clauses name; gives their number. -/
def delete (t : TypeRef) (clauses : List Clause) : Persisting Nat := do
  let q ← ofMapping (deleteQuery t clauses)
  runDelete q

/-- The number of stored instances of a type. -/
def count (t : TypeRef) : Persisting Nat := do
  let q ← ofMapping (selectQuery t [])
  askStore (·.count q.name q.condition)

/-! ### Identity -/

/-- The first of some variants that has an id, with its id. -/
def variantId : List TypeRef → Mapping (Option MappedField)
  | [] => pure none
  | v :: vs => do
    let m ← Mapping.load v
    match m.id? with
    | some f => pure (some f)
    | none => variantId vs

/-- The path and the argument by which an id is looked for. A polymorphic type without an id
of its own uses the native key of its first variant that has one. -/
def idLookup (t : TypeRef) (a : QueryArgument) : Mapping (String × QueryArgument) := do
  let m ← Mapping.load t
  match m.id? with
  | some f => pure (f.field, a)
  | none => do
    match ← variantId ((m.polymorphism.map (·.variants)).getD []) with
    | some f => do
      let v ← Mapping.ofExcept (a.toNative (← Mapping.converters) f)
      pure (f.key, .native v)
    | none => throw (.noId m.type.name)

/-- The clause that asks for an id. -/
def idClause (t : TypeRef) (a : QueryArgument) : Mapping Clause := do
  let (path, a) ← idLookup t a
  pure { join := .both, path := path, operator := .equals, arguments := [a] }

/-- The instance of a type with an id, if there is one. -/
def findById (t : TypeRef) (a : QueryArgument) : Persisting (Option Instance) := do
  let c ← ofMapping (idClause t a)
  single t [.filter c]

/-- Deletes the instances of a type with an id; gives their number. -/
def deleteById (t : TypeRef) (a : QueryArgument) : Persisting Nat := do
  let c ← ofMapping (idClause t a)
  delete t [c]

end Persisting

end EntityMapping
