import EntityMapping.Proofs.Template.ById

/-!
Reading what was written. What is updated is found and deleted by its id if the key of the id has no
point in it, so that it is a path as well; if no path through objects is spelled like the attribute,
so that the query leads to the key; if nothing else in the record writes the key; and if no record
lists the id, since a query takes a list for each of its items. Tickets that fail one of these are
updated and then not found.
-/

namespace EntityMapping

open Effect Environment Registry Schema

variable {env : Environment} {R : Registry} {ev : Events} {s : Store} {t : TypeRef} {m : Metadata}
  {f : MappedField} {v : Value} {x : Instance} {r : Record}

/-! ### Reading what was written -/

/-- An instance is to be updated and looked for: its type is loaded and neither polymorphic nor a
variant, its id has a value that is not null and without doubles, at most one record in the store
has this id, and no listener refuses anything. -/
structure Addressable (env : Environment) (valid : Attribute → Prop) (tp : Template) (t : TypeRef)
    (m : Metadata) (f : MappedField) (i : Instance) (v : Value) : Prop where
  used : Mapping.Used env tp.context
  willing : tp.context.events.Willing
  loaded : tp.context.registry.find? t = some m
  single : m.isPolymorphic = false
  unbound : m.binding = none
  isId : m.id? = some f
  leaf : f.type.element? = none
  conforms : Conforms env valid t i
  value : ValueAt env i [f] v
  notNull : v ≠ .null
  floatFree : v.FloatFree
  sole : ((tp.store.records m.name).filter (Store.identifiedBy f.key v)).length ≤ 1

/-- An instance is found by an id, deleted by it as the only one, and then no longer found. -/
def FoundById (tp : Template) (t : TypeRef) (v : Value) (x : Instance) : Prop :=
  ∃ tp₁ tp₂ tp₃, (Persisting.findById t (.native v)).run tp = (.ok (some x), tp₁) ∧
    (Persisting.deleteById t (.native v)).run tp₁ = (.ok 1, tp₂) ∧
    (Persisting.findById t (.native v)).run tp₂ = (.ok none, tp₃)

/-- The only record with an id is found, deleted, and no longer found. -/
theorem foundById_of_one (h : Identifies env R t m f v) (willing : ev.Willing)
    (one : (s.records m.name).filter (Store.answersTo f.key v) = [r])
    (read : (env.read m r.elements).run R = (.ok x, R)) :
    FoundById ⟨⟨env, R, ev⟩, s⟩ t v x := by
  obtain ⟨ev₁, found, willing₁⟩ := Persisting.run_findById_of_one h willing one read
  obtain ⟨ev₂, s', deleted, willing₂, left⟩ := Persisting.run_deleteById (s := s) h willing₁
  have absent : (s'.records m.name).filter (Store.answersTo f.key v) = [] := by
    rw [left, List.filter_filter, List.filter_eq_nil_iff]
    simp
  obtain ⟨ev₃, missing, -⟩ := Persisting.run_findById_of_none h willing₂ absent
  rw [one] at deleted
  exact ⟨_, _, _, found, deleted, missing⟩

/-- What was updated is found by its id, whatever else is in the store, if the key of the id has no
point, no path through objects is spelled like the id, nothing else in the record of the instance
writes the key, and no stored record lists the id. -/
theorem updated_instance_found_by_id (env : Environment) (valid : Attribute → Prop)
    (tp tp' : Template) (t : TypeRef) (m : Metadata) (f : MappedField) (i x : Instance) (v : Value)
    (h : Addressable env valid tp t m f i v) (plain : '.' ∉ f.key.toList)
    (distinctive : Distinctive env.catalog env.config t f) (clear : ¬ Hidden env i [f])
    (unlisted : ∀ r ∈ tp.store.records m.name, ¬ Store.ListsId f.key v r)
    (run : (Persisting.update t i).run tp = (.ok x, tp')) : FoundById tp' t v x := by
  have build := h.used.2.consistent.build_find? h.loaded
  have built := built_of_build build
  have single := built.isPolymorphic.symm.trans h.single
  have mem : f ∈ m.fields := List.mem_of_find?_eq_some h.isId
  have written : WrittenAs env t i t i := by
    rw [WrittenAs, single]
    exact ⟨rfl, rfl⟩
  -- The record that is written has the value under the key, and is upserted by it.
  obtain ⟨⟨e, failed⟩, -⟩ | ⟨g, r, w, isId, ⟨es, under, record⟩, found, upserted, c, used, last⟩ :=
    Persisting.run_update h.used written build
      (yields_id build single h.conforms mem h.leaf h.value h.notNull clear) run
  · cases failed
  cases h.isId.symm.trans isId
  obtain rfl : w = v := by
    rw [record, Record.find?_ofElements, Metadata.marks, h.unbound, Option.map_none,
      Option.toList_none, List.append_nil, under] at found
    exact (Option.some.inj found).symm
  have own : Store.identifiedBy f.key w r = true := by
    rw [Store.identifiedBy, found]
    exact h.floatFree.equals_self
  have rows : tp'.store.records m.name =
      Store.upsert f.key w r (tp.store.records m.name) := by
    rw [upserted, Store.records_setRecords, if_pos rfl]
  have one : (tp'.store.records m.name).filter (Store.answersTo f.key w) = [r] := by
    rw [rows, ← Store.filter_upsert own h.sole]
    refine List.filter_congr fun s inside => Store.answersTo_eq_identifiedBy ?_
    rcases Store.mem_upsert inside with rfl | there
    · rintro ⟨noList, items, list, -⟩
      rw [found] at list
      exact noList items (Option.some.inj list)
    · exact unlisted s there
  -- It has been read once, and is read again as the same instance.
  obtain ⟨m', R, ev, shape, consistent, loaded, read⟩ := Persisting.confirm_eq_ok used last
  have same : m' = m := Except.ok.inj ((consistent.build_find? loaded).symm.trans build)
  subst same
  have willing : tp'.context.events.Willing := by
    have kept : ((Persisting.update t i).run tp).2.context.events.Willing :=
      Persisting.keeps_update (Mapping.lasting_willing env) t i tp h.willing
    rwa [run] at kept
  have identifies : Identifies env R t m' f w :=
    { loaded, unbound := h.unbound, isId := h.isId,
      entry := built.findNative?_field mem h.leaf distinctive, plain,
      native := toNative_of_valueAt built single h.conforms mem h.value h.notNull }
  rw [shape] at willing ⊢
  exact foundById_of_one identifies willing one read

/-! ### Tickets -/

namespace Ticketing

def ticket : TypeRef := ⟨0, "Ticket"⟩

def seat : TypeRef := ⟨1, "Seat"⟩

def guest : TypeRef := ⟨2, "Guest"⟩

def adult : TypeRef := ⟨3, "Adult"⟩

/-- Tickets with some attributes, which may hold seats and guests. -/
def environment (config : Config) (fields : List Field) : Environment where
  catalog := {
    valueName := "Value"
    descriptors := [
      { name := "Ticket", type := ticket, suppliesInstances := true, fields },
      { name := "Seat", type := seat, suppliesInstances := true
        fields := [⟨.of "row", .plain .int64 (0 : Int64)⟩] },
      { name := "Guest", type := guest, polymorphism := some (some "_id"), variants := [adult] },
      { name := "Adult", type := adult, suppliesInstances := true
        inheritance := some ⟨guest, "adult"⟩ }] }
  config

def start (env : Environment) : Template :=
  ⟨{ environment := env, registry := ((env.load ticket).run {}).2 }, {}⟩

theorem used_start (env : Environment) : Mapping.Used env (start env).context :=
  ⟨rfl, .load .empty ticket⟩

def idField (key field : String) (type : FieldType) : MappedField where
  key := key
  field := field
  isId := true
  type := type
  owner := ticket

def numbers (config : Config) (type : AttributeType) : Environment :=
  environment config [⟨(Column.of "number").id, .plain type type.blank⟩]

def numbered (type : AttributeType) (x : type.Carrier) : Instance :=
  .mk ticket [("number", .plain type x)] none

def numberField (key : String) (type : AttributeType) : MappedField :=
  idField key "number" (.plain type type.blank)

theorem declared_numbers (config : Config) (type : AttributeType) :
    declared (numbers config type).catalog config ticket = [numberField config.idColumn type] := rfl

theorem conforms_numbered (config : Config) (type : AttributeType) (x : type.Carrier) :
    Conforms (numbers config type) (fun _ => True) ticket (numbered type x) :=
  .concrete rfl (.cons (.plain x) .nil)

def loadedTicket (R : Registry) :
    Option (String × Bool × Option VariantBinding × Option MappedField) :=
  (R.find? ticket).map fun m => (m.name, m.isPolymorphic, m.binding, m.id?)

theorem exists_addressable {env : Environment} {tp : Template} {i : Instance} {f : MappedField}
    {v : Value} (used : Mapping.Used env tp.context) (willing : tp.context.events.Willing)
    (loaded : loadedTicket tp.context.registry = some ("Ticket", false, none, some f))
    (few : (tp.store.records "Ticket").length ≤ 1) (leaf : f.type.element? = none)
    (conforms : Conforms env (fun _ => True) ticket i) (value : ValueAt env i [f] v)
    (notNull : v ≠ .null) (floatFree : v.FloatFree) :
    ∃ m, Addressable env (fun _ => True) tp ticket m f i v := by
  obtain ⟨m, loaded, same⟩ := Option.map_eq_some_iff.1 loaded
  simp only [Prod.mk.injEq] at same
  obtain ⟨name, single, unbound, isId⟩ := same
  have sole : ((tp.store.records m.name).filter (Store.identifiedBy f.key v)).length ≤ 1 := by
    rw [name]
    exact Nat.le_trans (List.length_filter_le ..) few
  exact ⟨m, used, willing, loaded, single, unbound, isId, leaf, conforms, value, notNull, floatFree,
    sole⟩

end Ticketing

open Ticketing in
theorem updated_instance_found_by_id_ticket :
    ∃ m x tp', Addressable (numbers {} .int64) (fun _ => True) (start (numbers {} .int64)) ticket m
        (numberField "_id" .int64) (numbered .int64 (5 : Int64)) (.integer 5) ∧
      (Persisting.update ticket (numbered .int64 (5 : Int64))).run (start (numbers {} .int64)) =
        (.ok x, tp') ∧
      FoundById tp' ticket (.integer 5) x := by
  have loaded : loadedTicket (start (numbers {} .int64)).context.registry =
      some ("Ticket", false, none, some (numberField "_id" .int64)) := by
    cbv
  have updates : ((Persisting.update ticket (numbered .int64 (5 : Int64))).run
      (start (numbers {} .int64))).1.isOk = true := by
    cbv
  obtain ⟨m, addressable⟩ := exists_addressable (used_start _) Events.willing_empty loaded
    (Nat.zero_le 1) rfl (conforms_numbered {} .int64 (5 : Int64)) (.last rfl (.native _)) (by simp)
    (.integer 5)
  have built := (used_start _).2.consistent.built_find? addressable.loaded
  have mem := List.mem_of_find?_eq_some addressable.isId
  -- There is no other attribute, and no object to look into.
  have clear : ¬ Hidden (numbers {} .int64) (numbered .int64 (5 : Int64))
      [numberField "_id" .int64] := by
    intro hidden
    cases hidden with
    | here mem other =>
      have alone := declared_numbers {} .int64
      rw [show Instance.type _ = ticket from rfl,
        show declared _ (numbers {} .int64).config ticket = _ from alone] at mem
      exact other (List.mem_singleton.1 mem)
    | deeper read => cases read
  obtain ⟨x, tp', updated⟩ := exists_of_isOk updates
  refine ⟨m, x, tp', addressable, updated, ?_⟩
  exact updated_instance_found_by_id _ _ _ tp' ticket m _ _ x _ addressable (by decide)
    (built.distinctive mem (by decide)) clear (fun _ hr => absurd hr List.not_mem_nil) updated

namespace Ticketing

/-! ### Tickets that are lost -/

/-- A ticket may be updated, and is then not found by its id. -/
def Lost (env : Environment) (tp : Template) (i : Instance) (v : Value) : Prop :=
  env.config.validate = .ok () ∧ ∃ m f x tp', Addressable env (fun _ => True) tp ticket m f i v ∧
    (Persisting.update ticket i).run tp = (.ok x, tp') ∧ ¬ FoundById tp' ticket v x

/-- Whether a ticket is found by an id. -/
def finds (v : Value) (tp : Template) : Bool :=
  match ((Persisting.findById ticket (.native v)).run tp).1 with
  | .ok (some _) => true
  | _ => false

theorem lost_of_addressable {env : Environment} {tp : Template} {i : Instance} {f : MappedField}
    {v : Value} (valid : env.config.validate = .ok ())
    (addressable : ∃ m, Addressable env (fun _ => True) tp ticket m f i v)
    (updates : ((Persisting.update ticket i).run tp).1.isOk = true)
    (missing : finds v ((Persisting.update ticket i).run tp).2 = false) : Lost env tp i v := by
  obtain ⟨m, addressable⟩ := addressable
  obtain ⟨x, tp', updated⟩ := exists_of_isOk updates
  rw [updated] at missing
  refine ⟨valid, m, f, x, tp', addressable, updated, ?_⟩
  rintro ⟨tp₁, tp₂, tp₃, found, -⟩
  rw [finds, found] at missing
  cases missing

/-- A ticket with two numbers was inserted; a ticket with one of them is updated. -/
def listing : Template :=
  ((Persisting.insert ticket (numbered .value (.list [.integer 1, .integer 5]))).run
    (start (numbers {} .value))).2

theorem lost_in_listing :
    Lost (numbers {} .value) listing (numbered .value (.integer 5)) (.integer 5) := by
  have used : Mapping.Used (numbers {} .value) listing.context :=
    Persisting.keeps_persist Mapping.lasting_used ticket _ .insert _ (used_start _)
  have willing : listing.context.events.Willing :=
    Persisting.keeps_persist (Mapping.lasting_willing (numbers {} .value)) ticket _ .insert
      (start _) Events.willing_empty
  have loaded : loadedTicket listing.context.registry =
      some ("Ticket", false, none, some (numberField "_id" .value)) := by
    cbv
  have few : (listing.store.records "Ticket").length = 1 := by
    cbv
  refine lost_of_addressable rfl (exists_addressable used willing loaded (Nat.le_of_eq few) rfl
    (conforms_numbered {} .value (.integer 5)) (.last rfl (.native _)) (by simp) (.integer 5)) ?_ ?_
  all_goals cbv

/-- Ids go to a key with a point. -/
def pointed : Environment := numbers { idColumn := "meta.id" } .int64

theorem lost_under_pointed_key :
    Lost pointed (start pointed) (numbered .int64 (5 : Int64)) (.integer 5) := by
  have loaded : loadedTicket (start pointed).context.registry =
      some ("Ticket", false, none, some (numberField "meta.id" .int64)) := by
    cbv
  refine lost_of_addressable rfl (exists_addressable (used_start _) Events.willing_empty loaded
    (Nat.zero_le 1) rfl (conforms_numbered _ .int64 (5 : Int64)) (.last rfl (.native _)) (by simp)
    (.integer 5)) ?_ ?_
  all_goals cbv

/-- The id is spelled like the row of the seat. -/
def seated : Environment :=
  environment {}
    [⟨(Column.of "seat.row").id, .plain .int64 (0 : Int64)⟩, ⟨.of "seat", .entity seat⟩]

def inRow (id row : Int64) : Instance :=
  .mk ticket [("seat.row", .plain .int64 id),
    ("seat", .object (.mk seat [("row", .plain .int64 row)] none))] none

theorem lost_in_row : Lost seated (start seated) (inRow 5 1) (.integer 5) := by
  have loaded : loadedTicket (start seated).context.registry =
      some ("Ticket", false, none, some (idField "_id" "seat.row" (.plain .int64 (0 : Int64)))) :=
    by cbv
  have conforms : Conforms seated (fun _ => True) ticket (inRow 5 1) :=
    .concrete rfl (.cons (.plain _) (.cons (.entity (.concrete rfl (.cons (.plain _) .nil))) .nil))
  refine lost_of_addressable rfl (exists_addressable (used_start _) Events.willing_empty loaded
    (Nat.zero_le 1) rfl conforms (.last rfl (.native _)) (by simp) (.integer 5)) ?_ ?_
  all_goals cbv

/-- The kind of the guest goes to the key of the id. -/
def hosted : Environment :=
  environment {} [⟨(Column.of "code").id, .plain .string ""⟩, ⟨.of "guest", .embedded adult⟩]

def forAdult (code : String) : Instance :=
  .mk ticket [("code", .plain .string code), ("guest", .object (.mk adult [] none))] none

theorem lost_for_adult : Lost hosted (start hosted) (forAdult "A5") (.text "A5") := by
  have loaded : loadedTicket (start hosted).context.registry =
      some ("Ticket", false, none, some (idField "_id" "code" (.plain .string ""))) := by
    cbv
  have conforms : Conforms hosted (fun _ => True) ticket (forAdult "A5") :=
    .concrete rfl (.cons (.plain _) (.cons (.embedded (.concrete rfl .nil)) .nil))
  refine lost_of_addressable rfl (exists_addressable (used_start _) Events.willing_empty loaded
    (Nat.zero_le 1) rfl conforms (.last rfl (.native _)) (by simp) (.text _)) ?_ ?_
  all_goals cbv

end Ticketing

open Ticketing in
/-- A ticket is not found by its id where a stored ticket lists the id, where the key has a point,
where a path through an object is spelled like the id, and where a discriminator is written to the
key. -/
theorem updated_tickets_not_found :
    Lost (numbers {} .value) listing (numbered .value (.integer 5)) (.integer 5) ∧
      Lost pointed (start pointed) (numbered .int64 (5 : Int64)) (.integer 5) ∧
      Lost seated (start seated) (inRow 5 1) (.integer 5) ∧
      Lost hosted (start hosted) (forAdult "A5") (.text "A5") :=
  ⟨lost_in_listing, lost_under_pointed_key, lost_in_row, lost_for_adult⟩

end EntityMapping
