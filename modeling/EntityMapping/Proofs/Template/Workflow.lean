import EntityMapping.Proofs.Event.Journal
import EntityMapping.Proofs.Template.Runs

/-!
The way of a write. An instance is shown to the listeners, becomes a record, and both are shown;
then the store takes the record, the record is shown as it is stored, becomes an instance again, and
this is shown twice. The main theorem says what a write does wherever it ends: which phases have
been notified, when the store is written and with what, and when there is an answer.
-/

namespace EntityMapping

open Effect

/-- How an instance is stored: as a new one, or in the place of those with its id. -/
inductive WriteKind where
  | insert
  | update
  deriving DecidableEq, Repr

namespace Phase

/-- The phases before the store is written, in their order. -/
def beforeWriting : List Phase := [.preEntity, .preMappedEntity, .preRecord]

/-- The phases after the store was written. -/
def afterWriting : List Phase := [.postRecord, .postEntity, .postMappedEntity]

end Phase

namespace Mapping

variable {t : TypeRef} {i j : Instance} {r : Record} {c d : Context}

/-! ### Conversions without listeners -/

/-- The record of an instance of a type, which no listener is shown. -/
def convert (t : TypeRef) (i : Instance) : Mapping Record := do
  let m ← load t
  let (es, m) ← ofLoading fun env => env.elementsWith i m
  pure (.ofElements m.name es)

/-- An instance of a type from a record, which no listener is shown. -/
def restore (t : TypeRef) (r : Record) : Mapping Instance := do
  let m ← load t
  ofLoading fun env => env.read m r.elements

/-- The way in which an instance is written; an update needs the key of the id. -/
def writeMode (t : TypeRef) (i : Instance) : WriteKind → Mapping WriteMode
  | .insert => pure .insert
  | .update => do
    let m ← load t
    let j ← ofExcept (Environment.concrete m i)
    let m ← ofLoading fun _ => Environment.concreteMetadata m j
    let f ← ofExcept m.id
    pure (.update f.key)

theorem toRecord_eq (t : TypeRef) (i : Instance) :
    toRecord t i = (do
      fire .preEntity (.entity i)
      convert t i) := by
  simp only [toRecord, recordWith, convert, bind_assoc, pure_bind]

theorem toEntity_eq (t : TypeRef) (r : Record) :
    toEntity t r = (do
      let i ← restore t r
      fire .postEntity (.entity i)
      pure i) := by
  simp only [toEntity, readRecord, restore, bind_assoc]

theorem quiet_convert (t : TypeRef) (i : Instance) : Quiet (convert t i) :=
  (Quiet.ofLoading _).bind fun _ => (Quiet.ofLoading _).bind fun _ => .pure _

theorem quiet_restore (t : TypeRef) (r : Record) : Quiet (restore t r) :=
  (Quiet.ofLoading _).bind fun _ => .ofLoading _

theorem quiet_writeMode (t : TypeRef) (i : Instance) (kind : WriteKind) :
    Quiet (writeMode t i kind) := by
  cases kind with
  | insert => exact .pure _
  | update =>
    exact (Quiet.ofLoading _).bind fun _ => (Quiet.ofExcept _).bind fun _ =>
      (Quiet.ofLoading _).bind fun _ => (Quiet.ofExcept _).bind fun _ => .pure _

/-! ### Around the store -/

/-- What comes before the store is written. -/
def prepare (t : TypeRef) (i : Instance) (kind : WriteKind) : Mapping (WriteMode × Record) := do
  let mode ← writeMode t i kind
  fire .preEntity (.entity i)
  let r ← convert t i
  fire .preMappedEntity (.entity i)
  fire .preRecord (.record r)
  pure (mode, r)

/-- What comes after the store was written. -/
def announce (t : TypeRef) (stored : Record) : Mapping Instance := do
  fire .postRecord (.record stored)
  let j ← restore t stored
  fire .postEntity (.entity j)
  fire .postMappedEntity (.entity j)
  pure j

theorem notifies_prepare (t : TypeRef) (i : Instance) (kind : WriteKind) :
    Notifies Phase.beforeWriting (prepare t i kind) :=
  (quiet_writeMode t i kind).notifies.bind fun _ => (notifies_fire _ _).bind fun _ =>
    (quiet_convert t i).notifies.bind fun _ => (notifies_fire _ _).bind fun _ =>
      (notifies_fire _ _).bind fun _ => (Quiet.pure _).notifies

theorem notifies_announce (t : TypeRef) (stored : Record) :
    Notifies Phase.afterWriting (announce t stored) :=
  (notifies_fire _ _).bind fun _ => (quiet_restore t stored).notifies.bind fun _ =>
    (notifies_fire _ _).bind fun _ => (notifies_fire _ _).bind fun _ => (Quiet.pure _).notifies

/-- An instance can be written: it has a record and, for an update, an id key; and the listeners of
the first phases accept both. -/
structure Prepares (t : TypeRef) (i : Instance) (kind : WriteKind) (c : Context) (mode : WriteMode)
    (r : Record) (d : Context) : Prop where
  converts : ∃ c', (writeMode t i kind).run c = (.ok mode, c') ∧
    (convert t i).run c' = (.ok r, { d with events := c.events })
  accepted : c.events.Accept
    [(.preEntity, .entity i), (.preMappedEntity, .entity i), (.preRecord, .record r)] d.events

/-- A stored record is read as an instance, and the listeners of the last phases accept both. -/
structure Confirms (t : TypeRef) (stored : Record) (c : Context) (j : Instance) (d : Context) :
    Prop where
  restores : (restore t stored).run c = (.ok j, { d with events := c.events })
  accepted : c.events.Accept
    [(.postRecord, .record stored), (.postEntity, .entity j), (.postMappedEntity, .entity j)]
    d.events

theorem run_prepare_eq_ok {kind : WriteKind} {mode : WriteMode} :
    (prepare t i kind).run c = (.ok (mode, r), d) ↔ Prepares t i kind c mode r d := by
  constructor
  · intro run
    obtain ⟨_, c₁, moded, run⟩ := run_bind_eq_ok.1 run
    have events₁ := (quiet_writeMode t i kind).events_of_ok moded
    obtain ⟨_, _, shown, run⟩ := run_bind_eq_ok.1 run
    obtain ⟨e₁, first, rfl⟩ := run_fire_eq_ok.1 shown
    obtain ⟨_, c₂, converted, run⟩ := run_bind_eq_ok.1 run
    have events₂ := (quiet_convert t i).events_of_ok converted
    obtain ⟨_, _, shown, run⟩ := run_bind_eq_ok.1 run
    obtain ⟨e₂, second, rfl⟩ := run_fire_eq_ok.1 shown
    obtain ⟨_, _, shown, run⟩ := run_bind_eq_ok.1 run
    obtain ⟨e₃, third, rfl⟩ := run_fire_eq_ok.1 shown
    cases run
    rw [events₁] at first
    rw [events₂] at second
    refine ⟨⟨c₁, moded, ?_⟩, .cons first (.cons second (.cons third (.nil e₃)))⟩
    exact events₁ ▸ (quiet_convert t i).run_of_ok converted c₁.events
  · rintro ⟨⟨c₁, moded, converted⟩, accepted⟩
    obtain ⟨e₁, first, accepted⟩ := accepted.cons_inv
    obtain ⟨e₂, second, accepted⟩ := accepted.cons_inv
    obtain ⟨e₃, third, accepted⟩ := accepted.cons_inv
    obtain rfl := accepted.nil_inv
    rw [← (quiet_writeMode t i kind).events_of_ok moded] at first
    rw [prepare, run_bind_of_ok moded, run_bind_of_ok (run_fire_eq_ok.2 ⟨e₁, first, rfl⟩),
      run_bind_of_ok ((quiet_convert t i).run_of_ok converted e₁),
      run_bind_of_ok (run_fire_eq_ok.2 ⟨e₂, second, rfl⟩),
      run_bind_of_ok (run_fire_eq_ok.2 ⟨_, third, rfl⟩)]
    rfl

theorem run_announce_eq_ok {stored : Record} :
    (announce t stored).run c = (.ok j, d) ↔ Confirms t stored c j d := by
  constructor
  · intro run
    obtain ⟨_, _, shown, run⟩ := run_bind_eq_ok.1 run
    obtain ⟨e₁, first, rfl⟩ := run_fire_eq_ok.1 shown
    obtain ⟨_, c₁, restored, run⟩ := run_bind_eq_ok.1 run
    have events₁ := (quiet_restore t stored).events_of_ok restored
    obtain ⟨_, _, shown, run⟩ := run_bind_eq_ok.1 run
    obtain ⟨e₂, second, rfl⟩ := run_fire_eq_ok.1 shown
    obtain ⟨_, _, shown, run⟩ := run_bind_eq_ok.1 run
    obtain ⟨e₃, third, rfl⟩ := run_fire_eq_ok.1 shown
    cases run
    rw [events₁] at second
    exact ⟨(quiet_restore t stored).run_of_ok restored c.events,
      .cons first (.cons second (.cons third (.nil e₃)))⟩
  · rintro ⟨restored, accepted⟩
    obtain ⟨e₁, first, accepted⟩ := accepted.cons_inv
    obtain ⟨e₂, second, accepted⟩ := accepted.cons_inv
    obtain ⟨e₃, third, accepted⟩ := accepted.cons_inv
    obtain rfl := accepted.nil_inv
    rw [announce, run_bind_of_ok (run_fire_eq_ok.2 ⟨e₁, first, rfl⟩),
      run_bind_of_ok ((quiet_restore t stored).run_of_ok restored e₁),
      run_bind_of_ok (run_fire_eq_ok.2 ⟨e₂, second, rfl⟩),
      run_bind_of_ok (run_fire_eq_ok.2 ⟨_, third, rfl⟩)]
    rfl

end Mapping

/-- A store takes a record, for an update only with a value under the key; the record as it is
stored, and the store with it. -/
def Store.Takes (s : Store) (r : Record) (stored : Record) (s' : Store) : WriteMode → Prop
  | .insert => s.insert r = (.ok stored, s')
  | .update key => r.contains key = true ∧ s.update r key = (.ok stored, s')

theorem Store.taking_eq_ok {s s' : Store} {t : TypeRef} {r stored : Record} {mode : WriteMode} :
    s.taking t r mode = (.ok stored, s') ↔ s.Takes r stored s' mode := by
  cases mode with
  | insert => rfl
  | update key =>
    rw [taking, Takes]
    split
    · rename_i there
      exact ⟨fun taken => ⟨there, taken⟩, And.right⟩
    · rename_i missing
      exact ⟨fun refused => (by cases refused), fun taken => absurd taken.1 missing⟩

namespace Persisting

variable {α β : Type}

theorem ofMapping_bind (x : Mapping α) (f : α → Mapping β) :
    ofMapping (x >>= f) = ofMapping x >>= fun a => ofMapping (f a) := by
  refine funext fun tp => ?_
  show (ofMapping (x >>= f)).run tp = (ofMapping x >>= fun a => ofMapping (f a)).run tp
  rw [run_ofMapping, run_bind, run_bind, run_ofMapping]
  rcases x.run tp.context with ⟨e | a, c⟩
  · rfl
  · dsimp only
    rw [run_ofMapping]

theorem ofMapping_pure (a : α) : ofMapping (pure a) = pure a := rfl

end Persisting

namespace WriteKind

open Persisting

variable {t : TypeRef} {i j : Instance} {kind : WriteKind} {tp tp' : Template}

def run (t : TypeRef) (i : Instance) : WriteKind → Persisting Instance
  | .insert => Persisting.insert t i
  | .update => Persisting.update t i

/-- A write comes as far as the store, and the store takes the record of the instance. -/
def Stores (t : TypeRef) (i : Instance) (kind : WriteKind) (tp : Template) (stored : Record)
    (tp' : Template) : Prop :=
  ∃ mode r, Mapping.Prepares t i kind tp.context mode r tp'.context ∧
    tp.store.Takes r stored tp'.store mode

/-- A write goes to the store between what comes before and what comes after. -/
theorem run_eq (t : TypeRef) (i : Instance) (kind : WriteKind) :
    kind.run t i = (do
      let (mode, r) ← ofMapping (Mapping.prepare t i kind)
      let stored ← write t r mode
      ofMapping (Mapping.announce t stored)) := by
  cases kind with
  | insert =>
    simp only [run, Persisting.insert, persist, Mapping.prepare, Mapping.announce,
      Mapping.writeMode, Mapping.toRecord_eq, Mapping.toEntity_eq, ofMapping_bind, ofMapping_pure,
      bind_assoc, pure_bind]
  | update =>
    simp only [run, Persisting.update, idKey, persist, Mapping.prepare, Mapping.announce,
      Mapping.writeMode, Mapping.toRecord_eq, Mapping.toEntity_eq, ofMapping_bind, ofMapping_pure,
      bind_assoc, pure_bind]

theorem stores_iff {stored : Record} : Stores t i kind tp stored tp' ↔
    ∃ mode r, (Mapping.prepare t i kind).run tp.context = (.ok (mode, r), tp'.context) ∧
      tp.store.taking t r mode = (.ok stored, tp'.store) := by
  simp only [Stores, Mapping.run_prepare_eq_ok, Store.taking_eq_ok]

/-- What a write comes to: it stops before the store is written, or the store is written and the
last steps decide. -/
inductive Outcome (t : TypeRef) (i : Instance) (kind : WriteKind) (tp : Template) :
    Except MapperError Instance → Template → Prop where
  | stopped {e : MapperError} {c : Context} (none : ¬ ∃ stored tp₁, Stores t i kind tp stored tp₁)
      (reached : ((Mapping.prepare t i kind).run tp.context).2 = c) :
      Outcome t i kind tp (.error e) ⟨c, tp.store⟩
  | written {stored : Record} {tp₁ : Template} {answer : Except MapperError Instance} {c : Context}
      (writes : Stores t i kind tp stored tp₁)
      (announced : (Mapping.announce t stored).run tp₁.context = (answer, c)) :
      Outcome t i kind tp answer ⟨c, tp₁.store⟩

theorem outcome (t : TypeRef) (i : Instance) (kind : WriteKind) (tp : Template) :
    Outcome t i kind tp ((kind.run t i).run tp).1 ((kind.run t i).run tp).2 := by
  rw [run_eq, run_bind, run_ofMapping]
  rcases prepared : (Mapping.prepare t i kind).run tp.context with ⟨e | ⟨mode, r⟩, c⟩
  · refine .stopped ?_ (congrArg Prod.snd prepared)
    rintro ⟨stored, tp₁, writes⟩
    obtain ⟨mode, r, prepared', -⟩ := stores_iff.1 writes
    cases prepared.symm.trans prepared'
  · dsimp only
    rw [run_bind, run_write]
    rcases taken : tp.store.taking t r mode with ⟨e | stored, s⟩
    · obtain rfl := Store.taking_eq_error taken
      refine .stopped ?_ (congrArg Prod.snd prepared)
      rintro ⟨stored, tp₁, writes⟩
      obtain ⟨mode', r', prepared', taken'⟩ := stores_iff.1 writes
      obtain ⟨same, -⟩ := Prod.mk.inj (prepared.symm.trans prepared')
      cases same
      cases taken.symm.trans taken'
    · have writes : Stores t i kind tp stored ⟨c, s⟩ := stores_iff.2 ⟨mode, r, prepared, taken⟩
      dsimp only
      rw [run_ofMapping]
      exact .written writes rfl

/-- A store is written in one way. -/
theorem Stores.unique {stored stored' : Record} {tp₁ tp₂ : Template}
    (h : Stores t i kind tp stored tp₁) (g : Stores t i kind tp stored' tp₂) :
    stored = stored' ∧ tp₁ = tp₂ := by
  obtain ⟨mode, r, prepared, taken⟩ := stores_iff.1 h
  obtain ⟨mode', r', prepared', taken'⟩ := stores_iff.1 g
  obtain ⟨same, context⟩ := Prod.mk.inj (prepared.symm.trans prepared')
  obtain ⟨rfl, rfl⟩ := Prod.mk.inj (Except.ok.inj same)
  obtain ⟨same, store⟩ := Prod.mk.inj (taken.symm.trans taken')
  cases tp₁
  cases tp₂
  cases context
  cases store
  exact ⟨Except.ok.inj same, rfl⟩

theorem not_mem_afterWriting {p : Phase} (h : p ∈ Phase.beforeWriting) :
    p ∉ Phase.afterWriting := by
  cases p <;> simp_all [Phase.beforeWriting, Phase.afterWriting]

theorem no_notice_afterWriting {notices : List Notice}
    (first : notices.map (·.phase) <+: Phase.beforeWriting) :
    ¬ ∃ n ∈ notices, n.phase ∈ Phase.afterWriting := by
  rintro ⟨n, mem, after⟩
  exact not_mem_afterWriting (first.subset (List.mem_map_of_mem mem)) after

/-- The phases of a write come in their order, those after the writing only if the store was
written, and all of them if there is an answer. -/
theorem Outcome.exists_notices {answer : Except MapperError Instance}
    (h : Outcome t i kind tp answer tp') :
    ∃ notices : List Notice,
      tp'.context.events.journal = tp.context.events.journal ++ notices ∧
      notices.map (·.phase) <+: Phase.beforeWriting ++ Phase.afterWriting ∧
      ((∃ n ∈ notices, n.phase ∈ Phase.afterWriting) →
        ∃ stored tp₁, Stores t i kind tp stored tp₁) ∧
      ∀ j, answer = .ok j → notices.map (·.phase) = Phase.beforeWriting ++ Phase.afterWriting := by
  obtain ⟨notices, added, first, all⟩ := Mapping.notifies_prepare t i kind tp.context
  cases h with
  | stopped none reached =>
    rw [reached] at added
    exact ⟨notices, added, first.trans (List.prefix_append ..),
      fun late => absurd late (no_notice_afterWriting first), nofun⟩
  | @written stored tp₁ _ c writes announced =>
    obtain ⟨mode, r, prepared, -⟩ := stores_iff.1 writes
    obtain ⟨more, added', last, all'⟩ := Mapping.notifies_announce t stored tp₁.context
    rw [prepared] at added all
    rw [announced] at added' all'
    refine ⟨notices ++ more, ?_, ?_, fun _ => ⟨stored, tp₁, writes⟩, fun j answered => ?_⟩
    · rw [← List.append_assoc, ← added]
      exact added'
    · rw [List.map_append, all _ rfl]
      exact (List.prefix_append_right_inj _).2 last
    · rw [List.map_append, all _ rfl, all' j answered]

/-- A write that the store does not take leaves the store as it was. -/
theorem Outcome.store_eq {answer : Except MapperError Instance}
    (h : Outcome t i kind tp answer tp') :
    (∀ stored tp₁, Stores t i kind tp stored tp₁ → tp'.store = tp₁.store) ∧
      ((¬ ∃ stored tp₁, Stores t i kind tp stored tp₁) → tp'.store = tp.store) := by
  cases h with
  | stopped none _ =>
    exact ⟨fun stored tp₁ writes => absurd ⟨stored, tp₁, writes⟩ none, fun _ => rfl⟩
  | written writes _ =>
    refine ⟨fun stored tp₁ writes' => ?_, fun none => absurd ⟨_, _, writes⟩ none⟩
    rw [(writes.unique writes').2]

theorem Outcome.eq_ok_iff {answer : Except MapperError Instance}
    (h : Outcome t i kind tp answer tp') :
    answer = .ok j ↔ ∃ stored tp₁, Stores t i kind tp stored tp₁ ∧
      Mapping.Confirms t stored tp₁.context j tp'.context := by
  cases h with
  | stopped none _ =>
    exact ⟨nofun, fun ⟨stored, tp₁, writes, _⟩ => absurd ⟨stored, tp₁, writes⟩ none⟩
  | written writes announced =>
    constructor
    · rintro rfl
      exact ⟨_, _, writes, Mapping.run_announce_eq_ok.1 announced⟩
    · rintro ⟨stored, tp₁, writes', confirms⟩
      obtain ⟨rfl, rfl⟩ := writes.unique writes'
      exact (congrArg Prod.fst (announced.symm.trans (Mapping.run_announce_eq_ok.2 confirms)) :)

end WriteKind

open WriteKind in
/-- What a write does wherever it ends. The phases that it has notified are the first of those
before and after the writing. The store is written exactly if the instance can be written and the
store takes its record, and then once; otherwise it stays as it was. No phase after the writing is
notified unless the store was written. There is an answer exactly if the store was written and what
it has stored is read and accepted. -/
theorem write_follows_workflow (kind : WriteKind) (t : TypeRef) (i : Instance) (tp tp' : Template)
    (answer : Except MapperError Instance) (run : (kind.run t i).run tp = (answer, tp')) :
    (∃ notices : List Notice,
      tp'.context.events.journal = tp.context.events.journal ++ notices ∧
      notices.map (·.phase) <+: Phase.beforeWriting ++ Phase.afterWriting ∧
      ((∃ n ∈ notices, n.phase ∈ Phase.afterWriting) →
        ∃ stored tp₁, Stores t i kind tp stored tp₁) ∧
      ∀ j, answer = .ok j → notices.map (·.phase) = Phase.beforeWriting ++ Phase.afterWriting) ∧
    (∀ stored tp₁, Stores t i kind tp stored tp₁ → tp'.store = tp₁.store) ∧
    ((¬ ∃ stored tp₁, Stores t i kind tp stored tp₁) → tp'.store = tp.store) ∧
    ∀ j, answer = .ok j ↔ ∃ stored tp₁, Stores t i kind tp stored tp₁ ∧
      Mapping.Confirms t stored tp₁.context j tp'.context := by
  have outcome := outcome t i kind tp
  rw [run] at outcome
  obtain ⟨once, unchanged⟩ := outcome.store_eq
  exact ⟨outcome.exists_notices, once, unchanged, fun j => outcome.eq_ok_iff⟩

/-! ### A ledger -/

namespace Ledger

def account : TypeRef := ⟨0, "Account"⟩

def environment : Environment where
  catalog := {
    valueName := "Value"
    descriptors := [
      { name := "Account", type := account, suppliesInstances := true
        fields := [⟨(Column.of "number").id, .plain .int64 (0 : Int64)⟩] }] }
  config := {}

def numbered (n : Int64) : Instance := .mk account [("number", .plain .int64 n)] none

/-- Refuses every account that was read. -/
def auditor : Listener :=
  .mk "auditor" (fun _ _ _ => some (.raised .listener "unaudited")) none

def audited : Template := ⟨Context.subscribe { environment } [.postEntity] auditor, {}⟩

theorem run_update_audited :
    ((WriteKind.update.run account (numbered 1)).run audited).1 =
        .error (.raised .listener "unaudited") ∧
      ((WriteKind.update.run account (numbered 1)).run audited).2.context.events.journal.map
          (·.phase) = [.preEntity, .preMappedEntity, .preRecord, .postRecord, .postEntity] ∧
      (((WriteKind.update.run account (numbered 1)).run audited).2.store.records "Account").map
        (·.find? "_id") = [some (.integer 1)] := by
  refine ⟨?_, ?_, ?_⟩ <;> cbv

end Ledger

open Ledger WriteKind in
/-- The account that the auditor refuses is in the ledger. -/
theorem write_follows_workflow_audited :
    ∃ tp' stored tp₁, (WriteKind.update.run account (numbered 1)).run audited =
        (.error (.raised .listener "unaudited"), tp') ∧
      Stores account (numbered 1) .update audited stored tp₁ ∧ tp'.store = tp₁.store ∧
      (tp₁.store.records "Account").map (·.find? "_id") = [some (.integer 1)] ∧
      ∀ j, ¬ Mapping.Confirms account stored tp₁.context j tp'.context := by
  obtain ⟨answer, phases, records⟩ := run_update_audited
  rcases updated : (WriteKind.update.run account (numbered 1)).run audited with ⟨_, tp'⟩
  rw [updated] at answer phases records
  cases answer
  obtain ⟨⟨notices, added, -, late, -⟩, once, -, answers⟩ :=
    write_follows_workflow .update account (numbered 1) audited tp' _ updated
  have shown : Phase.postRecord ∈ notices.map (·.phase) := by
    have all : audited.context.events.journal ++ notices = notices := rfl
    rw [← all, ← added, phases]
    decide
  obtain ⟨n, mem, phase⟩ := List.mem_map.1 shown
  obtain ⟨stored, tp₁, writes⟩ := late ⟨n, mem, phase ▸ by decide⟩
  have store := once stored tp₁ writes
  refine ⟨tp', stored, tp₁, rfl, writes, store, store ▸ records, fun j confirms => ?_⟩
  cases (answers j).2 ⟨stored, tp₁, writes, confirms⟩

end EntityMapping
