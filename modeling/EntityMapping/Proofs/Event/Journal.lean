import EntityMapping.Proofs.Registry.Reachable

/-!
What is put down of notifications. Showing something to the listeners of a phase adds one notice of
this phase to the journal, whether they accept it or not, and whoever they bring along. So a step
that goes through some phases in their order, and may fail on the way, adds notices of the first of
them; and of all of them if it answers.
-/

namespace EntityMapping

open Effect

namespace Events

variable {e e' : Events} {p : Phase} {x : Payload}

theorem journal_call (e : Events) (p : Phase) (x : Payload) (s : Subscription) :
    (e.call p x s).2.journal = e.journal := by
  rw [call]
  cases s.listener.next <;> rfl

theorem journal_callAll (p : Phase) (x : Payload) (ss : List Subscription) (e : Events) :
    (e.callAll p x ss).2.2.journal = e.journal := by
  induction ss generalizing e with
  | nil => rfl
  | cons s ss ih =>
    have own := e.journal_call p x s
    rw [callAll]
    rcases one : e.call p x s with ⟨_ | err, e₁⟩
    · rw [one] at own
      exact (ih e₁).trans own
    · rw [one] at own
      exact own

theorem exists_journal_notify (e : Events) (p : Phase) (x : Payload) :
    ∃ n : Notice, n.phase = p ∧ (e.notify p x).2.journal = e.journal ++ [n] :=
  ⟨⟨p, x, _⟩, rfl, congrArg (· ++ _) (e.journal_callAll p x (e.subscriptions p))⟩

/-- The listeners let some things pass that they are shown one after the other. -/
inductive Accept : Events → List (Phase × Payload) → Events → Prop where
  | nil (e : Events) : Accept e [] e
  | cons {e e₁ e' : Events} {p : Phase} {x : Payload} {rest : List (Phase × Payload)}
      (passed : e.notify p x = (.ok (), e₁)) (later : Accept e₁ rest e') :
      Accept e ((p, x) :: rest) e'

theorem Accept.nil_inv (h : Accept e [] e') : e' = e := by
  cases h
  rfl

theorem Accept.cons_inv {rest : List (Phase × Payload)} (h : Accept e ((p, x) :: rest) e') :
    ∃ e₁, e.notify p x = (.ok (), e₁) ∧ Accept e₁ rest e' := by
  cases h with
  | cons passed later => exact ⟨_, passed, later⟩

end Events

namespace Mapping

variable {α β : Type} {x : Mapping α} {f : α → Mapping β} {ps qs : List Phase}

/-! ### Steps that call nobody -/

/-- A step calls no listener and does not depend on them. -/
def Quiet (x : Mapping α) : Prop :=
  ∀ c events, x.run { c with events } = ((x.run c).1, { (x.run c).2 with events })

namespace Quiet

theorem pure (a : α) : Quiet (pure a : Mapping α) := fun _ _ => rfl

theorem ofExcept (x : Except MapperError α) : Quiet (Mapping.ofExcept x) := by
  cases x <;> exact fun _ _ => rfl

theorem ofLoading (f : Environment → Loading α) : Quiet (Mapping.ofLoading f) := by
  intro c events
  rw [run_ofLoading, run_ofLoading]

theorem bind (hx : Quiet x) (hf : ∀ a, Quiet (f a)) : Quiet (x >>= f) := by
  intro c events
  rw [run_bind, run_bind, hx c events]
  rcases x.run c with ⟨e | a, d⟩
  · rfl
  · exact hf a d events

theorem events_eq (h : Quiet x) (c : Context) : (x.run c).2.events = c.events :=
  congrArg (·.2.events) (h c c.events)

theorem events_of_ok (h : Quiet x) {c d : Context} {a : α} (run : x.run c = (.ok a, d)) :
    d.events = c.events := by
  have same := h.events_eq c
  rwa [run] at same

theorem run_of_ok (h : Quiet x) {c d : Context} {a : α} (run : x.run c = (.ok a, d))
    (events : Events) : x.run { c with events } = (.ok a, { d with events }) := by
  rw [h c events, run]

end Quiet

/-! ### Steps through some phases -/

/-- A step adds notices of the first of some phases, in their order, and of all of them if it
answers. -/
def Notifies (ps : List Phase) (x : Mapping α) : Prop :=
  ∀ c, ∃ notices : List Notice, (x.run c).2.events.journal = c.events.journal ++ notices ∧
    notices.map (·.phase) <+: ps ∧ ∀ a, (x.run c).1 = .ok a → notices.map (·.phase) = ps

theorem Quiet.notifies (h : Quiet x) : Notifies [] x := by
  intro c
  refine ⟨[], ?_, List.prefix_refl [], fun _ _ => rfl⟩
  rw [h.events_eq, List.append_nil]

theorem run_fire_eq_ok {p : Phase} {payload : Payload} {c d : Context} :
    (fire p payload).run c = (.ok (), d) ↔
      ∃ events, c.events.notify p payload = (.ok (), events) ∧ d = { c with events } := by
  rw [run_fire]
  constructor
  · intro fired
    obtain ⟨answer, rfl⟩ := Prod.mk.inj fired
    exact ⟨_, Prod.ext answer rfl, rfl⟩
  · rintro ⟨events, notified, rfl⟩
    rw [notified]

theorem notifies_fire (p : Phase) (payload : Payload) : Notifies [p] (fire p payload) := by
  intro c
  obtain ⟨n, phase, added⟩ := c.events.exists_journal_notify p payload
  have phases : [n].map (·.phase) = [p] := congrArg ([·]) phase
  rw [run_fire]
  exact ⟨[n], added, phases ▸ List.prefix_rfl, fun _ _ => phases⟩

theorem Notifies.bind (hx : Notifies ps x) (hf : ∀ a, Notifies qs (f a)) :
    Notifies (ps ++ qs) (x >>= f) := by
  intro c
  obtain ⟨notices, added, first, all⟩ := hx c
  rw [run_bind]
  rcases run : x.run c with ⟨e | a, d⟩
  · rw [run] at added
    exact ⟨notices, added, first.trans (List.prefix_append ps qs), nofun⟩
  · rw [run] at added all
    obtain ⟨more, added', first', all'⟩ := hf a d
    refine ⟨notices ++ more, ?_, ?_, fun b answer => ?_⟩
    · rw [added', added, List.append_assoc]
    · rw [List.map_append, all a rfl]
      exact (List.prefix_append_right_inj ps).2 first'
    · rw [List.map_append, all a rfl, all' b answer]

end Mapping

end EntityMapping
