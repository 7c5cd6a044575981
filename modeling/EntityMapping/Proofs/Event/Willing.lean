import EntityMapping.Event.Listeners

/-!
Listeners that never refuse. If all listeners are such, and so are those that they bring along, then
every notification succeeds, and this stays so however many listeners come.
-/

namespace EntityMapping

/-- A listener refuses nothing, and neither does a listener that it brings along. -/
inductive Listener.Willing : Listener → Prop where
  | mk {id : String} {verdict : Nat → Phase → Payload → Option MapperError}
    {next : Option Listener} (accepts : ∀ n p x, verdict n p x = none)
    (later : ∀ l, next = some l → Willing l) : Willing (.mk id verdict next)

theorem Listener.Willing.verdict {l : Listener} (h : l.Willing) (n : Nat) (p : Phase)
    (x : Payload) : l.verdict n p x = none := by
  cases h with
  | mk accepts => exact accepts n p x

theorem Listener.Willing.next {l k : Listener} (h : l.Willing) (there : l.next = some k) :
    k.Willing := by
  cases h with
  | mk _ later => exact later k there

namespace Events

variable {e : Events} {p : Phase} {l : Listener} {x : Payload}

/-- All listeners are willing. -/
def Willing (e : Events) : Prop := ∀ q ∈ e.phases, ∀ s ∈ q.2, s.listener.Willing

theorem willing_empty : Willing {} := nofun

theorem Willing.of_mem_subscriptions (h : e.Willing) {s : Subscription}
    (mem : s ∈ e.subscriptions p) : s.listener.Willing := by
  rw [subscriptions] at mem
  cases found : e.phases.lookup p with
  | none =>
    rw [found] at mem
    cases mem
  | some ss =>
    rw [found] at mem
    obtain ⟨before, after, split, -⟩ := List.lookup_eq_some_iff.1 found
    exact h (p, ss) (by rw [split]; simp) s mem

/-! ### Subscription -/

theorem mem_append {s : Subscription} {phases : List (Phase × List Subscription)}
    {q : Phase × List Subscription} (mem : q ∈ append s p phases) {s' : Subscription}
    (inside : s' ∈ q.2) : s' = s ∨ ∃ q ∈ phases, s' ∈ q.2 := by
  induction phases with
  | nil =>
    obtain rfl := List.mem_singleton.1 mem
    exact .inl (List.mem_singleton.1 inside)
  | cons first rest ih =>
    obtain ⟨q', ss⟩ := first
    rw [append] at mem
    split at mem
    · rcases List.mem_cons.1 mem with rfl | mem
      · rcases List.mem_append.1 inside with inside | inside
        · exact .inr ⟨(q', ss), List.mem_cons_self .., inside⟩
        · exact .inl (List.mem_singleton.1 inside)
      · exact .inr ⟨q, List.mem_cons_of_mem _ mem, inside⟩
    · rcases List.mem_cons.1 mem with rfl | mem
      · exact .inr ⟨_, List.mem_cons_self .., inside⟩
      · exact (ih mem).imp_right fun ⟨q, mem, inside⟩ => ⟨q, List.mem_cons_of_mem _ mem, inside⟩

theorem Willing.subscribe (h : e.Willing) (ps : List Phase) (willing : l.Willing) :
    (e.subscribe ps l).Willing := by
  have each : ∀ (ps : List Phase) (phases : List (Phase × List Subscription)) (ticket : Nat),
      (∀ q ∈ phases, ∀ s ∈ q.2, s.listener.Willing) →
      ∀ q ∈ ps.foldl (fun phases p => append ⟨l, ticket⟩ p phases) phases,
        ∀ s ∈ q.2, s.listener.Willing := by
    intro ps
    induction ps with
    | nil => exact fun _ _ all => all
    | cons p ps ih =>
      intro phases ticket all
      refine ih _ ticket fun q mem s inside => ?_
      rcases mem_append mem inside with rfl | ⟨q, mem, inside⟩
      · exact willing
      · exact all q mem s inside
  exact each ps e.phases e.calls.length h

/-! ### Notification -/

theorem Willing.call (h : e.Willing) {s : Subscription} (willing : s.listener.Willing) :
    (e.call p x s).1 = none ∧ (e.call p x s).2.Willing := by
  rw [Events.call]
  cases next : s.listener.next with
  | none => exact ⟨willing.verdict .., h⟩
  | some l => exact ⟨willing.verdict .., h.subscribe [p] (willing.next next)⟩

theorem Willing.callAll (h : e.Willing) {ss : List Subscription}
    (willing : ∀ s ∈ ss, s.listener.Willing) :
    ∃ called e', e.callAll p x ss = (.ok (), called, e') ∧ e'.Willing := by
  induction ss generalizing e with
  | nil => exact ⟨[], e, rfl, h⟩
  | cons s ss ih =>
    obtain ⟨accepted, after⟩ := h.call (p := p) (x := x) (willing s (List.mem_cons_self ..))
    rcases one : e.call p x s with ⟨verdict, e₁⟩
    rw [one] at accepted after
    cases accepted
    obtain ⟨called, e₂, rest, last⟩ := ih after fun s mem => willing s (List.mem_cons_of_mem _ mem)
    refine ⟨s.listener.id :: called, e₂, ?_, last⟩
    rw [Events.callAll, one]
    dsimp only
    rw [rest]

theorem Willing.notify (h : e.Willing) (p : Phase) (x : Payload) :
    ∃ e', e.notify p x = (.ok (), e') ∧ e'.Willing := by
  obtain ⟨called, e', all, willing⟩ := h.callAll (p := p) (x := x) fun s => h.of_mem_subscriptions
  refine ⟨{ e' with journal := e'.journal ++ [⟨p, x, called⟩] }, ?_, willing⟩
  rw [Events.notify, all]

end Events

end EntityMapping
