import EntityMapping.Event.Basic
import EntityMapping.Error

/-!
Listeners. At each phase the listeners subscribed to it are called in the order of their
subscription, until one refuses; its refusal fails the operation around. A listener may
subscribe another one to the phase it is called at, which is first called the next time. The
calls of a listener are counted over all phases of one subscription.

Every notification is put down in a journal, with the listeners that were called.
-/

namespace EntityMapping

/-- A listener decides by the number of its earlier calls, the phase and what it is shown,
and may bring another one along. -/
inductive Listener where
  | mk (id : String) (verdict : Nat → Phase → Payload → Option MapperError)
    (next : Option Listener)

namespace Listener

def id : Listener → String
  | .mk id _ _ => id

def verdict : Listener → Nat → Phase → Payload → Option MapperError
  | .mk _ verdict _ => verdict

def next : Listener → Option Listener
  | .mk _ _ next => next

end Listener

/-- A listener and the ticket on which its calls are counted. -/
structure Subscription where
  listener : Listener
  ticket : Nat

/-- A notification that took place: what was shown, and to whom. -/
structure Notice where
  phase : Phase
  payload : Payload
  called : List String

/-- The listeners of all phases. -/
structure Events where
  /-- The subscriptions of the phases that have some. -/
  phases : List (Phase × List Subscription) := []
  /-- The numbers of calls by ticket. -/
  calls : List Nat := []
  /-- What has been notified, the oldest first. -/
  journal : List Notice := []

namespace Events

instance : Inhabited Events := ⟨{}⟩

/-! ### Subscription -/

def subscriptions (e : Events) (p : Phase) : List Subscription := (e.phases.lookup p).getD []

def count (e : Events) (p : Phase) : Nat := (e.subscriptions p).length

def append (s : Subscription) (p : Phase) :
    List (Phase × List Subscription) → List (Phase × List Subscription)
  | [] => [(p, [s])]
  | (q, ss) :: rest => if q = p then (q, ss ++ [s]) :: rest else (q, ss) :: append s p rest

/-- Subscribes a listener to some phases, on a ticket of its own. -/
def subscribe (e : Events) (ps : List Phase) (l : Listener) : Events :=
  { e with
    phases := ps.foldl (fun phases p => append ⟨l, e.calls.length⟩ p phases) e.phases
    calls := e.calls ++ [0] }

/-! ### Notification -/

def callsOf (e : Events) (ticket : Nat) : Nat := (e.calls[ticket]?).getD 0

def countCall (e : Events) (ticket : Nat) : Events :=
  { e with calls := e.calls.modify ticket (· + 1) }

/-- A refusal as the listener's failure at a phase; what is a listener's failure already
stays as it is. -/
def refusal (p : Phase) (err : MapperError) : MapperError :=
  if err.kind = .listener then err else .listenerFailed p.name err.text

def call (e : Events) (p : Phase) (payload : Payload) (s : Subscription) :
    Option MapperError × Events :=
  let e := match s.listener.next with
    | none => e
    | some l => e.subscribe [p] l
  (s.listener.verdict (e.callsOf s.ticket) p payload, e.countCall s.ticket)

/-- Calls listeners until one refuses; gives the ones called. -/
def callAll (e : Events) (p : Phase) (payload : Payload) :
    List Subscription → Except MapperError Unit × List String × Events
  | [] => (.ok (), [], e)
  | s :: ss =>
    match e.call p payload s with
    | (some err, e) => (.error (refusal p err), [s.listener.id], e)
    | (none, e) =>
      let (result, called, e) := e.callAll p payload ss
      (result, s.listener.id :: called, e)

def notify (e : Events) (p : Phase) (payload : Payload) : Except MapperError Unit × Events :=
  let (result, called, e) := e.callAll p payload (e.subscriptions p)
  (result, { e with journal := e.journal ++ [⟨p, payload, called⟩] })

def inspect (e : Events) : String :=
  Inspect.fields "EventManager" [("phases", String.ofList (Numeral.ofNat e.phases.length))]

end Events

end EntityMapping
