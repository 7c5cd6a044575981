import EntityMapping.Conversion.Reading
import EntityMapping.Event.Listeners
import EntityMapping.Proofs.AttributeType.Faults
import EntityMapping.Proofs.Registry.Termination

/-!
Single steps of reading. Each of them either answers or says what is wrong with a value, an argument
or a type, or that a listener refused. That a search is endless is said by searches only: by
loading, and by reading itself.
-/

namespace EntityMapping

open Registry

/-- A step does not answer that a search is endless. -/
structure Settled {α : Type} (x : Except MapperError α) : Prop where
  not_endless : ¬ Endless x

namespace Settled

variable {α β : Type}

theorem ok (a : α) : Settled (.ok a) := ⟨not_endless_ok a⟩

theorem error {e : MapperError} (h : ∀ name, e ≠ .endless name) :
    Settled (.error e : Except MapperError α) := by
  refine ⟨fun ⟨name, same⟩ => ?_⟩
  exact h name (Except.error.inj same)

theorem bind {x : Except MapperError α} {f : α → Except MapperError β} (hx : Settled x)
    (hf : ∀ a, Settled (f a)) : Settled (x >>= f) := by
  cases x with
  | error e => exact ⟨fun ⟨name, same⟩ => hx.not_endless ⟨name, congrArg _ (Except.error.inj same)⟩⟩
  | ok a => exact hf a

theorem map {x : Except MapperError α} {f : α → β} (hx : Settled x) : Settled (x.map f) := by
  cases x with
  | error e => exact ⟨fun ⟨name, same⟩ => hx.not_endless ⟨name, congrArg _ (Except.error.inj same)⟩⟩
  | ok a => exact ok (f a)

theorem foldlM {f : β → α → Except MapperError β} (hf : ∀ b a, Settled (f b a)) (xs : List α)
    (b : β) : Settled (xs.foldlM f b) := by
  induction xs generalizing b with
  | nil => exact ok b
  | cons x xs ih =>
    rw [List.foldlM_cons]
    exact (hf b x).bind ih

end Settled

theorem Settled.of_faults {α : Type} {Q : MapperError → Prop} {x : Except MapperError α}
    (h : Faults Q x) (other : ∀ name, ¬ Q (.endless name)) : Settled x :=
  ⟨fun ⟨name, endless⟩ => other name (h.error_of _ endless)⟩

theorem AttributeType.settled_ofValue (t : AttributeType) (v : Value) : Settled (t.ofValue v) :=
  .of_faults (mismatches_ofValue t v) nofun

/-! ### Attributes and arguments -/

open AttributeType

theorem Instance.settled_write (i : Instance) (f : MappedField) (c : Content) :
    Settled (i.write f c) := by
  have slot : Settled (toSlot f c) := by
    unfold toSlot
    split <;> split <;> try split
    all_goals first
      | exact (settled_ofValue ..).map
      | exact .ok _
      | exact .error nofun
  unfold write
  split
  · exact slot.map
  · exact .error nofun

namespace Arguments

theorem settled_take (args : Arguments) (name : String) : Settled (args.take name) := by
  unfold take
  split
  · exact .ok _
  · exact .error nofun

theorem settled_toPlain (valueName : String) (t : AttributeType) (a : Attribute) :
    Settled (a.toPlain valueName t) := by
  unfold Attribute.toPlain
  split
  · exact settled_ofValue ..
  · exact .error nofun

theorem settled_resolve (valueName : String) (args : Arguments) (name : String) (t : Taking) :
    Settled (args.resolve valueName name t) := by
  unfold resolve
  split
  · refine (args.settled_take name).bind fun taken => ?_
    dsimp only
    split
    · exact (settled_ofValue ..).map
    · exact (settled_toPlain ..).map
    · exact .error nofun
  · refine (args.settled_take name).bind fun taken => ?_
    dsimp only
    split
    · exact .ok _
    · exact .ok _
    · exact (settled_ofValue ..).map
    · exact (settled_toPlain ..).map
  · refine (args.settled_take name).bind fun taken => ?_
    dsimp only
    split
    · split
      · exact .ok _
      · exact .error nofun
    · exact .error nofun
    · exact .error nofun
  · exact .ok _
  · exact .ok _

theorem settled_assign (valueName : String) (i : Instance) (args : Arguments)
    (steps : List Assignment) : Settled (assign valueName i args steps) := by
  induction steps generalizing i args with
  | nil => exact .ok i
  | cons s rest ih => exact (args.settled_resolve ..).bind fun taken => ih _ _

theorem settled_add (k : Constructor) (args : Arguments) (a : Argument) :
    Settled (args.add k a) := by
  unfold add
  split
  · exact .ok _
  · exact .error nofun

end Arguments

/-! ### Steps with converters -/

namespace Environment

variable {env : Environment}

/-- No converter answers that a search is endless. -/
def ConvertersSettled (env : Environment) : Prop :=
  ∀ k, (∃ name, Keyed.find? name env.converters = some k) → ∀ v, Settled (k.read v)

theorem ConvertersSettled.converted {α : Type} (h : env.ConvertersSettled) (r : ConverterRef)
    (v : Value) (g : Attribute → α) : Settled (do
      let k ← env.converters.get r
      (k.toAttribute v).map g) := by
  unfold Converters.get
  split
  · rename_i k found
    exact ((h k ⟨r.name, found⟩ v).map (f := fun content => _)).map
  · exact .error nofun

theorem ConvertersSettled.contentOf (h : env.ConvertersSettled) (f : MappedField) (v : Value) :
    Settled (env.contentOf f v) := by
  unfold Environment.contentOf
  split
  · exact .ok _
  · split
    · exact .ok _
    · exact h.converted _ v _

theorem ConvertersSettled.construct (h : env.ConvertersSettled) (m : Metadata) (es : Elements) :
    Settled (env.construct m es) := by
  unfold Environment.construct
  split
  · exact .error nofun
  · refine Settled.bind (Settled.foldlM (fun args p => ?_) _ _) fun args => ?_
    · have argument : Settled (env.argumentFor p es) := by
        unfold argumentFor
        split
        · exact .ok _
        · split
          · exact .ok _
          · exact h.converted _ _ _
        · exact .ok _
      exact argument.bind fun a => args.settled_add _ a
    · exact Arguments.settled_assign ..

theorem settled_newInstance (m : Metadata) : Settled (env.newInstance m) := by
  unfold newInstance
  split
  · exact .ok _
  · exact .error nofun

theorem settled_lift (b : VariantBinding) (i : Instance) : Settled (env.lift b i) := by
  unfold lift
  split
  · exact .ok _
  · exact .error nofun

theorem settled_variantIn (group : Keyed VariantBinding) (m : Metadata) (p : Polymorphism)
    (es : Elements) : Settled (variantIn group m p es) := by
  unfold variantIn
  split
  · exact .error nofun
  · split
    · exact .error nofun
    · split
      · exact .error nofun
      · exact .ok _

end Environment

theorem Registry.settled_known (r : Registry) (t : TypeRef) : Settled (r.known t) := by
  unfold known
  split
  · exact .ok _
  · exact .error fun name same => by cases same

/-! ### Listeners -/

namespace Events

theorem kind_refusal (p : Phase) (e : MapperError) : (refusal p e).kind = .listener := by
  unfold refusal
  split
  · assumption
  · rfl

theorem faults_notify (ev : Events) (p : Phase) (x : Payload) :
    Faults (·.kind = .listener) (ev.notify p x).1 := by
  show Faults _ (ev.callAll p x (ev.subscriptions p)).1
  generalize ev.subscriptions p = subscriptions
  induction subscriptions generalizing ev with
  | nil => exact .ok ()
  | cons s rest ih =>
    rw [callAll]
    rcases ev.call p x s with ⟨_ | e, later⟩
    · exact ih later
    · exact .error (kind_refusal p e)

theorem settled_notify (ev : Events) (p : Phase) (x : Payload) : Settled (ev.notify p x).1 :=
  .of_faults (ev.faults_notify p x) nofun

end Events

end EntityMapping
