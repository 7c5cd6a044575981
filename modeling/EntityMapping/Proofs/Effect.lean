import EntityMapping.Error

/-!
Runs of steps that change a state and may fail. A run gives the answer or the error together with
the state that it leaves, also after an error. What holds of the state and is kept by the parts of
a step is kept by the step.
-/

namespace EntityMapping.Effect

variable {σ α β : Type}

/-- A step that may change a state, and keeps what it has changed even if it fails. -/
abbrev Step (σ α : Type) := ExceptT MapperError (StateM σ) α

/-! ### Runs -/

@[simp] theorem run_pure (a : α) (s : σ) : (pure a : Step σ α).run s = (.ok a, s) := rfl

@[simp] theorem run_throw (e : MapperError) (s : σ) :
    (throw e : Step σ α).run s = (.error e, s) := rfl

@[simp] theorem run_get (s : σ) : (get : Step σ σ).run s = (.ok s, s) := rfl

@[simp] theorem run_lift (x : StateM σ α) (s : σ) :
    (liftM x : Step σ α).run s = (.ok (x.run s).1, (x.run s).2) := rfl

theorem run_bind (x : Step σ α) (f : α → Step σ β) (s : σ) :
    (x >>= f).run s =
      match x.run s with
      | (.ok a, t) => (f a).run t
      | (.error e, t) => (.error e, t) := by
  have unfolded : (x >>= f).run s = ExceptT.bindCont f (x.run s).1 (x.run s).2 := rfl
  rw [unfolded]
  rcases x.run s with ⟨e | a, t⟩ <;> rfl

theorem run_bind_of_ok {x : Step σ α} {f : α → Step σ β} {s t : σ} {a : α}
    (h : x.run s = (.ok a, t)) : (x >>= f).run s = (f a).run t := by
  rw [run_bind, h]

theorem run_bind_congr {x y : Step σ α} {f : α → Step σ β} {s t : σ} (h : x.run s = y.run t) :
    (x >>= f).run s = (y >>= f).run t := by
  rw [run_bind, run_bind, h]

theorem run_bind_eq_ok {x : Step σ α} {f : α → Step σ β} {s u : σ} {b : β} :
    (x >>= f).run s = (.ok b, u) ↔ ∃ a t, x.run s = (.ok a, t) ∧ (f a).run t = (.ok b, u) := by
  rw [run_bind]
  rcases x.run s with ⟨e | a, t⟩
  · exact ⟨nofun, fun ⟨_, _, h, _⟩ => by cases h⟩
  · exact ⟨fun h => ⟨a, t, rfl, h⟩, fun ⟨_, _, h, g⟩ => by cases h; exact g⟩

theorem exists_of_isOk {run : Except MapperError α × σ} (h : run.1.isOk = true) :
    ∃ a s, run = (.ok a, s) := by
  rcases run with ⟨e | a, s⟩
  · cases h
  · exact ⟨a, s, rfl⟩

/-- Two steps end with the first one's error, or with what the second one makes of the answer. -/
theorem run_bind_eq {x : Step σ α} {f : α → Step σ β} {s u : σ} {answer : Except MapperError β}
    (h : (x >>= f).run s = (answer, u)) :
    (∃ e, answer = .error e ∧ x.run s = (.error e, u)) ∨
      ∃ a t, x.run s = (.ok a, t) ∧ (f a).run t = (answer, u) := by
  rw [run_bind] at h
  rcases first : x.run s with ⟨e | a, t⟩
  · rw [first] at h
    cases h
    exact .inl ⟨e, rfl, rfl⟩
  · rw [first] at h
    exact .inr ⟨a, t, rfl, h⟩

/-! ### What a step keeps -/

/-- A property of the state outlasts a step, whatever the step answers. -/
def Keeps (P : σ → Prop) (x : StateM σ α) : Prop := ∀ s, P s → P (x.run s).2

namespace Keeps

variable {P : σ → Prop}

theorem pure (a : α) : Keeps P (pure a : StateM σ α) := fun _ h => h

theorem seq {x : StateM σ α} {f : α → StateM σ β} (hx : Keeps P x) (hf : ∀ a, Keeps P (f a)) :
    Keeps P (x >>= f) := fun s hs => hf _ _ (hx s hs)

theorem ok (a : α) : Keeps P (Pure.pure a : Step σ α).run := fun _ h => h

theorem throw (e : MapperError) : Keeps P (throw e : Step σ α).run := fun _ h => h

theorem get : Keeps P (get : Step σ σ).run := fun _ h => h

/-- What both parts of a step keep is kept, if the second part takes place or not. -/
theorem bind {x : Step σ α} {f : α → Step σ β} (hx : Keeps P x.run) (hf : ∀ a, Keeps P (f a).run) :
    Keeps P (x >>= f).run := by
  intro s hs
  have left : P (x.run s).2 := hx s hs
  show P ((x >>= f).run s).2
  rw [run_bind]
  rcases h : x.run s with ⟨e | a, t⟩
  · rw [h] at left
    exact left
  · rw [h] at left
    exact hf a t left

end Keeps

/-! ### What a step answers -/

/-- Whatever a step answers from a state with a property has a property of its own, and the state
keeps its one. -/
def Yields (I : σ → Prop) (x : Step σ α) (P : α → Prop) : Prop :=
  ∀ s a t, I s → x.run s = (.ok a, t) → P a ∧ I t

namespace Yields

variable {I : σ → Prop} {P : α → Prop} {Q : β → Prop}

theorem pure {a : α} (h : P a) : Yields I (pure a : Step σ α) P := by
  intro s b t hs run
  cases run
  exact ⟨h, hs⟩

theorem throw (e : MapperError) : Yields I (throw e : Step σ α) P := by
  intro s a t hs run
  cases run

theorem bind {x : Step σ α} {f : α → Step σ β} (hx : Yields I x P)
    (hf : ∀ a, P a → Yields I (f a) Q) : Yields I (x >>= f) Q := by
  intro s b u hs run
  obtain ⟨a, t, first, second⟩ := run_bind_eq_ok.1 run
  obtain ⟨ha, ht⟩ := hx s a t hs first
  exact hf a ha t b u ht second

theorem imp {P' : α → Prop} {x : Step σ α} (hx : Yields I x P) (h : ∀ a, P a → P' a) :
    Yields I x P' := by
  intro s a t hs run
  obtain ⟨ha, ht⟩ := hx s a t hs run
  exact ⟨h a ha, ht⟩

end Yields

/-! ### How a step ends -/

/-- From a state with a property, a step that answers does so with something that has a property of
its own, and the state keeps its one; a step that fails does so with an error of some sort. -/
structure Meets (I : σ → Prop) (x : Step σ α) (P : α → Prop) (Q : MapperError → Prop) : Prop where
  yields : Yields I x P
  fails : ∀ s e t, I s → x.run s = (.error e, t) → Q e

namespace Meets

variable {I : σ → Prop} {P : α → Prop} {R : β → Prop} {Q : MapperError → Prop}

theorem pure {a : α} (h : P a) : Meets I (pure a : Step σ α) P Q := by
  refine ⟨.pure h, fun s e t _ run => ?_⟩
  cases run

theorem throw {e : MapperError} (h : Q e) : Meets I (throw e : Step σ α) P Q := by
  refine ⟨.throw e, fun s d t _ run => ?_⟩
  cases run
  exact h

/-- Two steps fail as the first one does, or as the second one does after it. -/
theorem bind {x : Step σ α} {f : α → Step σ β} (hx : Meets I x P Q)
    (hf : ∀ a, P a → Meets I (f a) R Q) : Meets I (x >>= f) R Q := by
  refine ⟨hx.yields.bind fun a ha => (hf a ha).yields, fun s e u hs run => ?_⟩
  obtain ⟨d, same, first⟩ | ⟨a, t, first, second⟩ := run_bind_eq run
  · cases same
    exact hx.fails s e u hs first
  · obtain ⟨ha, ht⟩ := hx.yields s a t hs first
    exact (hf a ha).fails t e u ht second

theorem imp {P' : α → Prop} {x : Step σ α} (hx : Meets I x P Q) (h : ∀ a, P a → P' a) :
    Meets I x P' Q := ⟨hx.yields.imp h, hx.fails⟩

end Meets

/-! ### Two runs -/

/-- From a state with a property two steps fail with one error, or answer with things that belong
together. They leave one state, which has the property after an answer. -/
def Alike (I : σ → Prop) (x : Step σ α) (y : Step σ β) (R : α → β → Prop) : Prop :=
  ∀ s, I s → (∃ e t, x.run s = (.error e, t) ∧ y.run s = (.error e, t)) ∨
    ∃ a b t, x.run s = (.ok a, t) ∧ y.run s = (.ok b, t) ∧ R a b ∧ I t

namespace Alike

variable {γ δ : Type} {I : σ → Prop} {R : α → β → Prop} {S : γ → δ → Prop}

theorem pure {a : α} {b : β} (h : R a b) :
    Alike I (pure a : Step σ α) (Pure.pure b : Step σ β) R :=
  fun s hs => .inr ⟨a, b, s, rfl, rfl, h, hs⟩

theorem throw (e : MapperError) :
    Alike I (throw e : Step σ α) (MonadExcept.throw e : Step σ β) R :=
  fun s _ => .inl ⟨e, s, rfl, rfl⟩

theorem bind {x : Step σ α} {y : Step σ β} {f : α → Step σ γ} {g : β → Step σ δ}
    (first : Alike I x y R) (second : ∀ a b, R a b → Alike I (f a) (g b) S) :
    Alike I (x >>= f) (y >>= g) S := by
  intro s hs
  rw [run_bind, run_bind]
  obtain ⟨e, t, failed, failed'⟩ | ⟨a, b, t, run, run', related, ht⟩ := first s hs
  · rw [failed, failed']
    exact .inl ⟨e, t, rfl, rfl⟩
  · rw [run, run']
    exact second a b related t ht

theorem imp {R' : α → β → Prop} {x : Step σ α} {y : Step σ β} (h : Alike I x y R)
    (weaker : ∀ a b, R a b → R' a b) : Alike I x y R' := by
  intro s hs
  obtain failed | ⟨a, b, t, run, run', related, ht⟩ := h s hs
  · exact .inl failed
  · exact .inr ⟨a, b, t, run, run', weaker a b related, ht⟩

theorem of_yields {P : α → Prop} {x : Step σ α} (h : Yields I x P) :
    Alike I x x fun a b => a = b ∧ P a := by
  intro s hs
  rcases run : x.run s with ⟨e | a, t⟩
  · exact .inl ⟨e, t, rfl, rfl⟩
  · obtain ⟨ha, ht⟩ := h s a t hs run
    exact .inr ⟨a, a, t, rfl, rfl, ⟨rfl, ha⟩, ht⟩

end Alike

end EntityMapping.Effect
