import EntityMapping.Proofs.Conversion.Steps
import EntityMapping.Proofs.Registry.Loading

/-!
Reading again. What a record is read as does not depend on the registry, once it was read: every
type that was needed has been loaded on the way, and what is loaded later neither changes these nor
takes a discriminator from them. So the same elements are read as the same instance ever after.
-/

namespace EntityMapping

open Effect Environment Registry

variable {env : Environment} {α β : Type}

/-- A step of loading that has answered gives the same answer from every registry that has what it
has left, and adds nothing more. -/
def Steady (env : Environment) (x : Loading α) : Prop :=
  ∀ (r s : Registry) (a : α), Consistent env r → x.run r = (.ok a, s) →
    Grown env r s ∧ ∀ u, Consistent env u → Le s u → x.run u = (.ok a, u)

namespace Steady

theorem pure (a : α) : Steady env (Pure.pure a) := by
  intro r s b h run
  cases run
  exact ⟨h.grown, fun u _ _ => rfl⟩

theorem throw (e : MapperError) : Steady env (throw e : Loading α) := by
  intro r s a _ run
  cases run

theorem bind {x : Loading α} {f : α → Loading β} (hx : Steady env x)
    (hf : ∀ a, Steady env (f a)) : Steady env (x >>= f) := by
  intro r u b h run
  obtain ⟨a, s, first, second⟩ := run_bind_eq_ok.1 run
  obtain ⟨grown, again⟩ := hx _ _ _ h first
  obtain ⟨further, again'⟩ := hf a _ _ _ grown.consistent second
  refine ⟨grown.trans further, fun v hv le => ?_⟩
  rw [run_bind_of_ok (again v hv (further.le.trans le))]
  exact again' v hv le

theorem load (t : TypeRef) : Steady env (env.load t) := by
  intro r s m h run
  obtain ⟨grown, found⟩ := h.grown_load run
  refine ⟨grown, fun u hu le => ?_⟩
  rw [Environment.load, run_loadFrom, hu.find?_mono le (found m rfl)]

theorem ask {f : Registry → Except MapperError α}
    (mono : ∀ {r u : Registry} {a : α}, Consistent env r → Consistent env u → Le r u →
      f r = .ok a → f u = .ok a) : Steady env (Registry.ask f) := by
  intro r s a h run
  obtain ⟨answer, rfl⟩ := run_ask_eq_ok.1 run
  exact ⟨h.grown, fun u hu le => run_ask_of_ok (mono h hu le answer)⟩

theorem known (t : TypeRef) : Steady env (Registry.ask (·.known t)) :=
  ask fun _ hu le answer => known_eq_ok.2 (hu.find?_mono le (known_eq_ok.1 answer))

end Steady

/-! ### Variants -/

theorem Registry.Consistent.group_inv {r : Registry} (h : Consistent env r) {parent : TypeRef}
    {d : String} {b : VariantBinding} (found : (r.group parent).find? d = some b) :
    b.parent = parent ∧ b.discriminator = d ∧ ∃ m ∈ r.loaded, m.binding = some b := by
  rw [group, Keyed.find?_sorted] at found
  obtain ⟨c, mem, same⟩ := List.mem_map.1 (Keyed.mem_under.1 (List.mem_of_getLast? found))
  obtain ⟨rfl, rfl⟩ := Prod.mk.inj same
  obtain ⟨there, parent⟩ := List.mem_filter.1 mem
  exact ⟨by simpa using parent, rfl, h.backed c there⟩

theorem Registry.Consistent.find?_group_mono {r s : Registry} (h : Consistent env r)
    (hs : Consistent env s) (le : Le r s) {parent : TypeRef} {d : String} {b : VariantBinding}
    (found : (r.group parent).find? d = some b) : (s.group parent).find? d = some b := by
  obtain ⟨rfl, rfl, m, mem, bound⟩ := h.group_inv found
  exact hs.find?_group (hs.find?_eq_some.2 ⟨le.loaded mem, rfl⟩) bound

theorem Steady.resolveVariant (m : Metadata) (p : Polymorphism) (es : Elements) :
    Steady env (resolveVariant m p es) := by
  refine Steady.ask fun {r u b} hr hu le answer => ?_
  obtain ⟨d, column, found⟩ := variantIn_eq_ok_iff.1 answer
  exact variantIn_eq_ok_iff.2 ⟨d, column, hr.find?_group_mono hu le found⟩

/-! ### Reading -/

/-- Filling that has succeeded succeeds in the same way ever after. -/
def SteadyFill (env : Environment) (x : StateM Registry (Except MapperError Unit × Instance)) :
    Prop :=
  ∀ (r s : Registry) (j : Instance), Consistent env r → x.run r = ((.ok (), j), s) →
    Grown env r s ∧ ∀ u, Consistent env u → Le s u → x.run u = ((.ok (), j), u)

namespace Environment

variable {fresh : List TypeRef} {es : Elements} {i j : Instance} {f : MappedField}
  {fs : List MappedField} {r s : Registry}

/-- Filling succeeds only where the first attribute can be read and written. -/
theorem run_fillFrom_cons_eq_ok
    (run : (env.fillFrom fresh i es (f :: fs)).run r = ((.ok (), j), s)) :
    ∃ c u k, (env.contentFrom fresh f es).run r = (.ok c, u) ∧
      (match c with
        | none => k = i
        | some c => i.write f c = .ok k) ∧
      (env.fillFrom fresh k es fs).run u = ((.ok (), j), s) := by
  rcases one : (env.contentFrom fresh f es).run r with ⟨e | c, u⟩
  · rw [run_fillFrom_of_error one] at run
    cases run
  · cases c with
    | none =>
      rw [run_fillFrom_of_none one] at run
      exact ⟨none, u, i, rfl, rfl, run⟩
    | some c =>
      cases written : i.write f c with
      | error e =>
        rw [run_fillFrom_of_refused one written] at run
        cases run
      | ok k =>
        rw [run_fillFrom_of_some one written] at run
        exact ⟨some c, u, k, rfl, written, run⟩

theorem steadyFill_nil : SteadyFill env (env.fillFrom fresh i es []) := by
  intro r s j h run
  rw [run_fillFrom_nil] at run
  cases run
  exact ⟨h.grown, fun u _ _ => run_fillFrom_nil⟩

theorem steadyFill_cons (own : Steady env (env.contentFrom fresh f es))
    (rest : SteadyFill env (env.fillFrom fresh i es fs))
    (filled : ∀ k, SteadyFill env (env.fillFrom fresh k es fs)) :
    SteadyFill env (env.fillFrom fresh i es (f :: fs)) := by
  intro r s j h run
  obtain ⟨c, u, k, one, written, later⟩ := run_fillFrom_cons_eq_ok run
  obtain ⟨grown, again⟩ := own _ _ _ h one
  cases c with
  | none =>
    subst written
    obtain ⟨further, again'⟩ := rest _ _ _ grown.consistent later
    refine ⟨grown.trans further, fun v hv le => ?_⟩
    rw [run_fillFrom_of_none (again v hv (further.le.trans le))]
    exact again' v hv le
  | some c =>
    obtain ⟨further, again'⟩ := filled k _ _ _ grown.consistent later
    refine ⟨grown.trans further, fun v hv le => ?_⟩
    rw [run_fillFrom_of_some (again v hv (further.le.trans le)) written]
    exact again' v hv le

theorem steady_of_fill {x : StateM Registry (Except MapperError Unit × Instance)}
    (hx : SteadyFill env x) : Steady env (ofFill x) := by
  intro r s j h run
  obtain ⟨grown, again⟩ := hx _ _ _ h (run_ofFill_eq_ok.1 run)
  exact ⟨grown, fun v hv le => run_ofFill_eq_ok.2 (again v hv le)⟩

theorem handedOn_steady : HandedOn env (fun x => Steady env x) (SteadyFill env) where
  pure := .pure
  throw := .throw
  bind := .bind
  load := .load
  known := .known
  resolve := .resolveVariant
  fill := steady_of_fill
  nil _ _ _ := steadyFill_nil
  cons := steadyFill_cons

/-- Reading is steady. -/
theorem steady_instantiate (fresh : List TypeRef) (m : Metadata) (es : Elements) :
    Steady env (env.instantiate fresh m es) :=
  handedOn_steady.instantiate.1 fresh m es

end Environment

end EntityMapping
