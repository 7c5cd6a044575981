import EntityMapping.Proofs.Conversion.Steps

/-!
Reading goes by keys. What is read from some elements depends only on what is found under each key,
so neither their order matters nor what a key has besides its first value.
-/

namespace EntityMapping

open Environment

variable {env : Environment} {fresh : List TypeRef} {es es' : Elements} {m : Metadata}

/-- The same is found in both under every key. -/
def Elements.Agree (es es' : Elements) : Prop := ∀ key, Keyed.find? key es = Keyed.find? key es'

namespace Elements.Agree

/-! ### Variants and constructors -/

theorem variantIn (h : es.Agree es') (group : Keyed VariantBinding) (m : Metadata)
    (p : Polymorphism) : variantIn group m p es = variantIn group m p es' := by
  rw [Environment.variantIn, Environment.variantIn, h p.column]

theorem resolveVariant (h : es.Agree es') (m : Metadata) (p : Polymorphism) :
    resolveVariant m p es = resolveVariant m p es' :=
  congrArg Registry.ask (funext fun r => h.variantIn (r.group m.type) m p)

theorem argumentFor (h : es.Agree es') (p : Parameter) :
    env.argumentFor p es = env.argumentFor p es' := by
  rw [Environment.argumentFor, Environment.argumentFor, h p.name]

theorem construct (h : es.Agree es') (m : Metadata) : env.construct m es = env.construct m es' := by
  have same : (env.argumentFor · es) = (env.argumentFor · es') := funext h.argumentFor
  rw [Environment.construct, Environment.construct]
  cases m.constructor with
  | none => rfl
  | some k => simp only [congrFun same]

/-! ### Attributes -/

/-- A nested record is found in both or in neither; an embedded object has to be read from both. -/
theorem contentFrom (h : es.Agree es')
    (embedded : ∀ m, env.instantiate fresh m es = env.instantiate fresh m es') (f : MappedField) :
    env.contentFrom fresh f es = env.contentFrom fresh f es' := by
  cases type : f.type with
  | embedded t => simp only [contentFrom_embedded type, embedded]
  | entity t => rw [contentFrom_entity type, contentFrom_entity type, h f.key]
  | embeddables t => rw [contentFrom_embeddables type, contentFrom_embeddables type, h f.key]
  | plain T initial =>
    have leaf : f.type.element? = none := by rw [type]; rfl
    rw [contentFrom_leaf leaf, contentFrom_leaf leaf, h f.key]
  | converted r initial =>
    have leaf : f.type.element? = none := by rw [type]; rfl
    rw [contentFrom_leaf leaf, contentFrom_leaf leaf, h f.key]

theorem fillFrom (h : es.Agree es')
    (embedded : ∀ m, env.instantiate fresh m es = env.instantiate fresh m es') (i : Instance)
    (fs : List MappedField) : env.fillFrom fresh i es fs = env.fillFrom fresh i es' fs := by
  induction fs generalizing i with
  | nil => rw [Environment.fillFrom, Environment.fillFrom]
  | cons f fs ih =>
    rw [Environment.fillFrom, Environment.fillFrom, h.contentFrom embedded f]
    simp only [ih]

/-! ### Instances -/

/-- From elements in which the same is found the same instance is read, or there is the same
error. The types that are not being read get fewer from one object to the next on these elements. -/
theorem instantiate (h : es.Agree es') (fresh : List TypeRef) (m : Metadata) :
    env.instantiate fresh m es = env.instantiate fresh m es' := by
  induction size : fresh.length using Nat.strongRecOn generalizing fresh m with
  | _ n ih =>
    subst size
    rw [Environment.instantiate, Environment.instantiate, h.construct m]
    by_cases mem : m.type ∈ fresh
    · have same : ∀ n, env.instantiate (fresh.erase m.type) n es =
          env.instantiate (fresh.erase m.type) n es' :=
        fun n => ih _ (TypeRef.length_erase_lt mem) _ n rfl
      rw [dif_pos mem, dif_pos mem]
      cases m.polymorphism with
      | some p => simp only [h.resolveVariant, same]
      | none => simp only [h.fillFrom same]
    · rw [dif_neg mem, dif_neg mem]

theorem read (h : es.Agree es') (m : Metadata) : env.read m es = env.read m es' :=
  h.instantiate env.catalog.types m

end Elements.Agree

end EntityMapping
