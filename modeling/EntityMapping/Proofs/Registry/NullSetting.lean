import EntityMapping.Proofs.Registry.Reachable

/-!
What the setting for nulls does not reach. Declarations are checked by the two columns of a
configuration alone, so types are accepted and loaded in the same way whether nulls are written or
left out, and the same registries come about.
-/

namespace EntityMapping

/-- An environment in which nulls are written, or in which they are left out. -/
def Environment.withNulls (env : Environment) (written : Bool) : Environment :=
  { env with config := { env.config with materializeNulls := written } }

namespace Schema

variable {catalog : Catalog} {config config' : Config}

/-! ### Declarations -/

theorem mapField_congr (id : config.idColumn = config'.idColumn) :
    mapField config = mapField config' := by
  funext owner f
  rw [mapField, mapField, keyOf, keyOf, id]

theorem fieldsOf_congr (id : config.idColumn = config'.idColumn) (d : Descriptor) :
    fieldsOf config d = fieldsOf config' d := by
  rw [fieldsOf, fieldsOf, mapField_congr id]

theorem collectKeys_congr (id : config.idColumn = config'.idColumn) (fresh : List TypeRef)
    (seen : List String) (fs : List MappedField) :
    collectKeys catalog config fresh seen fs = collectKeys catalog config' fresh seen fs := by
  induction fresh, seen, fs using collectKeys.induct with
  | case1 fresh seen => rw [collectKeys, collectKeys]
  | case2 fresh seen f fs below rest =>
    have inner : ∀ t,
        (if _h : t ∈ fresh then do
          let children ← fieldsOf config (catalog.describe t)
          collectKeys catalog config (fresh.erase t) seen children
        else .error (.embedsItself t.name f.field)) =
        if _h : t ∈ fresh then do
          let children ← fieldsOf config' (catalog.describe t)
          collectKeys catalog config' (fresh.erase t) seen children
        else .error (.embedsItself t.name f.field) := by
      intro t
      by_cases mem : t ∈ fresh
      · rw [dif_pos mem, dif_pos mem, fieldsOf_congr id]
        exact congrArg _ (funext (below t mem))
      · rw [dif_neg mem, dif_neg mem]
    rw [collectKeys, collectKeys]
    simp only [inner, rest]

theorem indexFields_congr (id : config.idColumn = config'.idColumn) (fresh : List TypeRef)
    (path native : String) (index : Keyed NativePath) (fs : List MappedField) :
    indexFields catalog config fresh path native index fs =
      indexFields catalog config' fresh path native index fs := by
  induction fresh, path, native, index, fs using indexFields.induct with
  | case1 => rw [indexFields, indexFields]
  | case2 fresh path native index f fs here below rest =>
    have inner : ∀ t,
        (if _h : t ∈ fresh then do
          let children ← fieldsOf config (catalog.describe t)
          indexFields catalog config (fresh.erase t) (here ++ ".") (nativePrefix native f) []
            children
        else .ok []) =
        if _h : t ∈ fresh then do
          let children ← fieldsOf config' (catalog.describe t)
          indexFields catalog config' (fresh.erase t) (here ++ ".") (nativePrefix native f) []
            children
        else .ok [] := by
      intro t
      by_cases mem : t ∈ fresh
      · rw [dif_pos mem, dif_pos mem, fieldsOf_congr id]
        exact congrArg _ (funext (below t mem))
      · rw [dif_neg mem, dif_neg mem]
    rw [indexFields, indexFields]
    dsimp only [here] at inner rest
    simp only [inner, rest]

/-- A declaration is checked by the columns of ids and discriminators. -/
theorem build_congr (id : config.idColumn = config'.idColumn)
    (discriminator : config.discriminatorColumn = config'.discriminatorColumn) (t : TypeRef) :
    build catalog config t = build catalog config' t := by
  unfold build recordKeys pathIndex nameAndBinding bindVariant Schema.discriminatorColumn
  simp only [fieldsOf_congr id, collectKeys_congr id, indexFields_congr id, discriminator]

end Schema

namespace Environment

open Registry

theorem build_withNulls (env : Environment) (written : Bool) (t : TypeRef) :
    Schema.build (env.withNulls written).catalog (env.withNulls written).config t =
      Schema.build env.catalog env.config t := by
  have id : (env.withNulls written).config.idColumn = env.config.idColumn := rfl
  have discriminator :
      (env.withNulls written).config.discriminatorColumn = env.config.discriminatorColumn := rfl
  exact Schema.build_congr id discriminator t

/-! ### Loading -/

/-- Types are loaded in the same way whether nulls are written or left out. -/
theorem loadFrom_withNulls (env : Environment) (written : Bool) :
    (∀ fresh t, (env.withNulls written).loadFrom fresh t = env.loadFrom fresh t) ∧
    (∀ fresh ts, (env.withNulls written).loadAllFrom fresh ts = env.loadAllFrom fresh ts) := by
  refine loadFrom.mutual_induct _ _ ?_ ?_ ?_
  · intro fresh t variants
    refine ExceptT.ext (StateT.ext fun r => ?_)
    show ((env.withNulls written).loadFrom fresh t).run r = (env.loadFrom fresh t).run r
    rw [run_loadFrom, run_loadFrom, build_withNulls]
    by_cases mem : t ∈ fresh
    · simp only [if_pos mem]
      cases Schema.build env.catalog env.config t with
      | error e => rfl
      | ok m =>
        have same : (env.withNulls written).loadAllFrom (fresh.erase t) m.variants =
            env.loadAllFrom (fresh.erase t) m.variants := variants mem m
        simp only [same]
    · simp only [if_neg mem]
  · intro fresh
    rw [loadAllFrom, loadAllFrom]
  · intro fresh t ts first rest
    rw [loadAllFrom, loadAllFrom, first, rest]

theorem load_withNulls (env : Environment) (written : Bool) (t : TypeRef) :
    (env.withNulls written).load t = env.load t :=
  (loadFrom_withNulls env written).1 _ t

end Environment

end EntityMapping
