import EntityMapping.Schema.Build

/-!
Declarations that are refused. Whatever is wrong with a declaration is an error of the
configuration, never one of another kind: a property of every check, which checks one after the
other have as well.
-/

namespace EntityMapping.Schema

variable {α β : Type} {catalog : Catalog} {config : Config}

/-- A check that fails blames the configuration. -/
def Blames (x : Except MapperError α) : Prop := ∀ e, x = .error e → e.kind = .configuration

namespace Blames

theorem ok (a : α) : Blames (.ok a) := nofun

theorem error {e : MapperError} (h : e.kind = .configuration) :
    Blames (.error e : Except MapperError α) := by
  rintro _ ⟨⟩
  exact h

theorem bind {x : Except MapperError α} {f : α → Except MapperError β} (hx : Blames x)
    (hf : ∀ a, Blames (f a)) : Blames (x >>= f) := by
  cases x with
  | error e => exact error (hx e rfl)
  | ok a => exact hf a

theorem map {x : Except MapperError α} {f : α → β} (hx : Blames x) : Blames (x.map f) := by
  cases x with
  | error e => exact error (hx e rfl)
  | ok a => exact ok (f a)

end Blames

/-! ### The checks -/

theorem blames_checkAfter (t : TypeRef) (before : List MappedField) (f : MappedField) :
    Blames (checkAfter t before f) := by
  unfold checkAfter
  split
  · exact .error rfl
  · split
    · exact .error rfl
    · split
      · exact .error rfl
      · exact .ok ()

theorem blames_checkAllAfter (t : TypeRef) (before fs : List MappedField) :
    Blames (checkAllAfter t before fs) := by
  induction fs generalizing before with
  | nil => exact .ok ()
  | cons f fs ih => exact (blames_checkAfter t before f).bind fun _ => ih _

theorem blames_fieldsOf (d : Descriptor) : Blames (fieldsOf config d) :=
  (blames_checkAllAfter _ _ _).bind fun _ => .ok _

theorem blames_collectKeys (fresh : List TypeRef) (seen : List String) (fs : List MappedField) :
    Blames (collectKeys catalog config fresh seen fs) := by
  induction fresh, seen, fs using collectKeys.induct with
  | case1 fresh seen =>
    rw [collectKeys]
    exact .ok seen
  | case2 fresh seen f fs below rest =>
    rw [collectKeys]
    refine .bind ?_ fun between => rest between
    split
    · split
      · rename_i entered
        exact (blames_fieldsOf _).bind fun children => below _ entered children
      · exact .error rfl
    · split
      · exact .error rfl
      · exact .ok _

theorem blames_indexFields (fresh : List TypeRef) (path native : String)
    (index : Keyed NativePath) (fs : List MappedField) :
    Blames (indexFields catalog config fresh path native index fs) := by
  induction fresh, path, native, index, fs using indexFields.induct with
  | case1 fresh path native index =>
    rw [indexFields]
    exact .ok index
  | case2 fresh path native index f fs =>
    rename_i below rest
    rw [indexFields]
    refine .bind ?_ fun between => rest between
    split
    · exact .ok _
    · refine .bind ?_ fun _ => .ok _
      split
      · rename_i entered
        exact (blames_fieldsOf _).bind fun children => below _ entered children
      · exact .ok []

theorem blames_checkConstructible (d : Descriptor) : Blames (checkConstructible d) := by
  unfold checkConstructible
  split
  · exact .ok ()
  · exact .error rfl

theorem blames_checkVariants (d : Descriptor) : Blames (checkVariants d) := by
  unfold checkVariants
  split
  · exact .ok ()
  · exact .error rfl

theorem blames_nameAndBinding (d : Descriptor) : Blames (nameAndBinding catalog config d) := by
  unfold nameAndBinding
  split
  · exact .ok _
  · refine .map ?_
    unfold bindVariant
    dsimp only
    split
    · exact .error rfl
    · exact .ok _

/-- A declaration that is refused is an error of the configuration. -/
theorem blames_build (catalog : Catalog) (config : Config) (t : TypeRef) :
    Blames (build catalog config t) :=
  (blames_fieldsOf _).bind fun fs => (blames_collectKeys _ [] fs).bind fun _ =>
    (blames_checkConstructible _).bind fun _ => (blames_checkVariants _).bind fun _ =>
      (blames_nameAndBinding _).bind fun _ => (blames_indexFields _ "" "" [] fs).bind fun _ =>
        .ok _

end EntityMapping.Schema
