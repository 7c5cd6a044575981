import Mathlib.Logic.Relation

/-!
Descending along a relation: what cannot be descended from for ever lies on no cycle, and a way to
something else can be cut short to one that does not come back to its start.
-/

namespace EntityMapping

open Relation

variable {α : Type} {R : α → α → Prop} {a b : α}

/-- What can be descended from only so often does not lead back to itself. -/
theorem not_transGen_self_of_acc (h : Acc (Function.swap R) a) : ¬ TransGen R a a := by
  have transitive := h.transGen
  clear h
  induction transitive with
  | intro a _ ih =>
    intro loop
    exact ih a (transGen_swap.2 loop) loop

theorem acc_of_reflTransGen (h : Acc (Function.swap R) a) (way : ReflTransGen R a b) :
    Acc (Function.swap R) b := by
  induction way with
  | refl => exact h
  | tail _ step ih => exact ih.inv step

/-- A way to something else, from where it leaves its start for the last time. -/
theorem exists_step_avoiding (way : ReflTransGen R a b) (other : b ≠ a) :
    ∃ c, R a c ∧ c ≠ a ∧ ReflTransGen (fun x y => R x y ∧ y ≠ a) c b := by
  induction way with
  | refl => exact absurd rfl other
  | @tail c b before step ih =>
    by_cases back : c = a
    · subst back
      exact ⟨b, step, other, .refl⟩
    · obtain ⟨d, first, apart, rest⟩ := ih back
      exact ⟨d, first, apart, rest.tail ⟨step, other⟩⟩

end EntityMapping
