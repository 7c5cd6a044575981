import EntityMapping.Condition

/-!
Records in the order of sort keys. The first key that tells two records apart decides; a
missing value counts as null, and values that cannot be compared count as equal. Equal
records keep their order: each record is placed, from the end, behind the first one that it
does not come before.
-/

namespace EntityMapping

namespace SortKey

/-- The order of two records by one key. -/
def order (k : SortKey) (r s : Record) : Ordering :=
  let a := (r.findPath k.name).getD .null
  let b := (s.findPath k.name).getD .null
  let o := match a.compare b with
    | .ok o => o
    | .error _ => .eq
  match k.direction with
  | .ascending => o
  | .descending => o.swap

end SortKey

namespace Record

/-- The order of two records by some keys. -/
def orderBy (r s : Record) : List SortKey → Ordering
  | [] => .eq
  | k :: ks => (k.order r s).then (orderBy r s ks)

/-- Places a record among others, which come with the last one first. -/
def place (ks : List SortKey) (r : Record) : List Record → List Record
  | [] => [r]
  | s :: rest => if r.orderBy s ks = .lt then s :: place ks r rest else r :: s :: rest

/-- Some records in the order of some keys. -/
def sortBy (ks : List SortKey) (rs : List Record) : List Record :=
  (rs.foldl (fun placed r => place ks r placed) []).reverse

theorem perm_place (ks : List SortKey) (r : Record) (rs : List Record) :
    (place ks r rs).Perm (r :: rs) := by
  induction rs with
  | nil => exact .refl _
  | cons s rest ih =>
    unfold place
    split
    · exact (ih.cons s).trans (.swap r s rest)
    · exact .refl _

/-- Sorting neither loses nor adds a record. -/
theorem perm_sortBy (ks : List SortKey) (rs : List Record) : (sortBy ks rs).Perm rs := by
  suffices h : ∀ placed : List Record,
      (rs.foldl (fun placed r => place ks r placed) placed).Perm (rs ++ placed) by
    simpa [sortBy] using (List.reverse_perm _).trans (h [])
  induction rs with
  | nil => exact fun placed => .refl placed
  | cons r rest ih =>
    intro placed
    refine (ih (place ks r placed)).trans ?_
    exact ((perm_place ks r placed).append_left rest).trans List.perm_middle

end Record

end EntityMapping
