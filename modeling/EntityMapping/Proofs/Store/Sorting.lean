import EntityMapping.Proofs.Value.Order
import EntityMapping.Store.Ordering
import Mathlib.Tactic.SplitIfs

/-!
Sort keys as an order of records. The order of two records is always the reverse of their order the
other way round. It is not always transitive: a key can send three records round, when it puts one
before another while the value of the third stands beside both, and the keys after it do not break
the circle. Nothing else goes wrong. Records among which there are no such three are in a legal
order, and sorting them puts them in order.
-/

namespace EntityMapping

/-! ### One key -/

namespace SortKey

variable {k : SortKey} {x y z : Record}

/-- What a record is sorted by: the value at the path of a key, null if there is none. -/
def valueIn (k : SortKey) (r : Record) : Value := (r.findPath k.name).getD .null

theorem order_ascending (h : k.direction = .ascending) :
    k.order x y = (k.valueIn x).sortOrder (k.valueIn y) := by
  simp only [order, h]
  rfl

theorem order_descending (h : k.direction = .descending) :
    k.order x y = (k.valueIn y).sortOrder (k.valueIn x) := by
  rw [Value.sortOrder_swap]
  simp only [order, h]
  rfl

theorem order_swap (k : SortKey) (x y : Record) : k.order x y = (k.order y x).swap := by
  cases h : k.direction with
  | ascending => rw [order_ascending h, order_ascending h, Value.sortOrder_swap]
  | descending => rw [order_descending h, order_descending h, Value.sortOrder_swap]

theorem order_lt_trans (first : k.order x y = .lt) (second : k.order y z = .lt) :
    k.order x z = .lt := by
  cases h : k.direction with
  | ascending =>
    rw [order_ascending h] at first second ⊢
    exact Value.sortOrder_lt_trans first second
  | descending =>
    rw [order_descending h] at first second ⊢
    exact Value.sortOrder_lt_trans second first

theorem order_eq_gt (first : k.order x y = .lt) (second : k.order y z = .lt) :
    k.order z x = .gt := by
  rw [order_swap, order_lt_trans first second]
  rfl

theorem order_eq_eq : k.order x y = .eq ↔ (k.valueIn x).sortOrder (k.valueIn y) = .eq := by
  cases h : k.direction with
  | ascending => rw [order_ascending h]
  | descending => rw [order_descending h, Value.sortOrder_swap, Ordering.swap_eq_eq]

theorem order_eq_comm : k.order x y = .eq ↔ k.order y x = .eq := by
  rw [order_swap, Ordering.swap_eq_eq]

/-- What a key puts beside two records that it puts in order has there a value that blurs theirs. -/
theorem blurs_of_beside (before : k.order x y = .lt) (right : k.order y z = .eq)
    (left : k.order z x = .eq) : (k.valueIn z).Blurs (k.valueIn x) (k.valueIn y) := by
  rw [order_eq_eq] at right
  rw [order_eq_comm, order_eq_eq] at left
  cases h : k.direction with
  | ascending =>
    rw [order_ascending h] at before
    exact Value.blurs_of_beside (Value.precedes_iff.1 before) left right
  | descending =>
    rw [order_descending h] at before
    exact (Value.blurs_of_beside (Value.precedes_iff.1 before) right left).symm

theorem beside_of_blurs (blurs : (k.valueIn z).Blurs (k.valueIn x) (k.valueIn y)) :
    k.order y z = .eq ∧ k.order z x = .eq := by
  obtain ⟨left, right⟩ := blurs.beside
  exact ⟨order_eq_eq.2 right, order_eq_comm.1 (order_eq_eq.2 left)⟩

end SortKey

/-! ### Several keys -/

namespace Record

variable {ks : List SortKey} {x y z : Record} {rs : List Record}

@[simp] theorem orderBy_cons (k : SortKey) (ks : List SortKey) (x y : Record) :
    x.orderBy y (k :: ks) = (k.order x y).then (x.orderBy y ks) := rfl

theorem orderBy_swap (ks : List SortKey) (x y : Record) :
    x.orderBy y ks = (y.orderBy x ks).swap := by
  induction ks with
  | nil => rfl
  | cons k ks ih => rw [orderBy_cons, orderBy_cons, Ordering.swap_then, ← k.order_swap, ← ih]

/-- Records that go round: a first one before a second one, which is not behind a third one, which
is not behind the first one. -/
def Circle (ks : List SortKey) (x y z : Record) : Prop :=
  x.orderBy y ks = .lt ∧ y.orderBy z ks ≠ .gt ∧ z.orderBy x ks ≠ .gt

/-- How keys send three records round. The first key that does not put all of them beside each other
puts one before another and has a value of the third one that stands beside both, and the keys after
it leave the way back open. -/
inductive Loops : List SortKey → Record → Record → Record → Prop where
  | here {k : SortKey} {ks : List SortKey} {x y z : Record} (before : k.order x y = .lt)
      (blurs : (k.valueIn z).Blurs (k.valueIn x) (k.valueIn y)) (right : y.orderBy z ks ≠ .gt)
      (left : z.orderBy x ks ≠ .gt) : Loops (k :: ks) x y z
  | later {k : SortKey} {ks : List SortKey} {x y z : Record} (first : k.order x y = .eq)
      (right : k.order y z = .eq) (left : k.order z x = .eq) (rest : Loops ks x y z) :
      Loops (k :: ks) x y z

theorem Loops.circle (h : Loops ks x y z) : Circle ks x y z := by
  induction h with
  | here before blurs right left =>
    obtain ⟨beside, beside'⟩ := SortKey.beside_of_blurs blurs
    simp [Circle, before, beside, beside', right, left]
  | later first right left _ ih => simpa [Circle, first, right, left] using ih

theorem lt_or_of_then {o p : Ordering} (h : o.then p ≠ .gt) : o = .lt ∨ o = .eq ∧ p ≠ .gt := by
  cases o <;> simp_all

/-- Only so do records go round. -/
theorem Circle.loops (h : Circle ks x y z) : Loops ks x y z ∨ Loops ks y z x ∨ Loops ks z x y := by
  induction ks with
  | nil =>
    obtain ⟨before, -, -⟩ := h
    cases before
  | cons k ks ih =>
    obtain ⟨before, right, left⟩ := h
    simp only [orderBy_cons] at before right left
    -- Two steps forward under the first key contradict the third one, so at most one is.
    rcases Ordering.then_eq_lt.1 before with xy | ⟨xy, before⟩ <;>
      rcases lt_or_of_then right with yz | ⟨yz, right⟩ <;>
      rcases lt_or_of_then left with zx | ⟨zx, left⟩
    · simp [SortKey.order_eq_gt xy yz] at zx
    · simp [SortKey.order_eq_gt xy yz] at zx
    · simp [SortKey.order_eq_gt zx xy] at yz
    · exact .inl (.here xy (SortKey.blurs_of_beside xy yz zx) right left)
    · simp [SortKey.order_eq_gt yz zx] at xy
    · exact .inr (.inl (.here yz (SortKey.blurs_of_beside yz zx xy) left (by simp [before])))
    · exact .inr (.inr (.here zx (SortKey.blurs_of_beside zx xy yz) (by simp [before]) right))
    · rcases ih ⟨before, right, left⟩ with rest | rest | rest
      · exact .inl (.later xy yz zx rest)
      · exact .inr (.inl (.later yz zx xy rest))
      · exact .inr (.inr (.later zx xy yz rest))

/-! ### Legal orders -/

/-- Keys are a legal order of some records: what is not behind something that is not behind a third
one is not behind this one. -/
def Legal (ks : List SortKey) (rs : List Record) : Prop :=
  ∀ a ∈ rs, ∀ b ∈ rs, ∀ c ∈ rs,
    a.orderBy b ks ≠ .gt → b.orderBy c ks ≠ .gt → a.orderBy c ks ≠ .gt

instance (ks : List SortKey) (rs : List Record) : Decidable (Legal ks rs) :=
  inferInstanceAs (Decidable (∀ a ∈ rs, ∀ b ∈ rs, ∀ c ∈ rs,
    a.orderBy b ks ≠ .gt → b.orderBy c ks ≠ .gt → a.orderBy c ks ≠ .gt))

theorem legal_iff_not_loops :
    Legal ks rs ↔ ∀ x ∈ rs, ∀ y ∈ rs, ∀ z ∈ rs, ¬ Loops ks x y z := by
  constructor
  · intro legal x hx y hy z hz loops
    obtain ⟨before, right, left⟩ := loops.circle
    refine legal y hy z hz x hx right left ?_
    rw [orderBy_swap, before]
    rfl
  · intro none a ha b hb c hc right left behind
    have circle : Circle ks c a b := by
      refine ⟨?_, right, left⟩
      rw [orderBy_swap, behind]
      rfl
    rcases circle.loops with loops | loops | loops
    · exact none c hc a ha b hb loops
    · exact none a ha b hb c hc loops
    · exact none b hb c hc a ha loops

/-- Placing a record keeps the ones placed in order, the last one first. -/
theorem pairwise_place {placed : List Record} {r : Record} (legal : Legal ks rs) (hr : r ∈ rs)
    (sub : placed ⊆ rs) (sorted : placed.Pairwise fun b a => a.orderBy b ks ≠ .gt) :
    (place ks r placed).Pairwise fun b a => a.orderBy b ks ≠ .gt := by
  induction placed with
  | nil => exact List.pairwise_singleton ..
  | cons s rest ih =>
    obtain ⟨behind, rest_sorted⟩ := List.pairwise_cons.1 sorted
    have hs : s ∈ rs := sub (List.mem_cons_self ..)
    have rest_sub : rest ⊆ rs := fun t ht => sub (List.mem_cons_of_mem _ ht)
    rw [place]
    split_ifs with before
    · refine List.pairwise_cons.2 ⟨fun t ht => ?_, ih rest_sub rest_sorted⟩
      rcases List.mem_cons.1 ((perm_place ks r rest).mem_iff.1 ht) with rfl | ht
      · simp [before]
      · exact behind t ht
    · have notBehind : s.orderBy r ks ≠ .gt := by
        rwa [orderBy_swap, Ne, Ordering.swap_eq_gt]
      refine List.pairwise_cons.2 ⟨fun t ht => ?_, sorted⟩
      rcases List.mem_cons.1 ht with rfl | ht
      · exact notBehind
      · exact legal t (rest_sub ht) s hs r hr (behind t ht) notBehind

/-- Sorting by a legal order puts records in order. -/
theorem pairwise_sortBy (legal : Legal ks rs) :
    (sortBy ks rs).Pairwise fun a b => a.orderBy b ks ≠ .gt := by
  rw [sortBy, List.pairwise_reverse]
  suffices run : ∀ todo placed : List Record, todo ⊆ rs → placed ⊆ rs →
      placed.Pairwise (fun b a => a.orderBy b ks ≠ .gt) →
      (todo.foldl (fun placed r => place ks r placed) placed).Pairwise
        fun b a => a.orderBy b ks ≠ .gt from
    run rs [] (List.Subset.refl rs) (List.nil_subset rs) .nil
  intro todo
  induction todo with
  | nil => exact fun placed _ _ sorted => sorted
  | cons r todo ih =>
    intro placed sub placed_sub sorted
    have hr : r ∈ rs := sub (List.mem_cons_self ..)
    refine ih (place ks r placed) (fun t ht => sub (List.mem_cons_of_mem _ ht)) ?_
      (pairwise_place legal hr placed_sub sorted)
    intro t ht
    rcases List.mem_cons.1 ((perm_place ks r placed).mem_iff.1 ht) with rfl | ht
    · exact hr
    · exact placed_sub ht

/-- The order of two records is the reverse of their order the other way round. Keys are a legal
order of some records exactly if they send no three of them round, and then sorting by the keys puts
the records in order. -/
theorem sort_order_legal_iff_not_loops (ks : List SortKey) :
    (∀ a b : Record, a.orderBy b ks = (b.orderBy a ks).swap) ∧
    ∀ rs : List Record,
      (Legal ks rs ↔ ∀ x ∈ rs, ∀ y ∈ rs, ∀ z ∈ rs, ¬ Loops ks x y z) ∧
      (Legal ks rs → (sortBy ks rs).Pairwise fun a b => a.orderBy b ks ≠ .gt) :=
  ⟨orderBy_swap ks, fun _ => ⟨legal_iff_not_loops, pairwise_sortBy⟩⟩

/-! ### Items of several sizes -/

def sized (v : Value) : Record := ⟨"Item", [("size", v)]⟩

def bySize : List SortKey := [⟨"size", .ascending⟩]

/-- The integer `2 ^ 53`, the least one whose successor has no double. -/
def edge : Int64 := 9007199254740992

/-- Sizes that have an order, one of them a double, and an item without a size. -/
def plain : List Record :=
  [sized (.integer 36), empty "Item", sized (.float (Value.ofInt64 4)), sized (.integer 20)]

theorem sort_order_legal_iff_not_loops_plain :
    Legal bySize plain ∧
      (∀ x ∈ plain, ∀ y ∈ plain, ∀ z ∈ plain, ¬ Loops bySize x y z) ∧
      (sortBy bySize plain).Pairwise fun a b => a.orderBy b bySize ≠ .gt := by
  have legal : Legal bySize plain := by decide +kernel
  obtain ⟨legal_iff, sorted⟩ := (sort_order_legal_iff_not_loops bySize).2 plain
  exact ⟨legal, legal_iff.1 legal, sorted legal⟩

/-- Two integers with a text between them. -/
def mixed : List Record := [sized (.integer 2), sized (.text "large"), sized (.integer 1)]

/-- Two integers with the double between them that both are rounded to. -/
def rounded : List Record :=
  [sized (.integer (edge + 1)), sized (.float (Value.ofInt64 edge)), sized (.integer edge)]

/-- Keys are not a legal order of all records. What stands beside two integers keeps a sort from
putting these in order. -/
theorem mixed_sizes_stay_unsorted :
    ¬ ((∀ (ks : List SortKey) (a b : Record), a.orderBy b ks = (b.orderBy a ks).swap) ∧
      ∀ (ks : List SortKey) (a b c : Record),
        a.orderBy b ks ≠ .gt → b.orderBy c ks ≠ .gt → a.orderBy c ks ≠ .gt) ∧
    (sortBy bySize mixed = mixed ∧
      (sized (.integer 2)).orderBy (sized (.integer 1)) bySize = .gt) ∧
    sortBy bySize rounded = rounded ∧
      (sized (.integer (edge + 1))).orderBy (sized (.integer edge)) bySize = .gt := by
  refine ⟨?_, ⟨?_, ?_⟩, ?_, ?_⟩
  · rintro ⟨-, trans⟩
    exact trans bySize (sized (.integer 2)) (sized (.text "large")) (sized (.integer 1))
      (by decide) (by decide) (by decide)
  · rfl
  · rfl
  · have first : (sized (.float (Value.ofInt64 edge))).orderBy (sized (.integer (edge + 1)))
        bySize = .eq := by decide +kernel
    have second : (sized (.integer edge)).orderBy (sized (.float (Value.ofInt64 edge)))
        bySize = .eq := by decide +kernel
    simp [sortBy, rounded, place, first, second]
  · decide +kernel

end Record

end EntityMapping
