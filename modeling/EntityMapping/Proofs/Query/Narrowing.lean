import EntityMapping.Proofs.AttributeType.Narrowing
import EntityMapping.Proofs.Query.Composition
import EntityMapping.Proofs.Registry.Reachable
import EntityMapping.Proofs.Store.Identity

/-!
Doubles as arguments of comparisons with integers. An argument is brought into the form that its
attribute stores before anything is compared, so an attribute of integers is compared with the
double without its fraction. That makes a difference for one integer only, the one that the double
is narrowed to, and there only for some operators: a positive double lies above that integer and a
negative one below it, and what looks to the other side does not notice.
-/

namespace EntityMapping

namespace Operator

/-- The relation of numbers that an operator asks for, if it asks for one. -/
def relation? : Operator → Option (ℚ → ℚ → Bool)
  | .equals => some fun a b => a = b
  | .greater => some fun a b => b < a
  | .greaterOrEqual => some fun a b => b ≤ a
  | .less => some fun a b => a < b
  | .lessOrEqual => some fun a b => a ≤ b
  | _ => none

/-- An operator looks away from the side on which a number has its fraction. -/
def LooksAway : Operator → ℚ → Prop
  | .greater, q | .lessOrEqual, q => 0 ≤ q
  | .less, q | .greaterOrEqual, q => q ≤ 0
  | _, _ => False

variable {o : Operator} {R : ℚ → ℚ → Bool} {q : ℚ}

theorem relation_congr {a b c : ℚ} (relation : o.relation? = some R) (less : a < b ↔ a < c)
    (greater : b < a ↔ c < a) : R a b = R a c := by
  have equal : a = b ↔ a = c := by
    rw [le_antisymm_iff, le_antisymm_iff, ← not_lt, ← not_lt, ← not_lt, ← not_lt, less, greater]
  cases o <;> cases relation <;> simp only [← not_lt, less, greater, equal]

/-- The relation to a number is that to the number without its fraction, unless this is the integer
that is compared and the operator sees the fraction. -/
theorem relation_towardZero_iff (relation : o.relation? = some R) (n : ℤ) (q : ℚ) :
    R n (towardZero q) = R n q ↔ (n = towardZero q → (n : ℚ) = q ∨ o.LooksAway q) := by
  rcases lt_trichotomy n (towardZero q) with below | rfl | above
  · have less : (n : ℚ) < towardZero q := Int.cast_lt.2 below
    have less' : (n : ℚ) < q := intCast_lt_of_lt_towardZero below
    exact iff_of_true (relation_congr relation (iff_of_true less less')
      (iff_of_false less.not_gt less'.not_gt)) fun same => absurd same below.ne
  · -- The integer is the number without its fraction, which lies on the side of zero.
    rw [forall_prop_of_true rfl]
    rcases lt_trichotomy (towardZero q : ℚ) q with up | whole | down
    · have positive : 0 < q := by
        by_contra sign
        exact up.not_ge (le_towardZero (not_lt.1 sign))
      cases o <;> cases relation <;>
        simp [LooksAway, up, up.ne, up.le, up.not_gt, up.not_ge, positive.le, positive.not_ge]
    · rw [whole]
      simp
    · have negative : q < 0 := by
        by_contra sign
        exact down.not_ge (towardZero_le (not_lt.1 sign))
      cases o <;> cases relation <;>
        simp [LooksAway, down, down.ne', down.le, down.not_gt, down.not_ge, negative.le,
          negative.not_ge]
  · have greater : (towardZero q : ℚ) < n := Int.cast_lt.2 above
    have greater' : q < n := lt_intCast_of_towardZero_lt above
    exact iff_of_true (relation_congr relation (iff_of_false greater.not_gt greater'.not_gt)
      (iff_of_true greater greater')) fun same => absurd same above.ne'

end Operator

namespace Condition

/-- Integers that are compared stand in the relation that the operator asks for. -/
theorem relates_integers {o : Operator} {R : ℚ → ℚ → Bool} (relation : o.relation? = some R)
    (mode : Like.Mode) (key : String) (n k : Int64) :
    relates mode key (.integer n) (.integer k) o = .ok (R n.toInt k.toInt) := by
  have equal : meets (.integer n) (.integer k) = (n == k) := by
    simp [meets, Value.equals, Value.scalarEquals]
  have ordered : order? (.integer n) (.integer k) = some (Ord.compare n.toInt k.toInt) := rfl
  rcases lt_trichotomy n.toInt k.toInt with less | same | greater
  · have other : n ≠ k := fun same => less.ne (same ▸ rfl)
    have decided := Int.compare_eq_lt.2 less
    cases o <;> cases relation <;>
      simp [relates, atLeast, atMost, equal, ordered, decided, other, less.ne, less.le, less,
        less.not_gt, less.not_ge]
  · cases Int64.toInt_inj.1 same
    cases o <;> cases relation <;> simp [relates, atLeast, atMost, equal, ordered]
  · have other : n ≠ k := fun same => greater.ne (same ▸ rfl)
    have decided := Int.compare_eq_gt.2 greater
    cases o <;> cases relation <;>
      simp [relates, atLeast, atMost, equal, ordered, decided, other, greater.ne', greater.le,
        greater, greater.not_gt, greater.not_ge]

/-- What is asked of the records of a type is asked before the mark of the type. -/
theorem selects_marked_some (m : Metadata) (c : Condition) (mode : Like.Mode) (r : Record) :
    selects mode r (marked m (some c)) =
      Answer.both (c.holds mode r) (selects mode r (marked m none)) := by
  rw [selects_marked, selects_marked]
  cases m.binding with
  | some b => rfl
  | none =>
    show c.holds mode r = Answer.both (c.holds mode r) (.ok true)
    rcases c.holds mode r with e | x
    · rfl
    · cases x <;> rfl

end Condition

/-! ### Comparing with a double -/

/-- The comparison of what a path leads to with a double. -/
def comparing (path : String) (o : Operator) (x : Double) : Clause where
  join := .both
  path := path
  operator := o
  arguments := [.native (.float x)]

variable {m : Metadata} {cs : Converters} {path : String} {p : NativePath} {initial : Int64}
  {o : Operator} {R : ℚ → ℚ → Bool} {x : Double} {k : Int64}

theorem QueryArgument.toNative_int64 {f : MappedField} (type : f.type = .plain .int64 initial)
    (cs : Converters) (v : Value) :
    QueryArgument.toNative cs f (.native v) = AttributeType.int64.coerce v :=
  toNative_plain type rfl cs v

/-- The condition compares with the native form of the double. -/
theorem ofClauses_comparing (indexed : m.findNative? path = some p)
    (relation : o.relation? = some R) {w : Value}
    (converts : QueryArgument.toNative cs p.field (.native (.float x)) = .ok w) :
    Condition.ofClauses m cs [comparing path o x] =
      .ok (Condition.marked m (some (.compare o p.native w))) := by
  have argument : (comparing path o x).argument m cs (.native (.float x)) = .ok w := by
    unfold Clause.argument
    cases o <;> cases relation <;> simp only [comparing, indexed, converts]
  have operand : Clause.operand o [w] = w := by
    cases o <;> cases relation <;> rfl
  have native : m.nativePath path = p.native := by
    rw [Metadata.nativePath, indexed]
  have condition : (comparing path o x).condition m cs = .ok (.compare o p.native w) := by
    rw [Clause.condition, Clause.comparison]
    show (([QueryArgument.native (.float x)].mapM _ >>= _) >>= _) = _
    rw [List.mapM_cons, argument]
    show Except.ok (Condition.compare o (m.nativePath path) (Clause.operand o [w])) = _
    rw [native, operand]
  rw [Condition.ofClauses, Condition.ofClausesAfter, condition]
  rfl

/-- A comparison of an attribute of integers with a double asks for the relation to the double
without its fraction. -/
theorem selects_comparing (relation : o.relation? = some R) (plain : '.' ∉ p.native.toList)
    (exact : k.toInt = towardZero x.toRat) (mode : Like.Mode) {r : Record} {n : Int64}
    (stored : r.find? p.native = some (.integer n)) :
    Condition.selects mode r (Condition.marked m (some (.compare o p.native (.integer k)))) =
      Answer.both (.ok (R n.toInt (towardZero x.toRat)))
        (Condition.selects mode r (Condition.marked m none)) := by
  rw [Condition.selects_marked_some,
    Condition.holds_compare_of_found mode r ((r.findPath_of_plain plain).trans stored),
    Condition.relates_integers relation, exact]

/-- A query that compares an attribute of integers with a double, other than `2 ^ 63`, finds a
record by the relation of its integer to the double without its fraction, if the record has the mark
of the type. This is the relation to the double itself, but for the integer that the double is
narrowed to where the operator sees the fraction. -/
theorem comparison_ignores_fraction (indexed : m.findNative? path = some p)
    (type : p.field.type = .plain .int64 initial) (plain : '.' ∉ p.native.toList)
    (relation : o.relation? = some R) (within : x.toRat ≠ 2 ^ 63) {w : Value}
    (converts : QueryArgument.toNative cs p.field (.native (.float x)) = .ok w) :
    ∃ c, (SelectQuery.ofCalls m cs [.filter (comparing path o x)]).map (·.condition) = .ok c ∧
      (DeleteQuery.ofClauses m cs [comparing path o x]).map (·.condition) = .ok c ∧
      ∀ (mode : Like.Mode) (r : Record) (n : Int64), r.find? p.native = some (.integer n) →
        Condition.selects mode r c =
          Answer.both (.ok (R n.toInt (towardZero x.toRat)))
            (Condition.selects mode r (Condition.marked m none)) ∧
        (R n.toInt (towardZero x.toRat) = R n.toInt x.toRat ↔
          (n.toInt = towardZero x.toRat → (n.toInt : ℚ) = x.toRat ∨ o.LooksAway x.toRat)) := by
  have built := ofClauses_comparing indexed relation converts
  rw [QueryArgument.toNative_int64 type, AttributeType.coerce_float rfl] at converts
  obtain ⟨k, narrows, -, -, rfl⟩ := converts
  have exact : k.toInt = towardZero x.toRat := by
    rcases narrows with ⟨-, exact⟩ | ⟨past, -⟩
    · exact exact
    · exact absurd past within
  refine ⟨_, (SelectQuery.condition_ofCalls m cs _).trans built,
    (DeleteQuery.condition_ofClauses m cs _).trans built, fun mode r n stored => ⟨?_, ?_⟩⟩
  · exact selects_comparing relation plain exact mode stored
  · exact Operator.relation_towardZero_iff relation n.toInt x.toRat

namespace Visiting

def visit : TypeRef := ⟨0, "Visit"⟩

def person : TypeRef := ⟨1, "Person"⟩

def booking : TypeRef := ⟨2, "Booking"⟩

def party : TypeRef := ⟨3, "Party"⟩

/-- Visits of a person, and bookings, which parties are a variant of. -/
def environment : Environment where
  catalog := {
    valueName := "Value"
    descriptors := [
      { name := "Visit", type := visit, suppliesInstances := true
        fields := [⟨.of "guest", .embedded person⟩] },
      { name := "Person", type := person, suppliesInstances := true
        fields := [⟨.of "age", .plain .int64 (0 : Int64)⟩] },
      { name := "Booking", type := booking, polymorphism := some none, variants := [party] },
      { name := "Party", type := party, suppliesInstances := true
        fields := [⟨.of "size", .plain .int64 (0 : Int64)⟩]
        inheritance := some ⟨booking, "party"⟩ }] }
  config := {}

def loaded (t : TypeRef) : Registry := ((environment.load t).run {}).2

def ageField : MappedField := ⟨"age", "age", false, .plain .int64 (0 : Int64), person⟩

def sizeField : MappedField := ⟨"size", "size", false, .plain .int64 (0 : Int64), party⟩

theorem exists_visit : ∃ m, (loaded visit).find? visit = some m ∧ m.binding = none ∧
    m.findNative? "guest.age" = some ⟨"age", ageField⟩ := by
  have known : ((loaded visit).find? visit).map (fun m => (m.binding, m.findNative? "guest.age")) =
      some (none, some ⟨"age", ageField⟩) := by
    cbv
  obtain ⟨m, found, same⟩ := Option.map_eq_some_iff.1 known
  simp only [Prod.mk.injEq] at same
  exact ⟨m, found, same⟩

theorem exists_party : ∃ m, (loaded party).find? party = some m ∧
    m.binding = some ⟨"dtype", "party", booking, party⟩ ∧
    m.findNative? "size" = some ⟨"size", sizeField⟩ := by
  have known : ((loaded party).find? party).map (fun m => (m.binding, m.findNative? "size")) =
      some (some ⟨"dtype", "party", booking, party⟩, some ⟨"size", sizeField⟩) := by
    cbv
  obtain ⟨m, found, same⟩ := Option.map_eq_some_iff.1 known
  simp only [Prod.mk.injEq] at same
  exact ⟨m, found, same⟩

def threeHalves : Double := .finite false 6755399441055744 1022 (by decide)

theorem toRat_threeHalves : threeHalves.toRat = 3 / 2 := by
  have units : threeHalves.scaled * (2 : ℕ) = 3 * twoTo Format.double.scale := by decide +kernel
  have ratio := Binary.toRat_eq_div (by decide) units
  norm_num at ratio
  exact ratio

theorem towardZero_threeHalves : towardZero threeHalves.toRat = 1 := by
  rw [toRat_threeHalves]
  norm_num [towardZero]

theorem toNative_threeHalves {f : MappedField} (type : f.type = .plain .int64 (0 : Int64)) :
    QueryArgument.toNative [] f (.native (.float threeHalves)) = .ok (.integer 1) := by
  rw [QueryArgument.toNative_int64 type, AttributeType.coerce_float rfl]
  exact ⟨1, .truncated rfl towardZero_threeHalves.symm, by decide, by decide, rfl⟩

def two : Double := .finite false 4503599627370496 1023 (by decide)

theorem toRat_two : two.toRat = 2 := by
  have units : two.scaled * (1 : ℕ) = 2 * twoTo Format.double.scale := by decide +kernel
  have ratio := Binary.toRat_eq_div (by decide) units
  norm_num at ratio
  exact ratio

theorem towardZero_two : towardZero two.toRat = 2 := by
  rw [toRat_two]
  exact towardZero_intCast 2

theorem toNative_two {f : MappedField} (type : f.type = .plain .int64 (0 : Int64)) :
    QueryArgument.toNative [] f (.native (.float two)) = .ok (.integer 2) := by
  rw [QueryArgument.toNative_int64 type, AttributeType.coerce_float rfl]
  exact ⟨2, .truncated rfl towardZero_two.symm, by decide, by decide, rfl⟩

end Visiting

open Visiting in
theorem comparison_ignores_fraction_guest :
    ∃ m c, (loaded visit).find? visit = some m ∧
      m.findNative? "guest.age" = some ⟨"age", ageField⟩ ∧
      (SelectQuery.ofCalls m [] [.filter (comparing "guest.age" .greater threeHalves)]).map
        (·.condition) = .ok c ∧
      Condition.selects (.ofCase true) ⟨"Visit", [("age", .integer 2)]⟩ c = .ok true := by
  obtain ⟨m, found, unbound, indexed⟩ := exists_visit
  have within : threeHalves.toRat ≠ 2 ^ 63 := by
    rw [toRat_threeHalves]
    norm_num
  obtain ⟨c, select, -, selects⟩ := comparison_ignores_fraction (o := .greater) indexed rfl
    (by decide) rfl within (toNative_threeHalves rfl)
  refine ⟨m, c, found, indexed, select, ?_⟩
  rw [(selects (.ofCase true) ⟨"Visit", [("age", .integer 2)]⟩ 2 rfl).1, towardZero_threeHalves,
    Condition.selects_marked, unbound]
  rfl

open Visiting in
/-- A guest of one year is found by a query for three halves, and a party of two without the mark of
parties is not found by a query for two. -/
theorem fraction_and_mark_decide :
    (∃ m c, (loaded visit).find? visit = some m ∧
      m.findNative? "guest.age" = some ⟨"age", ageField⟩ ∧
      (SelectQuery.ofCalls m [] [.filter (comparing "guest.age" .equals threeHalves)]).map
        (·.condition) = .ok c ∧
      Condition.selects (.ofCase true) ⟨"Visit", [("age", .integer 1)]⟩ c = .ok true ∧
      (1 : ℚ) ≠ threeHalves.toRat) ∧
    ∃ m c, (loaded party).find? party = some m ∧ m.findNative? "size" = some ⟨"size", sizeField⟩ ∧
      (SelectQuery.ofCalls m [] [.filter (comparing "size" .equals two)]).map
        (·.condition) = .ok c ∧
      Condition.selects (.ofCase true) ⟨"Booking", [("size", .integer 2)]⟩ c = .ok false ∧
      (2 : ℚ) = two.toRat := by
  constructor
  · obtain ⟨m, found, unbound, indexed⟩ := exists_visit
    have built := ofClauses_comparing (o := .equals) indexed rfl (toNative_threeHalves rfl)
    refine ⟨m, _, found, indexed, (SelectQuery.condition_ofCalls m [] _).trans built, ?_, ?_⟩
    · rw [selects_comparing (p := ⟨"age", ageField⟩) (k := 1) (n := 1) rfl (by decide)
        towardZero_threeHalves.symm (.ofCase true) rfl, towardZero_threeHalves,
        Condition.selects_marked, unbound]
      rfl
    · rw [toRat_threeHalves]
      norm_num
  · obtain ⟨m, found, bound, indexed⟩ := exists_party
    have built := ofClauses_comparing (o := .equals) indexed rfl (toNative_two rfl)
    refine ⟨m, _, found, indexed, (SelectQuery.condition_ofCalls m [] _).trans built, ?_,
      toRat_two.symm⟩
    rw [selects_comparing (p := ⟨"size", sizeField⟩) (k := 2) (n := 2) rfl (by decide)
      towardZero_two.symm (.ofCase true) rfl, towardZero_two, Condition.selects_marked, bound]
    rfl

end EntityMapping
