import EntityMapping.Error
import EntityMapping.Value.Basic

/-!
Comparing values. The order holds between values of one type, and between integers and
doubles by way of doubles; null comes after everything. Lists, records and values of
different types have no order. Equality is another matter: it bears with small differences
of doubles, and records are equal when they have as many elements and every one of the
first has an equal one in the second, in whatever order.
-/

namespace EntityMapping.Value

/-! ### Order -/

/-- The order of two values of comparable types. -/
def compare (a b : Value) : Except MapperError Ordering :=
  match a, b with
  | .null, .null => .ok .eq
  | .null, _ => .ok .gt
  | _, .null => .ok .lt
  | .integer m, .integer n => .ok (Ord.compare m.toInt n.toInt)
  | .float x, .float y => .ok (x.compare y)
  | .integer m, .float y => .ok ((ofInt64 m).compare y)
  | .float x, .integer n => .ok (x.compare (ofInt64 n))
  | .text s, .text t => .ok (Ord.compare s t)
  | .boolean p, .boolean q => .ok (Ord.compare p q)
  | .timestamp s, .timestamp t => .ok (s.compare t)
  | .date d, .date e => .ok (d.compare e)
  | .uuid u, .uuid v => .ok (u.compare v)
  | a, b => .error (.incomparable a.typeName b.typeName)

/-- The order of two values, if they have one. -/
def partialCompare (a b : Value) : Option Ordering :=
  match a, b with
  | .null, b => (compare .null b).toOption
  | a, .null => (compare a .null).toOption
  | .list _, _ | .record _, _ | _, .list _ | _, .record _ => none
  | a, b => (compare a b).toOption

/-! ### Equality -/

/-- Equality of two values without parts. -/
def scalarEquals : Value → Value → Bool
  | .null, .null => true
  | .integer m, .integer n => m == n
  | .float x, .float y => x.near y
  | .integer m, .float y => (ofInt64 m).near y
  | .float x, .integer n => x.near (ofInt64 n)
  | .text s, .text t => s == t
  | .boolean p, .boolean q => p == q
  | .timestamp s, .timestamp t => s == t
  | .date d, .date e => d == e
  | .uuid u, .uuid v => u == v
  | _, _ => false

mutual

/-- Whether two values are equal. -/
def equals : Value → Value → Bool
  | .list xs, .list ys => itemsEqual xs ys
  | .record xs, .record ys => xs.length == ys.length && covered xs ys
  | a, b => scalarEquals a b
termination_by a b => sizeOf a + sizeOf b

/-- Whether two lists are equal item by item. -/
def itemsEqual : List Value → List Value → Bool
  | [], [] => true
  | x :: xs, y :: ys => equals x y && itemsEqual xs ys
  | _, _ => false
termination_by xs ys => sizeOf xs + sizeOf ys

/-- Whether every element of the first record has an equal one in the second. -/
def covered : List (String × Value) → List (String × Value) → Bool
  | [], _ => true
  | (k, v) :: rest, ys => hasElement k v ys && covered rest ys
termination_by xs ys => sizeOf xs + sizeOf ys

/-- Whether a record has an element of this key with a value equal to this one. -/
def hasElement (k : String) (v : Value) : List (String × Value) → Bool
  | [] => false
  | (l, w) :: rest => (l == k && equals w v) || hasElement k v rest
termination_by ys => sizeOf v + sizeOf ys

end

instance : BEq Value := ⟨equals⟩

/-- Equality of the elements of two records. -/
def elementsEqual (xs ys : Elements) : Bool := xs.length == ys.length && covered xs ys

@[simp] theorem beq_eq_equals (a b : Value) : (a == b) = a.equals b := rfl

theorem equals_record (xs ys : Elements) :
    equals (.record xs) (.record ys) = elementsEqual xs ys := by
  rw [equals, elementsEqual]

theorem hasElement_eq_any (k : String) (v : Value) (ys : Elements) :
    hasElement k v ys = ys.any fun o => o.1 == k && o.2 == v := by
  induction ys with
  | nil => simp [hasElement]
  | cons o rest ih => obtain ⟨l, w⟩ := o; simp [hasElement, ih]

theorem covered_eq_all (xs ys : Elements) :
    covered xs ys = xs.all fun e => ys.any fun o => o.1 == e.1 && o.2 == e.2 := by
  induction xs with
  | nil => simp [covered]
  | cons e rest ih => obtain ⟨k, v⟩ := e; simp [covered, ih, hasElement_eq_any]

end EntityMapping.Value
