/-!
Lists of values under text keys. A plain look-up finds the first value of a key. `put` keeps
the keys in the order in which they came, `insert` keeps them in the order of their texts;
both replace the value of a key that is there, so a list built by either has each key once.
-/

namespace EntityMapping

/-- Values under text keys. -/
abbrev Keyed (α : Type) := List (String × α)

namespace Keyed

variable {α β : Type}

/-- The first value of a key. -/
def find? (key : String) : Keyed α → Option α
  | [] => none
  | (k, v) :: rest => if k = key then some v else find? key rest

def keys (es : Keyed α) : List String := es.map (·.1)

/-! ### Order of arrival -/

/-- Replaces the first value of a key where it stands, or adds a new key at the end. -/
def put (key : String) (value : α) : Keyed α → Keyed α
  | [] => [(key, value)]
  | (k, v) :: rest => if k = key then (k, value) :: rest else (k, v) :: put key value rest

def putAll (es : Keyed α) (more : Keyed α) : Keyed α :=
  more.foldl (fun es e => es.put e.1 e.2) es

def erase (key : String) (es : Keyed α) : Keyed α := es.filter fun e => e.1 != key

@[simp] theorem find?_nil (key : String) : find? key ([] : Keyed α) = none := rfl

theorem find?_put (es : Keyed α) (key other : String) (value : α) :
    (es.put key value).find? other = if other = key then some value else es.find? other := by
  induction es with
  | nil => simp [put, find?, eq_comm]
  | cons e rest ih =>
    obtain ⟨k, v⟩ := e
    by_cases h : k = key
    · subst h
      by_cases g : k = other
      · simp [put, find?, g]
      · simp [put, find?, g, Ne.symm g]
    · by_cases g : k = other
      · subst g
        simp [put, find?, h]
      · simp [put, find?, h, g, ih]

theorem find?_erase (es : Keyed α) (key other : String) :
    (es.erase key).find? other = if other = key then none else es.find? other := by
  induction es with
  | nil => simp [erase]
  | cons e rest ih =>
    obtain ⟨k, v⟩ := e
    simp only [erase] at ih
    by_cases h : k = key
    · subst h
      by_cases g : k = other
      · subst g
        simpa [erase] using ih
      · simp [erase, find?, g, ih]
    · by_cases g : k = other
      · subst g
        simp [erase, find?, h]
      · simp [erase, find?, h, g, ih]

/-! ### Order of the keys -/

/-- Replaces the value of a key, or adds the key before the first greater one. -/
def insert (key : String) (value : α) : Keyed α → Keyed α
  | [] => [(key, value)]
  | (k, v) :: rest =>
    if key < k then (key, value) :: (k, v) :: rest
    else if key = k then (k, value) :: rest
    else (k, v) :: insert key value rest

/-- The elements in the order of their keys, each key with its last value. -/
def sorted (es : Keyed α) : Keyed α := es.foldl (fun es e => es.insert e.1 e.2) []

theorem find?_insert (es : Keyed α) (key other : String) (value : α)
    (ordered : es.keys.Pairwise (· < ·)) :
    (es.insert key value).find? other = if other = key then some value else es.find? other := by
  induction es with
  | nil => simp [insert, find?, eq_comm]
  | cons e rest ih =>
    obtain ⟨k, v⟩ := e
    have rest_ordered : Keyed.keys rest |>.Pairwise (· < ·) := by
      simp only [keys, List.map_cons, List.pairwise_cons] at ordered
      exact ordered.2
    unfold insert
    split
    · simp [find?, eq_comm]
    · split
      · rename_i h
        subst h
        by_cases g : key = other
        · simp [find?, g]
        · simp [find?, g, Ne.symm g]
      · rename_i h
        by_cases g : k = other
        · subst g
          simp [find?, Ne.symm h]
        · simp [find?, g, ih rest_ordered]

end Keyed

end EntityMapping
