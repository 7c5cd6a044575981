import EntityMapping.Graph
import EntityMapping.Proofs.Keyed
import Mathlib.Data.Set.Card

/-!
Values under keys and the changes that led to them. What is under a key is told by its last change,
and where a key stands by the change since which it is there without a break. Replacing a value is
no break, taking it away and putting it again is one. The elements of a record and the properties of
a vertex are such values, whatever was done with them and in whatever order.
-/

namespace EntityMapping

namespace Keyed

variable {α : Type}

/-! ### Changes -/

/-- A change of values under keys. -/
inductive Change (α : Type) where
  | put (key : String) (value : α)
  | erase (key : String)
  | clear

namespace Change

def run : Change α → Keyed α → Keyed α
  | .put key value, es => es.put key value
  | .erase key, es => es.erase key
  | .clear, _ => []

/-- A change takes away what is under a key. -/
def Removes (key : String) : Change α → Prop
  | .put .. => False
  | .erase k => k = key
  | .clear => True

/-- A change puts something under a key or takes it away. -/
def Concerns (key : String) : Change α → Prop
  | .put k _ => k = key
  | .erase k => k = key
  | .clear => True

end Change

def replay (es : Keyed α) (h : List (Change α)) : Keyed α := h.foldl (fun es c => c.run es) es

/-- The last change of a key has put a value under it. -/
def LastPut (key : String) (value : α) (h : List (Change α)) : Prop :=
  ∃ before after, h = before ++ .put key value :: after ∧ ∀ c ∈ after, ¬ c.Concerns key

/-- A key is there since the change of a number: it was put then, when it was not there, and has not
been taken away since. -/
def PresentSince (key : String) (h : List (Change α)) (n : ℕ) : Prop :=
  ∃ before value after, h = before ++ .put key value :: after ∧ before.length = n ∧
    (∀ v, ¬ LastPut key v before) ∧ ∀ c ∈ after, ¬ c.Removes key

/-- A key came to stay before another one did. -/
def CameBefore (h : List (Change α)) (k l : String) : Prop :=
  ∃ m n, PresentSince k h m ∧ PresentSince l h n ∧ m < n

/-- Keys and a look-up are what a history leaves: each key once, in the order in which they came to
stay, and under each key what was put there last. -/
structure Shows (h : List (Change α)) (keys : List String) (find : String → Option α) : Prop where
  once : keys.Nodup
  found : ∀ key v, find key = some v ↔ LastPut key v h
  there : ∀ key, key ∈ keys ↔ (find key).isSome = true
  since : ∀ key ∈ keys, ∃! n, PresentSince key h n
  order : keys.Pairwise (CameBefore h)

variable {key k l : String} {v w : α} {h more : List (Change α)} {c : Change α} {es : Keyed α}
  {m n : ℕ}

/-! ### One more change -/

/-- A list with one item more splits at that item or where the list itself does. -/
theorem concat_eq_append_cons {β : Type} {xs before after : List β} {x y : β} :
    xs ++ [x] = before ++ y :: after ↔
      (x = y ∧ xs = before ∧ after = []) ∨
        ∃ rest, after = rest ++ [x] ∧ xs = before ++ y :: rest := by
  constructor
  · intro split
    rcases List.eq_nil_or_concat after with rfl | ⟨rest, z, rfl⟩
    · obtain ⟨rfl, last⟩ := List.append_inj' split rfl
      exact .inl ⟨by simpa using last, rfl, rfl⟩
    · have whole : xs ++ [x] = (before ++ y :: rest) ++ [z] := by simpa using split
      obtain ⟨rfl, last⟩ := List.append_inj' whole rfl
      exact .inr ⟨rest, by simpa using last.symm, rfl⟩
  · rintro (⟨rfl, rfl, rfl⟩ | ⟨rest, rfl, rfl⟩)
    · rfl
    · simp

theorem not_lastPut_nil : ¬ LastPut key v [] := by
  simp [LastPut]

theorem lastPut_concat :
    LastPut key v (h ++ [c]) ↔ c = .put key v ∨ ¬ c.Concerns key ∧ LastPut key v h := by
  constructor
  · rintro ⟨before, after, split, quiet⟩
    rcases concat_eq_append_cons.1 split with ⟨rfl, -, -⟩ | ⟨rest, rfl, rfl⟩
    · exact .inl rfl
    · simp only [List.forall_mem_append, List.forall_mem_singleton] at quiet
      exact .inr ⟨quiet.2, before, rest, rfl, quiet.1⟩
  · rintro (rfl | ⟨apart, before, after, rfl, quiet⟩)
    · exact ⟨h, [], rfl, by simp⟩
    · refine ⟨before, after ++ [c], by simp, ?_⟩
      simp only [List.forall_mem_append, List.forall_mem_singleton]
      exact ⟨quiet, apart⟩

theorem not_presentSince_nil : ¬ PresentSince key ([] : List (Change α)) n := by
  simp [PresentSince]

theorem presentSince_concat :
    PresentSince key (h ++ [c]) n ↔
      (∃ v, c = .put key v) ∧ h.length = n ∧ (∀ v, ¬ LastPut key v h) ∨
        ¬ c.Removes key ∧ PresentSince key h n := by
  constructor
  · rintro ⟨before, value, after, split, length, absent, kept⟩
    rcases concat_eq_append_cons.1 split with ⟨rfl, rfl, -⟩ | ⟨rest, rfl, rfl⟩
    · exact .inl ⟨⟨value, rfl⟩, length, absent⟩
    · simp only [List.forall_mem_append, List.forall_mem_singleton] at kept
      exact .inr ⟨kept.2, before, value, rest, rfl, length, absent, kept.1⟩
  · rintro (⟨⟨value, rfl⟩, length, absent⟩ |
      ⟨keeps, before, value, after, rfl, length, absent, kept⟩)
    · exact ⟨h, value, [], rfl, length, absent, by simp⟩
    · refine ⟨before, value, after ++ [c], by simp, length, absent, ?_⟩
      simp only [List.forall_mem_append, List.forall_mem_singleton]
      exact ⟨kept, keeps⟩

/-! ### What is there -/

theorem PresentSince.lt_length (since : PresentSince key h n) : n < h.length := by
  obtain ⟨before, value, after, rfl, rfl, -⟩ := since
  simp

/-- What was put last is there since some change. -/
theorem exists_presentSince_iff : (∃ n, PresentSince key h n) ↔ ∃ v, LastPut key v h := by
  induction h using List.reverseRecOn with
  | nil => simp [not_presentSince_nil, not_lastPut_nil]
  | append_singleton h c ih =>
    simp only [presentSince_concat, lastPut_concat]
    cases c with
    | put k w =>
      by_cases same : k = key
      · subst same
        by_cases old : ∃ v, LastPut k v h
        · obtain ⟨n, since⟩ := ih.2 old
          exact iff_of_true ⟨n, .inr ⟨id, since⟩⟩ ⟨w, .inl rfl⟩
        · exact iff_of_true ⟨h.length, .inl ⟨⟨w, rfl⟩, rfl, not_exists.1 old⟩⟩ ⟨w, .inl rfl⟩
      · simpa [Change.Removes, Change.Concerns, same] using ih
    | erase k =>
      by_cases same : k = key
      · simp [Change.Removes, Change.Concerns, same]
      · simpa [Change.Removes, Change.Concerns, same] using ih
    | clear => simp [Change.Removes, Change.Concerns]

theorem PresentSince.unique (first : PresentSince key h m) (second : PresentSince key h n) :
    m = n := by
  induction h using List.reverseRecOn with
  | nil => exact (not_presentSince_nil first).elim
  | append_singleton h c ih =>
    rw [presentSince_concat] at first second
    rcases first with ⟨-, rfl, absent⟩ | ⟨-, first⟩ <;>
      rcases second with ⟨-, rfl, absent'⟩ | ⟨-, second⟩
    · rfl
    · obtain ⟨v, last⟩ := exists_presentSince_iff.1 ⟨n, second⟩
      exact (absent v last).elim
    · obtain ⟨v, last⟩ := exists_presentSince_iff.1 ⟨m, first⟩
      exact (absent' v last).elim
    · exact ih first second

/-! ### What the list shows -/

theorem mem_keys_iff : key ∈ es.keys ↔ (es.find? key).isSome = true := by
  rw [← not_iff_not, ← find?_eq_none, Bool.not_eq_true, Option.isSome_eq_false_iff,
    Option.isNone_iff_eq_none]

/-- A new key goes to the end, and a known one stays where it is. -/
theorem keys_put (key : String) (value : α) (es : Keyed α) :
    (es.put key value).keys = if key ∈ es.keys then es.keys else es.keys ++ [key] := by
  split
  · rename_i known
    obtain ⟨old, mem⟩ := mem_keys.1 known
    clear known
    induction es with
    | nil => cases mem
    | cons e rest ih =>
      obtain ⟨k, u⟩ := e
      by_cases same : k = key
      · simp [put, keys, same]
      · have later : (key, old) ∈ rest := by simpa [Ne.symm same] using mem
        have ih := ih later
        simp only [keys] at ih
        simp [put, keys, same, ih]
  · rename_i new
    rw [put_of_notMem new, keys_append]
    rfl

theorem keys_erase (key : String) (es : Keyed α) :
    (es.erase key).keys = es.keys.filter fun k => k != key := by
  simp only [keys, erase, List.filter_map]
  rfl

/-- It is enough that each key comes once, that the last values are found, and that the keys stand
in order. -/
theorem shows_of_found (once : es.keys.Nodup)
    (found : ∀ key v, es.find? key = some v ↔ LastPut key v h)
    (order : es.keys.Pairwise (CameBefore h)) :
    Shows h es.keys es.find? where
  once := once
  found := found
  there _ := mem_keys_iff
  since key known := by
    rw [mem_keys_iff, Option.isSome_iff_exists] at known
    simp only [found, ← exists_presentSince_iff] at known
    obtain ⟨n, since⟩ := known
    exact ⟨n, since, fun m other => other.unique since⟩
  order := order

theorem CameBefore.concat (came : CameBefore h k l) (keeps : ¬ c.Removes k)
    (keeps' : ¬ c.Removes l) : CameBefore (h ++ [c]) k l := by
  obtain ⟨m, n, first, second, less⟩ := came
  exact ⟨m, n, presentSince_concat.2 (.inr ⟨keeps, first⟩),
    presentSince_concat.2 (.inr ⟨keeps', second⟩), less⟩

/-- What is put under a new key comes after everything that is there. -/
theorem Shows.cameBefore_put (shows : Shows h es.keys es.find?) (new : k ∉ es.keys) (w : α)
    (mem : l ∈ es.keys) : CameBefore (h ++ [.put k w]) l k := by
  have absent : ∀ v, ¬ LastPut k v h := by
    intro v last
    rw [← shows.found, Option.eq_some_iff_get_eq] at last
    exact new (mem_keys_iff.2 last.1)
  obtain ⟨m, since, -⟩ := shows.since l mem
  exact ⟨m, h.length, presentSince_concat.2 (.inr ⟨id, since⟩),
    presentSince_concat.2 (.inl ⟨⟨w, rfl⟩, rfl, absent⟩), since.lt_length⟩

theorem Shows.put (shows : Shows h es.keys es.find?) (k : String) (w : α) :
    Shows (h ++ [.put k w]) (es.put k w).keys (es.put k w).find? := by
  have order : es.keys.Pairwise (CameBefore (h ++ [.put k w])) :=
    shows.order.imp fun came => came.concat id id
  refine shows_of_found (nodup_keys_put shows.once) (fun key v => ?_) ?_
  · rw [find?_put, lastPut_concat, ← shows.found]
    by_cases same : key = k
    · simp [same, Change.Concerns]
    · simp [same, Ne.symm same, Change.Concerns]
  · rw [keys_put]
    split
    · exact order
    · rename_i new
      refine List.pairwise_append.2 ⟨order, List.pairwise_singleton _ _, fun l mem k' last => ?_⟩
      obtain rfl := List.mem_singleton.1 last
      exact shows.cameBefore_put new w mem

theorem Shows.erase (shows : Shows h es.keys es.find?) (k : String) :
    Shows (h ++ [.erase k]) (es.erase k).keys (es.erase k).find? := by
  refine shows_of_found ?_ (fun key v => ?_) ?_
  · rw [keys_erase]
    exact shows.once.filter _
  · rw [find?_erase, lastPut_concat, ← shows.found]
    by_cases same : key = k
    · simp [same, Change.Concerns]
    · simp [same, Ne.symm same, Change.Concerns]
  · rw [keys_erase, List.pairwise_filter]
    refine shows.order.imp fun came other other' => came.concat ?_ ?_
    · exact (bne_iff_ne.1 other).symm
    · exact (bne_iff_ne.1 other').symm

/-- One more change leaves what the history with this change leaves. -/
theorem Shows.concat (shows : Shows h es.keys es.find?) (c : Change α) :
    Shows (h ++ [c]) (c.run es).keys (c.run es).find? := by
  cases c with
  | put k w => exact shows.put k w
  | erase k => exact shows.erase k
  | clear =>
    refine shows_of_found List.nodup_nil (fun key v => ?_) .nil
    rw [Change.run, lastPut_concat]
    simp [Change.Concerns]

theorem replay_append (es : Keyed α) (h more : List (Change α)) :
    replay es (h ++ more) = replay (replay es h) more := List.foldl_append

theorem replay_puts (es more : Keyed α) :
    replay es (more.map fun e => .put e.1 e.2) = es.putAll more := by
  rw [replay, List.foldl_map]
  rfl

theorem shows_replay (h : List (Change α)) : Shows h (replay [] h).keys (replay [] h).find? := by
  induction h using List.reverseRecOn with
  | nil => exact shows_of_found List.nodup_nil (by simp [replay, not_lastPut_nil]) .nil
  | append_singleton h c ih =>
    rw [replay_append]
    exact ih.concat c

/-- The keys of the values that can be found are as many as there are elements. -/
theorem length_eq_ncard (once : es.keys.Nodup) :
    es.length = {key | (es.find? key).isSome = true}.ncard := by
  have same : {key | (es.find? key).isSome = true} = ↑es.keys.toFinset := by
    ext key
    simp [mem_keys_iff]
  rw [same, Set.ncard_coe_finset, List.toFinset_card_of_nodup once, keys, List.length_map]

end Keyed

/-! ### Records and vertices -/

namespace Record

variable {r : Record} {key : String}

/-- What is done with a record: it is made of some elements, in place of what was there, or it is
given elements or relieved of some. -/
inductive Operation where
  | ofElements (name : String) (elements : Elements)
  | add (key : String) (value : Value)
  | addAll (elements : Elements)
  | remove (key : String)

namespace Operation

def run : Operation → Record → Record
  | .ofElements name es, _ => Record.ofElements name es
  | .add key value, r => r.add key value
  | .addAll es, r => r.addAll es
  | .remove key, r => (r.remove key).2

/-- The changes that an operation makes, one after the other. -/
def changes : Operation → List (Keyed.Change Value)
  | .ofElements _ es => .clear :: es.map fun e => .put e.1 e.2
  | .add key value => [.put key value]
  | .addAll es => es.map fun e => .put e.1 e.2
  | .remove key => [.erase key]

theorem elements_run (op : Operation) (r : Record) :
    (op.run r).elements = Keyed.replay r.elements op.changes := by
  cases op with
  | ofElements name es => exact (Keyed.replay_puts [] es).symm
  | addAll es => exact (Keyed.replay_puts r.elements es).symm
  | _ => rfl

end Operation

def after (name : String) (ops : List Operation) : Record :=
  ops.foldl (fun r op => op.run r) (empty name)

theorem elements_after (name : String) (ops : List Operation) :
    (after name ops).elements = Keyed.replay [] (ops.flatMap Operation.changes) := by
  suffices run : ∀ r : Record, (ops.foldl (fun r op => op.run r) r).elements =
      Keyed.replay r.elements (ops.flatMap Operation.changes) from run (empty name)
  induction ops with
  | nil => exact fun r => rfl
  | cons op ops ih =>
    intro r
    rw [List.foldl_cons, ih, Operation.elements_run, List.flatMap_cons, Keyed.replay_append]

theorem remove_fst (r : Record) (key : String) : (r.remove key).1 = (r.find? key).isSome := by
  rw [Bool.eq_iff_iff, find?, ← Keyed.mem_keys_iff]
  show (Keyed.erase key r.elements).length != r.elements.length ↔ _
  rw [bne_iff_ne, Keyed.erase, Ne, List.length_filter_eq_length_iff, Keyed.keys, List.mem_map]
  simp

/-- A record is the map that a history leaves, by whatever it is asked: a look-up, a removal, its
size or its elements in the order of their keys. -/
structure IsMapOf (r : Record) (h : List (Keyed.Change Value)) : Prop where
  shows : Keyed.Shows h r.keys r.find?
  contains : ∀ key, r.contains key = (r.find? key).isSome
  remove : ∀ key, (r.remove key).1 = (r.find? key).isSome
  size : r.size = {key | (r.find? key).isSome = true}.ncard
  ascending : r.toSorted.keys.Pairwise (· < ·)
  sorted : ∀ key, r.toSorted.find? key = r.find? key

theorem isMapOf_after (name : String) (ops : List Operation) :
    (after name ops).IsMapOf (ops.flatMap Operation.changes) := by
  have shows : Keyed.Shows (ops.flatMap Operation.changes) (after name ops).keys
      (after name ops).find? := by
    show Keyed.Shows _ (after name ops).elements.keys (after name ops).elements.find?
    rw [elements_after]
    exact Keyed.shows_replay _
  exact {
    shows := shows
    contains := fun _ => rfl
    remove := remove_fst _
    size := Keyed.length_eq_ncard shows.once
    ascending := Keyed.pairwise_keys_sorted _
    sorted := fun key => (Keyed.find?_sorted key _).trans (Keyed.getLast?_under shows.once) }

end Record

theorem Vertex.properties_ofProperties (label : String) (id : Option Value) (ps : Elements) :
    (ofProperties label id ps).properties = Keyed.putAll [] ps := by
  suffices run : ∀ v : Vertex, (ps.foldl (fun v e => v.withProperty e.1 e.2) v).properties =
      v.properties.putAll ps from run { label := label, id := id }
  induction ps with
  | nil => exact fun v => rfl
  | cons e ps ih => exact fun v => ih (v.withProperty e.1 e.2)

/-- A record is the ordered map that its history leaves, whatever operations came in whatever order:
adding replaces in place, removing takes away, and a key that comes back goes to the end. Adding and
removing leave what is under other keys alone. The properties of a vertex follow the same law. -/
theorem history_leaves_ordered_map :
    (∀ (name : String) (ops : List Record.Operation),
      (Record.after name ops).IsMapOf (ops.flatMap Record.Operation.changes)) ∧
    (∀ (r : Record) (key other : String) (value : Value),
      (r.add key value).find? other = (if other = key then some value else r.find? other) ∧
      (r.remove key).2.find? other = if other = key then none else r.find? other) ∧
    ∀ (label : String) (id : Option Value) (ps : Elements),
      Keyed.Shows (ps.map fun e => .put e.1 e.2) (Vertex.ofProperties label id ps).properties.keys
        (Vertex.ofProperties label id ps).property? := by
  refine ⟨Record.isMapOf_after, fun r key other value => ⟨?_, ?_⟩, fun label id ps => ?_⟩
  · exact r.find?_add key other value
  · exact r.find?_remove key other
  · show Keyed.Shows _ (Vertex.ofProperties label id ps).properties.keys
      (Vertex.ofProperties label id ps).properties.find?
    rw [Vertex.properties_ofProperties, ← Keyed.replay_puts]
    exact Keyed.shows_replay _

/-- A name that is removed and added again stands behind the age, which stays where it is when its
value is replaced. -/
example :
    (Record.after "Person"
      [.add "name" (.text "Ada"), .add "age" .null, .remove "name",
        .add "name" .null, .add "age" (.text "36")]).keys = ["age", "name"] := by
  decide

end EntityMapping
