import EntityMapping.Proofs.Keyed
import EntityMapping.Proofs.Value.Equality
import Mathlib.Data.List.Forall2
import Mathlib.Data.List.Perm.Subperm

/-!
Equality of values without doubles, in which every record has each of its keys once. A record equals
another if every element of the first has an equal one in the second and there are as many of them.
That looks in one direction only, but where keys come once as many means the same keys, so the
elements can be told by their keys and the order of both records is of no account. From there on
equality is an equivalence, level by level.
-/

namespace EntityMapping

namespace Value

/-! ### Plain values -/

/-- Every record in a value, at any depth, has each of its keys once. -/
inductive KeysOnce : Value → Prop where
  | single {v : Value} (noList : v.asList? = none) (noRecord : v.asRecord? = none) : KeysOnce v
  | list {items : List Value} (each : ∀ v ∈ items, KeysOnce v) : KeysOnce (.list items)
  | record {elements : Elements} (once : elements.keys.Nodup)
      (each : ∀ e ∈ elements, KeysOnce e.2) : KeysOnce (.record elements)

/-- A value without doubles in which every record has each of its keys once. -/
structure Plain (v : Value) : Prop where
  floatFree : v.FloatFree
  keysOnce : v.KeysOnce

theorem plain_list_iff {items : List Value} : Plain (.list items) ↔ ∀ v ∈ items, v.Plain := by
  constructor
  · rintro ⟨floatFree, keysOnce⟩ v mem
    cases floatFree with
    | list free =>
      cases keysOnce with
      | single noList => cases noList
      | list once => exact ⟨free v mem, once v mem⟩
  · exact fun each => ⟨.list fun v mem => (each v mem).floatFree,
      .list fun v mem => (each v mem).keysOnce⟩

theorem plain_record_iff {elements : Elements} :
    Plain (.record elements) ↔ elements.keys.Nodup ∧ ∀ e ∈ elements, e.2.Plain := by
  constructor
  · rintro ⟨floatFree, keysOnce⟩
    cases floatFree with
    | record free =>
      cases keysOnce with
      | single _ noRecord => cases noRecord
      | record nodup once => exact ⟨nodup, fun e mem => ⟨free e mem, once e mem⟩⟩
  · rintro ⟨nodup, each⟩
    exact ⟨.record fun e mem => (each e mem).floatFree,
      .record nodup fun e mem => (each e mem).keysOnce⟩

/-- Plain values are values without parts, lists of plain values, and records of plain values under
distinct keys. -/
@[elab_as_elim]
theorem Plain.induction {motive : (v : Value) → v.Plain → Prop}
    (single : ∀ (v : Value) (plain : v.Plain), v.asList? = none → v.asRecord? = none →
      motive v plain)
    (list : ∀ (items : List Value) (each : ∀ v ∈ items, v.Plain),
      (∀ v mem, motive v (each v mem)) → motive (.list items) (plain_list_iff.2 each))
    (record : ∀ (elements : Elements) (once : elements.keys.Nodup)
      (each : ∀ e ∈ elements, e.2.Plain), (∀ e mem, motive e.2 (each e mem)) →
      motive (.record elements) (plain_record_iff.2 ⟨once, each⟩))
    {v : Value} (plain : v.Plain) : motive v plain := by
  have floatFree := plain.floatFree
  induction floatFree with
  | list _ ih =>
    have each := plain_list_iff.1 plain
    exact list _ each fun v mem => ih v mem (each v mem)
  | record _ ih =>
    obtain ⟨once, each⟩ := plain_record_iff.1 plain
    exact record _ once each fun e mem => ih e mem (each e mem)
  | _ => exact single _ plain rfl rfl

variable {a b c : Value} {xs ys : Elements}

/-! ### One level -/

theorem equals_single (ha : a.FloatFree) (noList : a.asList? = none) (noRecord : a.asRecord? = none)
    (hb : b.FloatFree) : (a.equals b = true ↔ a = b) ∧ (b.equals a = true ↔ b = a) := by
  cases ha with
  | list => cases noList
  | record => cases noRecord
  | _ => cases hb <;> simp [equals, scalarEquals]

theorem itemsEqual_iff {xs ys : List Value} :
    itemsEqual xs ys = true ↔ List.Forall₂ (fun x y => x.equals y = true) xs ys := by
  induction xs generalizing ys with
  | nil => cases ys <;> simp [itemsEqual]
  | cons x xs ih => cases ys <;> simp [itemsEqual, ih]

theorem equals_list_iff {xs : List Value} :
    equals (.list xs) b = true ↔
      ∃ ys, b = .list ys ∧ List.Forall₂ (fun x y => x.equals y = true) xs ys := by
  cases b <;> simp [equals, scalarEquals, itemsEqual_iff]

theorem equals_record_iff :
    equals (.record xs) b = true ↔ ∃ ys, b = .record ys ∧ elementsEqual xs ys = true := by
  cases b <;> simp [equals, scalarEquals, elementsEqual]

theorem covered_iff :
    covered xs ys = true ↔ ∀ k v, (k, v) ∈ xs → ∃ w, (k, w) ∈ ys ∧ w.equals v := by
  rw [covered_eq_all, List.all_eq_true]
  constructor
  · intro h k v mem
    obtain ⟨⟨l, w⟩, there, same⟩ := List.any_eq_true.1 (h _ mem)
    simp only [beq_eq_equals, Bool.and_eq_true, beq_iff_eq] at same
    obtain ⟨rfl, same⟩ := same
    exact ⟨w, there, same⟩
  · rintro h ⟨k, v⟩ mem
    obtain ⟨w, there, same⟩ := h k v mem
    exact List.any_eq_true.2 ⟨(k, w), there, by simpa using same⟩

/-- Two records in which every key comes once are equal exactly if they have the same keys and equal
values under them. -/
theorem elementsEqual_iff (hx : xs.keys.Nodup) (hy : ys.keys.Nodup) :
    elementsEqual xs ys = true ↔
      (∀ k, k ∈ xs.keys ↔ k ∈ ys.keys) ∧
        ∀ k v w, (k, v) ∈ xs → (k, w) ∈ ys → w.equals v = true := by
  rw [elementsEqual, Bool.and_eq_true, beq_iff_eq, covered_iff]
  constructor
  · rintro ⟨length, found⟩
    have inside : xs.keys ⊆ ys.keys := by
      intro k mem
      obtain ⟨v, mem⟩ := Keyed.mem_keys.1 mem
      obtain ⟨w, there, -⟩ := found k v mem
      exact Keyed.mem_keys.2 ⟨w, there⟩
    -- There are as many keys on both sides, so none is left over.
    have perm : xs.keys.Perm ys.keys := by
      refine (hx.subperm inside).perm_of_length_le (Nat.le_of_eq ?_)
      rw [Keyed.keys, Keyed.keys, List.length_map, List.length_map, length]
    refine ⟨fun k => perm.mem_iff, fun k v w mem there => ?_⟩
    obtain ⟨w', there', same⟩ := found k v mem
    rwa [Keyed.eq_of_mem hy there there']
  · rintro ⟨keys, same⟩
    have perm : xs.keys.Perm ys.keys := (List.perm_ext_iff_of_nodup hx hy).2 keys
    refine ⟨by simpa [Keyed.keys] using perm.length_eq, fun k v mem => ?_⟩
    obtain ⟨w, there⟩ := Keyed.mem_keys.1 ((keys k).1 (Keyed.mem_keys.2 ⟨v, mem⟩))
    exact ⟨w, there, same k v w mem there⟩

/-! ### All levels -/

theorem Plain.equals_comm (ha : a.Plain) (hb : b.Plain) :
    a.equals b = true ↔ b.equals a = true := by
  induction ha using Plain.induction generalizing b with
  | single a plain noList noRecord =>
    obtain ⟨left, right⟩ := equals_single plain.floatFree noList noRecord hb.floatFree
    rw [left, right, eq_comm]
  | list xs _ ih =>
    cases b with
    | list ys =>
      have each := plain_list_iff.1 hb
      rw [equals, equals, itemsEqual_iff, itemsEqual_iff, List.forall₂_iff_get,
        List.forall₂_iff_get]
      refine and_congr eq_comm ⟨fun same i hy hx => ?_, fun same i hx hy => ?_⟩
      · exact (ih _ (List.get_mem ..) (each _ (List.get_mem ..))).1 (same i hx hy)
      · exact (ih _ (List.get_mem ..) (each _ (List.get_mem ..))).2 (same i hy hx)
    | _ => simp [equals, scalarEquals]
  | record xs once _ ih =>
    cases b with
    | record ys =>
      obtain ⟨once', each⟩ := plain_record_iff.1 hb
      rw [equals_record, equals_record, elementsEqual_iff once once', elementsEqual_iff once' once]
      refine and_congr (forall_congr' fun k => iff_comm)
        ⟨fun same k w v hw hv => ?_, fun same k v w hv hw => ?_⟩
      · exact (ih _ hv (each _ hw)).2 (same k v w hv hw)
      · exact (ih _ hv (each _ hw)).1 (same k w v hw hv)
    | _ => simp [equals, scalarEquals]

theorem Plain.equals_trans (ha : a.Plain) (hb : b.Plain) (hc : c.Plain) (first : a.equals b = true)
    (second : b.equals c = true) : a.equals c = true := by
  induction ha using Plain.induction generalizing b c with
  | single a plain noList noRecord =>
    rwa [(equals_single plain.floatFree noList noRecord hb.floatFree).1.1 first]
  | list xs _ ih =>
    rw [equals_list_iff] at first
    obtain ⟨ys, rfl, first⟩ := first
    rw [equals_list_iff] at second
    obtain ⟨zs, rfl, second⟩ := second
    have hy := plain_list_iff.1 hb
    have hz := plain_list_iff.1 hc
    rw [List.forall₂_iff_get] at first second
    refine equals_list_iff.2 ⟨zs, rfl, List.forall₂_iff_get.2 ⟨first.1.trans second.1, ?_⟩⟩
    intro i hi hk
    have hj : i < ys.length := first.1 ▸ hi
    exact ih _ (List.get_mem ..) (hy _ (List.get_mem ..)) (hz _ (List.get_mem ..))
      (first.2 i hi hj) (second.2 i hj hk)
  | record xs once each ih =>
    rw [equals_record_iff] at first
    obtain ⟨ys, rfl, first⟩ := first
    rw [equals_record_iff] at second
    obtain ⟨zs, rfl, second⟩ := second
    obtain ⟨onceY, hy⟩ := plain_record_iff.1 hb
    obtain ⟨onceZ, hz⟩ := plain_record_iff.1 hc
    rw [elementsEqual_iff once onceY] at first
    obtain ⟨keys, first⟩ := first
    rw [elementsEqual_iff onceY onceZ] at second
    obtain ⟨keys', second⟩ := second
    refine equals_record_iff.2 ⟨zs, rfl, (elementsEqual_iff once onceZ).2
      ⟨fun k => (keys k).trans (keys' k), fun k u w hu hw => ?_⟩⟩
    obtain ⟨v, hv⟩ := Keyed.mem_keys.1 ((keys k).1 (Keyed.mem_keys.2 ⟨u, hu⟩))
    -- Records look for the second value in the first, so the chain is turned round and back.
    have start := ((each _ hu).equals_comm (hy _ hv)).2 (first k u v hu hv)
    have next := ((hy _ hv).equals_comm (hz _ hw)).2 (second k v w hv hw)
    exact ((each _ hu).equals_comm (hz _ hw)).1 (ih _ hu (hy _ hv) (hz _ hw) start next)

theorem exists_of_forall₂ {α β : Type} {R : α → β → Prop} {as : List α} {bs : List β} {a : α}
    (h : List.Forall₂ R as bs) (mem : a ∈ as) : ∃ b ∈ bs, R a b := by
  induction h with
  | nil => cases mem
  | @cons a' b' as bs related _ ih =>
    rcases List.mem_cons.1 mem with rfl | mem
    · exact ⟨b', List.mem_cons_self .., related⟩
    · obtain ⟨b, there, related⟩ := ih mem
      exact ⟨b, List.mem_cons_of_mem _ there, related⟩

theorem elementsEqual_of_forall₂ (hx : ∀ e ∈ xs, e.2.Plain) (hy : ∀ o ∈ ys, o.2.Plain)
    (same : List.Forall₂ (fun e o => e.1 = o.1 ∧ e.2.equals o.2 = true) xs ys) :
    elementsEqual xs ys = true := by
  rw [elementsEqual, Bool.and_eq_true, beq_iff_eq, covered_iff]
  refine ⟨same.length_eq, fun k v mem => ?_⟩
  obtain ⟨⟨l, w⟩, there, rfl, equal⟩ := exists_of_forall₂ same mem
  exact ⟨w, there, ((hx _ mem).equals_comm (hy _ there)).1 equal⟩

/-! ### The order of elements -/

/-- Two values differ in nothing but the order of the elements of records, at any depth. -/
inductive Reordered : Value → Value → Prop where
  | refl (v : Value) : Reordered v v
  | trans {u v w : Value} (first : Reordered u v) (second : Reordered v w) : Reordered u w
  | permute {xs ys : Elements} (perm : xs.Perm ys) : Reordered (.record xs) (.record ys)
  | item (before after : List Value) {v w : Value} (inner : Reordered v w) :
      Reordered (.list (before ++ v :: after)) (.list (before ++ w :: after))
  | element (before after : Elements) (k : String) {v w : Value} (inner : Reordered v w) :
      Reordered (.record (before ++ (k, v) :: after)) (.record (before ++ (k, w) :: after))

theorem forall₂_replace {α : Type} {R : α → α → Prop} {before after : List α} {v w : α}
    (same : ∀ x ∈ before ++ v :: after, R x x) (related : R v w) :
    List.Forall₂ R (before ++ v :: after) (before ++ w :: after) := by
  refine List.rel_append (List.forall₂_same.2 fun x mem => same x ?_)
    (.cons related (List.forall₂_same.2 fun x mem => same x ?_))
  · exact List.mem_append_left _ mem
  · exact List.mem_append_right _ (List.mem_cons_of_mem _ mem)

theorem forall_mem_replace {α : Type} {P : α → Prop} {before after : List α} {v w : α}
    (each : ∀ x ∈ before ++ v :: after, P x) (new : P w) : ∀ x ∈ before ++ w :: after, P x := by
  simp only [List.forall_mem_append, List.forall_mem_cons] at each ⊢
  exact ⟨each.1, new, each.2.2⟩

/-- A plain value equals what comes of it when elements are reordered, and that is plain too. -/
theorem Reordered.plain_and_equals (h : Reordered a b) (ha : a.Plain) :
    b.Plain ∧ a.equals b = true := by
  induction h with
  | refl => exact ⟨ha, ha.floatFree.equals_self⟩
  | trans _ _ ih ih' =>
    obtain ⟨hb, first⟩ := ih ha
    obtain ⟨hc, second⟩ := ih' hb
    exact ⟨hc, ha.equals_trans hb hc first second⟩
  | @permute xs ys perm =>
    obtain ⟨once, each⟩ := plain_record_iff.1 ha
    have once' := Keyed.nodup_keys_of_perm once perm
    refine ⟨plain_record_iff.2 ⟨once', fun e mem => each e (perm.mem_iff.2 mem)⟩, ?_⟩
    rw [equals_record, elementsEqual_iff once once']
    refine ⟨fun k => (perm.map Prod.fst).mem_iff, fun k v w hv hw => ?_⟩
    rw [Keyed.eq_of_mem once hv (perm.mem_iff.2 hw)]
    exact (each _ (perm.mem_iff.2 hw)).floatFree.equals_self
  | @item before after v w _ ih =>
    have each := plain_list_iff.1 ha
    obtain ⟨hw, same⟩ := ih (each v (by simp))
    refine ⟨plain_list_iff.2 (forall_mem_replace each hw), ?_⟩
    rw [equals, itemsEqual_iff]
    exact forall₂_replace (fun x mem => (each x mem).floatFree.equals_self) same
  | @element before after k v w _ ih =>
    obtain ⟨once, each⟩ := plain_record_iff.1 ha
    obtain ⟨hw, same⟩ := ih (each (k, v) (by simp))
    have each' : ∀ e ∈ before ++ (k, w) :: after, e.2.Plain := forall_mem_replace each hw
    have keys : Keyed.keys (before ++ (k, w) :: after) =
        Keyed.keys (before ++ (k, v) :: after) := by
      simp [Keyed.keys]
    refine ⟨plain_record_iff.2 ⟨keys ▸ once, each'⟩, ?_⟩
    rw [equals_record]
    exact elementsEqual_of_forall₂ each each' (forall₂_replace
      (fun e mem => ⟨rfl, (each e mem).floatFree.equals_self⟩) ⟨rfl, same⟩)

/-- Equality does not see the order of elements on either side. -/
theorem Reordered.equals_eq {a' b' : Value} (ha : a.Plain) (hb : b.Plain) (left : Reordered a a')
    (right : Reordered b b') : a'.equals b' = a.equals b := by
  obtain ⟨ha', same⟩ := left.plain_and_equals ha
  obtain ⟨hb', same'⟩ := right.plain_and_equals hb
  have back := (ha.equals_comm ha').1 same
  have back' := (hb.equals_comm hb').1 same'
  rw [Bool.eq_iff_iff]
  constructor
  · intro h
    exact ha.equals_trans hb' hb (ha.equals_trans ha' hb' same h) back'
  · intro h
    exact ha'.equals_trans hb hb' (ha'.equals_trans ha hb back h) same'

theorem equivalence_equals :
    Equivalence fun a b : {v : Value // v.Plain} => a.1.equals b.1 = true where
  refl a := a.2.floatFree.equals_self
  symm {a b} := (a.2.equals_comm b.2).1
  trans {a b c} := a.2.equals_trans b.2 c.2

end Value

/-! ### Records -/

namespace Record

/-- A record of plain values, with each of its keys once. -/
def Plain (r : Record) : Prop := (Value.record r.elements).Plain

theorem equals_iff {r s : Record} :
    r.equals s = true ↔
      r.name = s.name ∧ (Value.record r.elements).equals (.record s.elements) = true := by
  rw [equals, Bool.and_eq_true, beq_iff_eq, Value.equals_record]

theorem equivalence_equals :
    Equivalence fun r s : {r : Record // r.Plain} => r.1.equals s.1 = true where
  refl r := equals_iff.2 ⟨rfl, r.2.floatFree.equals_self⟩
  symm {r s} same := by
    obtain ⟨name, same⟩ := equals_iff.1 same
    exact equals_iff.2 ⟨name.symm, (r.2.equals_comm s.2).1 same⟩
  trans {r s t} first second := by
    obtain ⟨name, first⟩ := equals_iff.1 first
    obtain ⟨name', second⟩ := equals_iff.1 second
    exact equals_iff.2 ⟨name.trans name', r.2.equals_trans s.2 t.2 first second⟩

theorem Plain.addAll {r : Record} {es : Elements} (hr : r.Plain) (hes : ∀ e ∈ es, e.2.Plain) :
    (r.addAll es).Plain := by
  obtain ⟨once, each⟩ := Value.plain_record_iff.1 hr
  exact Value.plain_record_iff.2 ⟨Keyed.nodup_keys_putAll once,
    fun e mem => (Keyed.mem_putAll mem).elim (each e) (hes e)⟩

theorem addAll_equals_of_perm {r : Record} {es es' : Elements} (hr : r.Plain)
    (hes : ∀ e ∈ es, e.2.Plain) (once : es.keys.Nodup) (perm : es.Perm es') :
    (r.addAll es).equals (r.addAll es') = true := by
  have before := (Value.plain_record_iff.1 hr).1
  have reordered := Value.Reordered.permute (Keyed.perm_putAll before once perm)
  exact equals_iff.2 ⟨rfl, (reordered.plain_and_equals (hr.addAll hes)).2⟩

end Record

/-- Equality of plain values is an equivalence, goes through lists and records, and does not see the
order of elements at any depth; so equality of records is an equivalence that does not see the order
in which distinct keys were added. -/
theorem equality_ignores_order :
    Equivalence (fun a b : {v : Value // v.Plain} => (a.1 == b.1) = true) ∧
    (∀ xs ys : List Value, (Value.list xs == Value.list ys) = true ↔
      List.Forall₂ (fun x y => (x == y) = true) xs ys) ∧
    (∀ xs ys : Elements, (Value.record xs).Plain → (Value.record ys).Plain →
      List.Forall₂ (fun e o => e.1 = o.1 ∧ (e.2 == o.2) = true) xs ys →
      (Value.record xs == Value.record ys) = true) ∧
    (∀ a b a' b' : Value, a.Plain → b.Plain → a.Reordered a' → b.Reordered b' →
      (a' == b') = (a == b)) ∧
    Equivalence (fun r s : {r : Record // r.Plain} => (r.1 == s.1) = true) ∧
    ∀ (r : Record) (es es' : Elements), r.Plain → (Value.record es).Plain → es.Perm es' →
      (r.addAll es == r.addAll es') = true := by
  refine ⟨Value.equivalence_equals, fun xs ys => ?_, fun xs ys hx hy same => ?_,
    fun a b a' b' ha hb => Value.Reordered.equals_eq ha hb, Record.equivalence_equals,
    fun r es es' hr hes perm => ?_⟩
  · rw [Value.beq_eq_equals, Value.equals, Value.itemsEqual_iff]
    rfl
  · rw [Value.beq_eq_equals, Value.equals_record]
    exact Value.elementsEqual_of_forall₂ (Value.plain_record_iff.1 hx).2
      (Value.plain_record_iff.1 hy).2 same
  · obtain ⟨once, each⟩ := Value.plain_record_iff.1 hes
    exact Record.addAll_equals_of_perm hr each once perm

namespace Almanac

def moon : Elements := [("name", .text "wolf"), ("days", .integer 29)]

def moons : Elements := [("year", .integer 7), ("moons", .list [.record moon])]

def shuffledMoons : Elements := [("moons", .list [.record moon.reverse]), ("year", .integer 7)]

theorem plain_moon : (Value.record moon).Plain :=
  Value.plain_record_iff.2 ⟨by decide, List.forall_mem_cons.2 ⟨⟨.text _, .single rfl rfl⟩,
    List.forall_mem_singleton.2 ⟨.integer _, .single rfl rfl⟩⟩⟩

theorem plain_moons : (Value.record moons).Plain :=
  Value.plain_record_iff.2 ⟨by decide, List.forall_mem_cons.2 ⟨⟨.integer _, .single rfl rfl⟩,
    List.forall_mem_singleton.2 (Value.plain_list_iff.2 (List.forall_mem_singleton.2 plain_moon))⟩⟩

theorem reordered_moon : (Value.list [.record moon]).Reordered (.list [.record moon.reverse]) :=
  .item [] [] (.permute (List.reverse_perm _).symm)

theorem reordered_moons : (Value.record moons).Reordered (.record shuffledMoons) :=
  .trans (.element [("year", .integer 7)] [] "moons" reordered_moon) (.permute (.swap ..))

theorem plain_empty (name : String) : (Record.empty name).Plain :=
  Value.plain_record_iff.2 ⟨by simp [Record.empty, Keyed.keys], by simp [Record.empty]⟩

end Almanac

open Almanac in
theorem equality_ignores_order_moons :
    ((Value.record moons).Plain ∧ (Value.record moons).Reordered (.record shuffledMoons) ∧
      (Value.record moons == Value.record shuffledMoons) = true) ∧
    (List.Forall₂ (fun e o => e.1 = o.1 ∧ (e.2 == o.2) = true) moons.reverse shuffledMoons ∧
      (Value.record moons.reverse == Value.record shuffledMoons) = true) ∧
    moons.Perm moons.reverse ∧
      ((Record.empty "Year").addAll moons ==
        (Record.empty "Year").addAll moons.reverse) = true := by
  obtain ⟨equivalence, -, congruent, invariant, -, added⟩ := equality_ignores_order
  have turned : moons.Perm moons.reverse := (List.reverse_perm _).symm
  have plainTurned := (Value.Reordered.plain_and_equals (.permute turned) plain_moons).1
  have plainShuffled := (reordered_moons.plain_and_equals plain_moons).1
  have inner : List.Forall₂ (fun e o => e.1 = o.1 ∧ (e.2 == o.2) = true) moons.reverse
      shuffledMoons := by
    have plain := Value.plain_list_iff.2 (List.forall_mem_singleton.2 plain_moon)
    exact .cons ⟨rfl, (reordered_moon.plain_and_equals plain).2⟩
      (.cons ⟨rfl, equivalence.refl ⟨.integer 7, .integer _, .single rfl rfl⟩⟩ .nil)
  refine ⟨⟨plain_moons, reordered_moons, ?_⟩, ⟨inner, ?_⟩, turned, ?_⟩
  · rw [invariant (.record moons) (.record moons) _ _ plain_moons plain_moons (.refl _)
      reordered_moons]
    exact equivalence.refl ⟨_, plain_moons⟩
  · exact congruent _ _ plainTurned plainShuffled inner
  · exact added _ _ _ (plain_empty _) plain_moons turned

end EntityMapping
