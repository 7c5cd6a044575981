import EntityMapping.Record

/-!
Dotted paths. A path that joins keys without points by points has these keys as its segments, so
looking it up follows the keys one after the other, in a record as in a value. Any other path is
taken the same way: each point parts two segments, and a segment without a character is a key too.
-/

namespace EntityMapping

namespace Value

/-! ### Segments -/

theorem segments_of_notMem {cs : List Char} (h : '.' ∉ cs) : segments cs = [cs] := by
  induction cs with
  | nil => rfl
  | cons c cs ih =>
    rw [List.mem_cons, not_or] at h
    rw [segments, if_neg (Ne.symm h.1), ih h.2]

theorem segments_ne_nil (cs : List Char) : segments cs ≠ [] := by
  cases cs with
  | nil => simp [segments]
  | cons c cs =>
    rw [segments]
    split
    · simp
    · split <;> simp

/-- A point between two texts parts their segments, whatever points the texts have themselves. -/
theorem segments_append_point (cs rest : List Char) :
    segments (cs ++ '.' :: rest) = segments cs ++ segments rest := by
  induction cs with
  | nil => simp [segments]
  | cons c cs ih =>
    rw [List.cons_append, segments, segments, ih]
    by_cases h : c = '.'
    · simp [h]
    · -- The character goes to the first segment, which is one of the first text.
      obtain ⟨s, ss, parts⟩ := List.exists_cons_of_ne_nil (segments_ne_nil cs)
      simp [h, parts]

theorem segments_append {cs rest : List Char} (h : '.' ∉ cs) :
    segments (cs ++ '.' :: rest) = cs :: segments rest := by
  rw [segments_append_point, segments_of_notMem h]
  rfl

/-- The segments of joined keys are the keys. -/
theorem segments_intercalate {k : String} {ks : List String}
    (h : ∀ s ∈ k :: ks, '.' ∉ s.toList) :
    segments (".".intercalate (k :: ks)).toList = (k :: ks).map String.toList := by
  induction ks generalizing k with
  | nil =>
    rw [String.intercalate_singleton, segments_of_notMem (h k (List.mem_cons_self ..))]
    rfl
  | cons l ks ih =>
    have rest := ih fun s hs => h s (List.mem_cons_of_mem _ hs)
    rw [String.intercalate_cons_cons, String.toList_append, String.toList_append,
      List.append_assoc]
    show segments (k.toList ++ '.' :: (".".intercalate (l :: ks)).toList) = _
    rw [segments_append (h k (List.mem_cons_self ..)), rest]
    rfl

/-- Splitting at the first point gives the first segment. -/
theorem segments_eq_splitPoint? (cs : List Char) :
    segments cs =
      match splitPoint? cs with
      | none => [cs]
      | some (head, rest) => head :: segments rest := by
  induction cs with
  | nil => rfl
  | cons c cs ih =>
    rw [segments, splitPoint?]
    by_cases h : c = '.'
    · rw [if_pos h, if_pos h]
    · rw [if_neg h, if_neg h, ih]
      cases splitPoint? cs <;> rfl

/-! ### Look-up -/

theorem follow_record_cons (es : Elements) (k : String) (ks : List String) :
    (Value.record es).follow (k :: ks) = (es.find? k).bind fun v => v.follow ks := by
  rw [follow]
  rfl

theorem follow_append (v : Value) (ks ls : List String) :
    v.follow (ks ++ ls) = (v.follow ks).bind fun w => w.follow ls := by
  induction ks generalizing v with
  | nil => simp [follow]
  | cons k ks ih =>
    cases v with
    | record es =>
      rw [List.cons_append, follow_record_cons, follow_record_cons, Option.bind_assoc]
      simp only [ih]
    | _ => simp [follow]

theorem findPath_append (v : Value) (p q : String) :
    v.findPath (p ++ "." ++ q) = (v.findPath p).bind fun w => w.findPath q := by
  have text : (p ++ "." ++ q).toList = p.toList ++ '.' :: q.toList := by
    simp [String.toList_append]
  simp only [findPath, text, segments_append_point, List.map_append, follow_append]

theorem findPath_intercalate (v : Value) {k : String} {ks : List String}
    (h : ∀ s ∈ k :: ks, '.' ∉ s.toList) :
    v.findPath (".".intercalate (k :: ks)) = v.follow (k :: ks) := by
  rw [findPath, segments_intercalate h, List.map_map]
  congr 1
  exact List.map_id'' (fun s => String.ofList_toList) _

end Value

theorem Record.findPath_eq (r : Record) (path : String) :
    r.findPath path = (Value.record r.elements).findPath path := by
  rw [findPath, Value.findPath, Value.segments_eq_splitPoint?]
  cases Value.splitPoint? path.toList with
  | none =>
    simp only [List.map_cons, List.map_nil, Value.follow_record_cons, String.ofList_toList]
    show r.find? path = (r.find? path).bind fun v => v.follow []
    cases r.find? path <;> rfl
  | some parts =>
    simp only [List.map_cons, Value.follow_record_cons, Value.findPath, String.toList_ofList]
    rfl

/-- Joined keys lead from element to element. -/
theorem Record.findPath_intercalate (r : Record) {k : String} {ks : List String}
    (h : ∀ s ∈ k :: ks, '.' ∉ s.toList) :
    r.findPath (".".intercalate (k :: ks)) = (r.find? k).bind fun v => v.follow ks := by
  rw [findPath_eq, Value.findPath_intercalate _ h, Value.follow_record_cons]
  rfl

/-- A record is searched as a value, and a path that is put together from two is followed in two
steps, wherever the points stand: at an end, twice in a row, or alone. -/
theorem dotted_paths_compose :
    (∀ (r : Record) (p : String), r.findPath p = (Value.record r.elements).findPath p) ∧
    ∀ (v : Value) (p q : String),
      v.findPath (p ++ "." ++ q) = (v.findPath p).bind fun w => w.findPath q :=
  ⟨Record.findPath_eq, Value.findPath_append⟩

end EntityMapping
