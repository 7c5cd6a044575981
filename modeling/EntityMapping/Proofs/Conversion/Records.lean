import EntityMapping.Attribute.Motto
import EntityMapping.Proofs.Conversion.RoundTrip
import EntityMapping.Proofs.Registry.Reachable

/-!
Storage and back. A record of an instance of a faithful family is read as the instance again, by
everybody who can load the family.
-/

namespace EntityMapping

open Effect Environment Registry Schema

variable {env : Environment} {family : List TypeRef}

/-- A context that came about by use and can load a family of types, one after the other. -/
def Serves (env : Environment) (family : List TypeRef) (c : Context) : Prop :=
  Mapping.Used env c ∧
    ∃ R, (env.loadAllFrom env.catalog.types family).run c.registry = (.ok (), R)

theorem Serves.holds {c : Context} (h : Serves env family c) :
    ∃ R, Holds env family R ∧ Le c.registry R := by
  obtain ⟨used, R, run⟩ := h
  obtain ⟨grown, there⟩ := (grown_loadFrom env).2 _ _ used.2.consistent run
  exact ⟨R, ⟨grown.consistent, fun t ht => exists_find? (there () rfl t ht)⟩, grown.le⟩

theorem serves_of_holds {c : Context} (used : Mapping.Used env c) (holds : Holds env family R)
    (le : Le c.registry R) : Serves env family c := by
  have each : ∀ t ∈ family, ∀ r, Consistent env r → Le r R →
      ∃ m, Answers env R r (env.loadFrom env.catalog.types t) m := by
    intro t ht r h le
    obtain ⟨m, found⟩ := holds.loaded t ht
    exact ⟨m, holds.consistent.answers_load found h le⟩
  obtain ⟨s, run, -⟩ := answers_loadAllFrom used.2.consistent le each
  exact ⟨used, s, run⟩

/-- A record of an instance of a lossless family is read as what comes back of the instance, by
every context that can load the family. Only a listener can still refuse that. -/
theorem exists_restored_of_toRecord {valid : Attribute → Prop} {t : TypeRef} {i : Instance}
    {c c' : Context} {r : Record} (lossless : Lossless env valid family) (mem : t ∈ family)
    (conforms : Conforms env valid t i) (serves : Serves env family c)
    (written : (Mapping.toRecord t i).run c = (.ok r, c')) :
    ∃ j, Restored env t i j ∧ Serves env family c' ∧ ∀ d, Serves env family d →
      ((Mapping.toEntity t r).run d).1 =
        (d.events.notify .postEntity (.entity j)).1.map fun _ => j := by
  obtain ⟨R, holds, le⟩ := serves.holds
  have used' : Mapping.Used env c' := by
    have kept : Keeps (Mapping.Used env) (Mapping.toRecord t i).run := Mapping.keeps_toRecord t i
    have after := kept c serves.1
    rwa [show StateT.run (Mapping.toRecord t i).run c = _ from written] at after
  obtain ⟨⟨rfl, reached⟩, -⟩ := serves
  obtain ⟨m, s, es, n, loaded, elements, rfl⟩ := Mapping.run_toRecord_eq_ok written
  obtain ⟨k, found⟩ := holds.loaded t mem
  obtain ⟨rfl, within⟩ :=
    yields_load_within holds.consistent found c.registry m s ⟨reached.consistent, le⟩ loaded
  obtain ⟨⟨j, restored, complete⟩, within'⟩ := (yields_restored lossless holds).2.1 i m t conforms
    mem found s _ _ within elements
  refine ⟨j, restored, serves_of_holds used' holds within'.2, fun d serves => ?_⟩
  obtain ⟨R', holds', le'⟩ := serves.holds
  obtain ⟨⟨same, reached'⟩, -⟩ := serves
  obtain ⟨k, found'⟩ := holds'.loaded t mem
  obtain ⟨w, run, grown'', within''⟩ :=
    holds'.consistent.answers_load found' reached'.consistent le'
  have there := (reached'.consistent.grown_load run).2 k rfl
  have once : (Keyed.keys ([] ++ es)).Nodup := complete.nodup
  have whole : (Record.ofElements n.name es).elements = es :=
    (Keyed.putAll_of_nodup once).trans (List.nil_append es)
  obtain ⟨x, read, -⟩ := complete.reads es (fun _ _ => rfl) R' k w _ holds' grown''.consistent
    within'' there (grown''.consistent.built_find? there).enterable fun _ => rfl
  refine Mapping.run_toEntity_of_read (m := k) (s := w) (u := x) ?_ ?_
  · rw [same]
    exact run
  · rw [same, whole]
    exact read

/-- A record of an instance of a faithful family is read as the instance, by every context that can
load the family, one being the context in which the record was written. Only a listener can still
refuse the instance. -/
theorem record_reads_as_its_instance (env : Environment) (valid : Attribute → Prop)
    (family : List TypeRef) (faithful : Faithful env valid family) (t : TypeRef) (mem : t ∈ family)
    (i : Instance) (conforms : Conforms env valid t i) (c c' : Context)
    (serves : Serves env family c) (r : Record)
    (written : (Mapping.toRecord t i).run c = (.ok r, c')) :
    Serves env family c' ∧ ∀ d, Serves env family d →
      ((Mapping.toEntity t r).run d).1 =
        (d.events.notify .postEntity (.entity i)).1.map fun _ => i := by
  obtain ⟨j, restored, serves', reads⟩ :=
    exists_restored_of_toRecord faithful.toLossless mem conforms serves written
  obtain rfl := restored.eq faithful conforms mem
  exact ⟨serves', reads⟩

/-! ### A household -/

namespace Household

def person : TypeRef := ⟨0, "Person"⟩

def address : TypeRef := ⟨1, "Address"⟩

def animal : TypeRef := ⟨2, "Animal"⟩

def dog : TypeRef := ⟨3, "Dog"⟩

def mottoRef : ConverterRef := ⟨"MottoConverter", "Motto"⟩

/-- People with a motto, an address, a pet and addresses of earlier times. -/
def environment : Environment where
  catalog := {
    valueName := "Value"
    descriptors := [
      { name := "Person", type := person, suppliesInstances := true
        fields := [⟨.of "nickname", .plain (.option .string) none⟩,
          ⟨.of "motto", .converted mottoRef Motto.blank⟩, ⟨.of "home", .embedded address⟩,
          ⟨.of "pet", .entity animal⟩, ⟨.of "former", .embeddables address⟩] },
      { name := "Address", type := address, suppliesInstances := true
        fields := [⟨.of "city", .plain .string ""⟩] },
      { name := "Animal", type := animal, polymorphism := some none, variants := [dog] },
      { name := "Dog", type := dog, suppliesInstances := true
        fields := [⟨.of "name", .plain .string ""⟩], inheritance := some ⟨animal, "dog"⟩ }] }
  config := {}
  converters := [("MottoConverter", Motto.converter mottoRef)]

def types : List TypeRef := [person, address, animal, dog]

def lives (city : String) : Instance := .mk address [("city", .plain .string city)] none

def rex : Instance := .mk animal [] (some (.mk dog [("name", .plain .string "Rex")] none))

def ada : Instance :=
  .mk person [("nickname", .plain (.option .string) none),
    ("motto", .converted ⟨"Motto", .text "Onward"⟩), ("home", .object (lives "London")),
    ("pet", .object rex), ("former", .objects [lives "Marylebone", lives "Kirkby"])] none

def IsMotto (a : Attribute) : Prop := ∃ s, a = ⟨"Motto", .text s⟩

theorem conforms_lives (city : String) : Conforms environment IsMotto address (lives city) :=
  .concrete rfl (.cons (.plain _) .nil)

theorem conforms_ada : Conforms environment IsMotto person ada := by
  refine .concrete rfl (.cons (.plain _) (.cons (.converted rfl ⟨_, rfl⟩)
    (.cons (.embedded (conforms_lives _)) (.cons (.entity ?_) (.cons (.embeddables ?_) .nil)))))
  · exact .holding rfl (List.mem_singleton_self dog) (.concrete rfl (.cons (.plain _) .nil))
  · intro o ho
    simp only [List.mem_cons, List.not_mem_nil, or_false] at ho
    rcases ho with rfl | rfl <;> exact conforms_lives _

/-- The attributes of the household, all types together. -/
theorem field_cases {t : TypeRef} (ht : t ∈ types) {f : MappedField}
    (hf : f ∈ declared environment.catalog environment.config t) :
    f.type = .plain (.option .string) none ∨ f.type = .converted mottoRef Motto.blank ∨
      f.type = .embedded address ∨ f.type = .entity animal ∨ f.type = .embeddables address ∨
      f.type = .plain .string "" := by
  simp only [types, List.mem_cons, List.not_mem_nil, or_false] at ht
  rcases ht with rfl | rfl | rfl | rfl
  · have hf : f ∈ [_, _, _, _, _] := hf
    simp only [List.mem_cons, List.not_mem_nil, or_false] at hf
    rcases hf with rfl | rfl | rfl | rfl | rfl <;> simp [mapField]
  · have hf : f ∈ [_] := hf
    rw [List.mem_singleton.1 hf]
    simp [mapField]
  · cases hf
  · have hf : f ∈ [_] := hf
    rw [List.mem_singleton.1 hf]
    simp [mapField]

theorem not_markKey {t : TypeRef} (ht : t ∈ types) {f : MappedField} {k : String}
    (hf : f ∈ declared environment.catalog environment.config t) :
    ¬ MarkKey environment.catalog environment.config f k := by
  intro mark
  induction mark generalizing t with
  | @own f u b embeds bound =>
    rcases field_cases ht hf with h | h | h | h | h | h <;> rw [h] at embeds <;> cases embeds
    cases bound
  | @inner f g u k embeds mem below ih =>
    rcases field_cases ht hf with h | h | h | h | h | h <;> rw [h] at embeds <;> cases embeds
    exact ih (by decide) mem

theorem toNative_eq_null {s : String} (h : Motto.toNative (.text s) = .null) : s = "" := by
  rw [Motto.toNative, Motto.words] at h
  split at h
  · rename_i empty
    exact String.isEmpty_iff.1 empty
  · cases h

theorem faithful : Faithful environment IsMotto types where
  supplied t ht plain := by
    simp only [types, List.mem_cons, List.not_mem_nil, or_false] at ht
    rcases ht with rfl | rfl | rfl | rfl
    · exact ⟨rfl, nofun⟩
    · exact ⟨rfl, nofun⟩
    · cases plain
    · exact ⟨rfl, nofun⟩
  fieldless t ht polymorphic := by
    simp only [types, List.mem_cons, List.not_mem_nil, or_false] at ht
    rcases ht with rfl | rfl | rfl | rfl
    · cases polymorphic
    · cases polymorphic
    · rfl
    · cases polymorphic
  variants t ht polymorphic v hv := by
    simp only [types, List.mem_cons, List.not_mem_nil, or_false] at ht
    rcases ht with rfl | rfl | rfl | rfl
    · cases hv
    · cases hv
    · obtain rfl := List.mem_singleton.1 hv
      exact ⟨by decide, rfl, _, rfl, rfl⟩
    · cases hv
  closed t ht f hf u hu := by
    rcases field_cases ht hf with h | h | h | h | h | h <;> rw [h] at hu <;> cases hu <;> decide
  embeds t ht f hf u hu := by
    rcases field_cases ht hf with h | h | h | h | h | h <;> rw [h] at hu <;> cases hu
    rfl
  plain t ht f hf type initial x v hu value := by
    rcases field_cases ht hf with h | h | h | h | h | h <;> rw [h] at hu <;> cases hu
    · cases x with
      | none =>
        cases value
        rfl
      | some text =>
        cases value
        rfl
    · cases value
      rfl
  plainNull t ht f hf type initial x hu value := by
    rcases field_cases ht hf with h | h | h | h | h | h <;> rw [h] at hu <;> cases hu
    · cases x with
      | none => rfl
      | some text => cases value
    · cases value
  converted t ht f hf r initial k a v hu there real value _ := by
    rcases field_cases ht hf with h | h | h | h | h | h <;> rw [h] at hu <;> cases hu
    obtain ⟨words, rfl⟩ := real
    cases there
    rw [Converter.toNative, if_pos (by rfl)] at value
    cases value
    exact congrArg (fun v => Except.ok (Attribute.mk "Motto" v)) (Motto.ofNative_toNative words)
  convertedNull t ht f hf r initial k a hu there real value := by
    rcases field_cases ht hf with h | h | h | h | h | h <;> rw [h] at hu <;> cases hu
    obtain ⟨words, rfl⟩ := real
    cases there
    rw [Converter.toNative, if_pos (by rfl)] at value
    rw [toNative_eq_null (Except.ok.inj value)]
    rfl
  apart t ht := by
    refine ⟨List.pairwise_of_forall_mem_list fun f hf g hg k => ?_, fun b hb f hf => ?_⟩
    · exact ⟨fun h => absurd h (not_markKey ht hf), fun h => absurd h (not_markKey ht hg)⟩
    · simp only [types, List.mem_cons, List.not_mem_nil, or_false] at ht
      rcases ht with rfl | rfl | rfl | rfl
      · cases hb
      · cases hb
      · cases hb
      · cases hb
        have hf : f ∈ [_] := hf
        rw [List.mem_singleton.1 hf, levelKey_single (by nofun)]
        decide

end Household

open Household in
theorem record_reads_as_its_instance_ada :
    Faithful environment IsMotto types ∧ person ∈ types ∧ Conforms environment IsMotto person ada ∧
      Serves environment types { environment := environment } ∧
      ∃ r c, (Mapping.toRecord person ada).run { environment := environment } = (.ok r, c) ∧
        ((Mapping.toEntity person r).run { environment := environment }).1 = .ok ada := by
  have loads :
      ((environment.loadAllFrom environment.catalog.types types).run {}).1.isOk = true := by
    cbv
  have writes :
      ((Mapping.toRecord person ada).run { environment := environment }).1.isOk = true := by
    cbv
  have serves : Serves environment types { environment := environment } := by
    refine ⟨⟨rfl, .empty⟩, ?_⟩
    rcases run : (environment.loadAllFrom environment.catalog.types types).run {} with ⟨e | x, R⟩
    · rw [run] at loads
      cases loads
    · exact ⟨R, rfl⟩
  have mem : person ∈ types := List.mem_cons_self ..
  rcases run : (Mapping.toRecord person ada).run { environment := environment } with ⟨e | r, c⟩
  · rw [run] at writes
    cases writes
  · have back := (record_reads_as_its_instance environment IsMotto types faithful person mem ada
      conforms_ada { environment := environment } c serves r run).2 { environment := environment }
      serves
    exact ⟨faithful, mem, conforms_ada, serves, r, c, rfl, back⟩

end EntityMapping
