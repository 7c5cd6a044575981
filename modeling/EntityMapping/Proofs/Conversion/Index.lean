import EntityMapping.Proofs.Conversion.Lookup
import EntityMapping.Proofs.Registry.Reachable

/-!
The index of paths and what is written. A query for an attribute is answered by what stands at the
native path that the index has for it, so it is the value of the attribute that has to stand there.
It does, through any mix of embedded and nested objects, as long as no attribute beside the way
writes the same key unchecked. The discriminator of an embedded variant is such a key.
-/

namespace EntityMapping

open Effect Environment Registry Schema

variable {env : Environment} {valid : Attribute → Prop}

/-- A path of the index denotes a way: it spells the way, and leads where the way leads. -/
structure Denotes (env : Environment) (t : TypeRef) (m : Metadata) (p : String)
    (w : List MappedField) : Prop where
  way : Way env.catalog env.config t w
  path : p = spelling w
  entry : ∃ n, m.findNative? p = some n ∧ Leads "" w n

theorem mem_levelKeys {w : List MappedField} {k : String} (h : k ∈ levelKeys w) :
    ∃ f ∈ w, f.key = k := by
  induction w with
  | nil => cases h
  | cons f w ih =>
    by_cases single : ∀ u, f.type ≠ .embedded u
    · rw [levelKeys_single single] at h
      rcases List.mem_cons.1 h with rfl | h
      · exact ⟨f, List.mem_cons_self .., rfl⟩
      · obtain ⟨g, mem, key⟩ := ih h
        exact ⟨g, List.mem_cons_of_mem _ mem, key⟩
    · have ⟨u, embeds⟩ : ∃ u, f.type = .embedded u := by simpa using single
      rw [levelKeys_embedded embeds] at h
      obtain ⟨g, mem, key⟩ := ih h
      exact ⟨g, List.mem_cons_of_mem _ mem, key⟩

/-- What keys find in elements, the path that joins them finds in the record of the elements. -/
theorem Finds.findPath {es : Elements} {ks : List String} {answer : Option Value}
    (h : Finds es ks answer) (plain : ∀ k ∈ ks, '.' ∉ k.toList) (name : String) :
    (Record.ofElements name es).findPath (".".intercalate ks) = answer := by
  obtain ⟨k, rest, x, rfl, under, follow⟩ := h
  have first : (Record.ofElements name es).find? k = x := by
    show Keyed.find? k (Keyed.putAll [] es) = x
    rw [Keyed.find?_putAll, under]
    cases x <;> rfl
  rw [Record.findPath_intercalate _ plain, first]
  exact follow

theorem Denotes.nativePath {t : TypeRef} {m : Metadata} {p : String} {w : List MappedField}
    (h : Denotes env t m p w) (way : ValueWay env t w) :
    m.nativePath p = nativeSpelling w := by
  obtain ⟨n, found, leads⟩ := h.entry
  have leaf : n.field.type.element? = none := way.leaf leads.last
  rw [Metadata.nativePath, found]
  exact (leads.native leaf).trans String.empty_append

/-- A path of the index denotes a way. Where the way ends on a value, the native path finds in the
record of an instance the value to which the way leads in the instance, or nothing if that value is
left out; unless another attribute hides it. -/
theorem indexed_path_finds_value (env : Environment) (valid : Attribute → Prop) (c : Context)
    (used : Mapping.Used env c) (t : TypeRef) (m : Metadata) (loaded : c.registry.find? t = some m)
    (concrete : m.isPolymorphic = false) (unbound : m.binding = none) (p : String) (n : NativePath)
    (entry : m.findNative? p = some n) :
    (∃ w, Denotes env t m p w) ∧
      ∀ w, Denotes env t m p w → ValueWay env t w → (∀ f ∈ w, '.' ∉ f.key.toList) →
        ∀ i, Conforms env valid t i → ¬ Hidden env i w →
          ∀ r c', (Mapping.toRecord t i).run c = (.ok r, c') →
            ∃ v, ValueAt env i w v ∧ r.findPath (m.nativePath p) = shown env v := by
  obtain ⟨rfl, reached⟩ := used
  have consistent := reached.consistent
  have build := consistent.build_find? loaded
  have built := built_of_build build
  refine ⟨?_, fun w denotes way plain i conforms clear r c' written => ?_⟩
  · obtain ⟨w, way, path, leads⟩ := built.exists_way entry
    exact ⟨w, way, path, n, entry, leads⟩
  obtain ⟨k, s, es, l, load, elements, rfl⟩ := Mapping.run_toRecord_eq_ok written
  obtain ⟨same, consistent', -⟩ :=
    yields_load_within consistent loaded c.registry k s ⟨consistent, .refl _⟩ load
  rw [same, elementsWith_concrete concrete] at elements
  obtain ⟨own, s', fields, last⟩ := run_bind_eq_ok.1 elements
  cases last
  have single : (c.environment.catalog.describe t).isPolymorphic = false :=
    built.isPolymorphic.symm.trans concrete
  obtain ⟨⟨v, value, found⟩, -⟩ :=
    yields_finds way build single conforms clear s own _ consistent' fields
  have unmarked : m.marks = [] := by rw [Metadata.marks, unbound]; rfl
  refine ⟨v, value, ?_⟩
  have keys : ∀ k ∈ levelKeys w, '.' ∉ k.toList := by
    intro k hk
    obtain ⟨f, mem, rfl⟩ := mem_levelKeys hk
    exact plain f mem
  rw [denotes.nativePath way, nativeSpelling, unmarked, List.append_nil]
  exact found.findPath keys m.name

/-! ### A shipment -/

namespace Shipping

def shipment : TypeRef := ⟨0, "Shipment"⟩

def crate : TypeRef := ⟨1, "Crate"⟩

def cargo : TypeRef := ⟨2, "Cargo"⟩

def harbour : TypeRef := ⟨3, "Harbour"⟩

def place : TypeRef := ⟨4, "Place"⟩

def kindField : MappedField := ⟨"kind", "kind", false, .plain .string "", shipment⟩

def goodsField : MappedField := ⟨"goods", "goods", false, .embedded crate, shipment⟩

def portField : MappedField := ⟨"port", "port", false, .entity harbour, shipment⟩

def placeField : MappedField := ⟨"place", "place", false, .embedded place, harbour⟩

def cityField : MappedField := ⟨"city", "city", false, .plain .string "", place⟩

/-- Shipments with a kind, goods and a port. Crates are a variant of cargo, and its discriminator
stands under the key of the kind. -/
def environment : Environment where
  catalog := {
    valueName := "Value"
    descriptors := [
      { name := "Shipment", type := shipment, suppliesInstances := true
        fields := [⟨.of "kind", .plain .string ""⟩, ⟨.of "goods", .embedded crate⟩,
          ⟨.of "port", .entity harbour⟩] },
      { name := "Crate", type := crate, suppliesInstances := true
        inheritance := some ⟨cargo, "crate"⟩ },
      { name := "Cargo", type := cargo, polymorphism := some (some "kind"), variants := [crate] },
      { name := "Harbour", type := harbour, suppliesInstances := true
        fields := [⟨.of "place", .embedded place⟩] },
      { name := "Place", type := place, suppliesInstances := true
        fields := [⟨.of "city", .plain .string ""⟩] }] }
  config := {}
  converters := []

theorem declared_shipment : declared environment.catalog environment.config shipment =
    [kindField, goodsField, portField] := by
  cbv

theorem declared_harbour : declared environment.catalog environment.config harbour =
    [placeField] := by
  cbv

theorem declared_place : declared environment.catalog environment.config place = [cityField] := by
  cbv

def genoa : Instance := .mk place [("city", .plain .string "Genoa")] none

def ligurian : Instance := .mk harbour [("place", .object genoa)] none

def parcel : Instance :=
  .mk shipment [("kind", .plain .string "urgent"), ("goods", .object (.mk crate [] none)),
    ("port", .object ligurian)] none

theorem conforms_parcel : Conforms environment (fun _ => True) shipment parcel := by
  have city : Conforms environment (fun _ => True) place genoa :=
    .concrete rfl (.cons (.plain _) .nil)
  have port : Conforms environment (fun _ => True) harbour ligurian :=
    .concrete rfl (.cons (.embedded city) .nil)
  have goods : Conforms environment (fun _ => True) crate (.mk crate [] none) := .concrete rfl .nil
  exact .concrete rfl (.cons (.plain _) (.cons (.embedded goods) (.cons (.entity port) .nil)))

def context : Context := { environment, registry := ((environment.load shipment).run {}).2 }

theorem used_context : Mapping.Used environment context := ⟨rfl, .load .empty shipment⟩

theorem exists_loaded : ∃ m, context.registry.find? shipment = some m ∧
    m.isPolymorphic = false ∧ m.binding = none ∧
    m.findNative? "kind" = some ⟨"kind", kindField⟩ ∧
    m.findNative? "port.place.city" = some ⟨"port.city", cityField⟩ := by
  have known : (context.registry.find? shipment).map (fun m =>
      (m.isPolymorphic, m.binding, m.findNative? "kind", m.findNative? "port.place.city")) =
      some (false, none, some ⟨"kind", kindField⟩, some ⟨"port.city", cityField⟩) := by
    cbv
  obtain ⟨m, found, same⟩ := Option.map_eq_some_iff.1 known
  simp only [Prod.mk.injEq] at same
  exact ⟨m, found, same⟩

def cityWay : List MappedField := [portField, placeField, cityField]

theorem mem_shipment {f : MappedField} (h : f ∈ [kindField, goodsField, portField]) :
    f ∈ declared environment.catalog environment.config shipment := by
  rw [declared_shipment]
  exact h

theorem valueWay_cityWay : ValueWay environment shipment cityWay := by
  refine .step (mem_shipment (by simp)) (.inr rfl) rfl rfl ?_
  refine .step ?_ (.inl rfl) rfl rfl (.last ?_ rfl)
  · rw [declared_harbour]
    exact List.mem_singleton_self _
  · rw [declared_place]
    exact List.mem_singleton_self _

theorem unchecked_goods {k : String} (h : Unchecked environment parcel goodsField k) :
    k = "kind" := by
  have written_crate : ∀ {o j : Instance} {u v : TypeRef}, goodsField.type = .embedded u →
      WrittenAs environment u o v j → v = crate := by
    intro o j u v embeds written
    cases embeds
    exact written.1
  cases h with
  | mark embeds read written bound =>
    rw [written_crate embeds written] at bound
    cases bound
    rfl
  | native embeds read polymorphic =>
    cases embeds
    cases polymorphic
  | inner embeds read written mem =>
    rw [written_crate embeds written] at mem
    cases mem

theorem not_unchecked {i : Instance} {f : MappedField} {k : String}
    (single : ∀ u, f.type ≠ .embedded u) : ¬ Unchecked env i f k := by
  intro h
  cases h with
  | mark embeds => exact single _ embeds
  | native embeds => exact single _ embeds
  | inner embeds => exact single _ embeds

/-- Nothing on the way to the city is hidden: the one unchecked key is that of the kind. -/
theorem not_hidden_cityWay : ¬ Hidden environment parcel cityWay := by
  intro h
  cases h with
  | here mem other key unchecked =>
    cases key
    rw [show parcel.type = shipment from rfl, declared_shipment] at mem
    simp only [List.mem_cons, List.not_mem_nil, or_false] at mem
    rcases mem with rfl | rfl | rfl
    · exact not_unchecked (by nofun) unchecked
    · have same := unchecked_goods unchecked
      revert same
      decide
    · exact other rfl
  | deeper read rest =>
    cases read
    cases rest with
    | here mem other =>
      rw [show Instance.type _ = harbour from rfl, declared_harbour] at mem
      exact other (List.mem_singleton.1 mem)
    | deeper read rest =>
      cases read
      cases rest with
      | here mem other =>
        rw [show Instance.type _ = place from rfl, declared_place] at mem
        exact other (List.mem_singleton.1 mem)
      | deeper read => cases read

/-- The kind is hidden: the goods write the discriminator of crates under its key. -/
theorem hidden_kind : Hidden environment parcel [kindField] := by
  have mem : goodsField ∈ declared environment.catalog environment.config parcel.type :=
    mem_shipment (by simp)
  have written : WrittenAs environment crate (.mk crate [] none) crate (.mk crate [] none) :=
    ⟨rfl, rfl⟩
  have bound : declaredBinding environment.catalog environment.config crate =
      some ⟨"kind", "crate", cargo, crate⟩ := by
    cbv
  have unchecked : Unchecked environment parcel goodsField "kind" := .mark rfl rfl written bound
  have keys : ((environment.ownElements parcel goodsField).run {}).1.map (fun es => es.keys) =
      .ok ["kind"] := by
    cbv
  have writes : Writes environment parcel goodsField "kind" := by
    rcases run : (environment.ownElements parcel goodsField).run {} with ⟨e | es, r⟩
    · rw [run] at keys
      cases keys
    · rw [run] at keys
      refine ⟨{}, es, r, consistent_empty, run, ?_⟩
      rw [show es.keys = ["kind"] from Except.ok.inj keys]
      exact List.mem_singleton_self _
  have other : goodsField ≠ kindField := by
    intro same
    have keys : goodsField.key = kindField.key := congrArg MappedField.key same
    revert keys
    decide
  exact .here mem other rfl unchecked writes

theorem denotes_cityWay {m : Metadata}
    (entry : m.findNative? "port.place.city" = some ⟨"port.city", cityField⟩) :
    Denotes environment shipment m "port.place.city" cityWay where
  way := valueWay_cityWay.way
  path := by decide
  entry := ⟨_, entry, rfl, fun _ => by decide⟩

end Shipping

open Shipping in
theorem indexed_path_finds_value_city :
    ∃ m n r c v, Mapping.Used environment context ∧ context.registry.find? shipment = some m ∧
      m.isPolymorphic = false ∧ m.binding = none ∧ m.findNative? "port.place.city" = some n ∧
      Denotes environment shipment m "port.place.city" cityWay ∧
      (Mapping.toRecord shipment parcel).run context = (.ok r, c) ∧
      ValueAt environment parcel cityWay v ∧
      r.findPath (m.nativePath "port.place.city") = shown environment v := by
  have writes : ((Mapping.toRecord shipment parcel).run context).1.isOk = true := by cbv
  obtain ⟨m, loaded, concrete, unbound, -, entry⟩ := exists_loaded
  rcases run : (Mapping.toRecord shipment parcel).run context with ⟨e | r, c⟩
  · rw [run] at writes
    cases writes
  · have denotes := denotes_cityWay entry
    have plain : ∀ f ∈ cityWay, '.' ∉ f.key.toList := by decide
    obtain ⟨v, value, finds⟩ := (indexed_path_finds_value environment (fun _ => True) context
      used_context shipment m loaded concrete unbound _ _ entry).2 cityWay denotes valueWay_cityWay
      plain parcel conforms_parcel not_hidden_cityWay r c run
    exact ⟨m, _, r, c, v, used_context, loaded, concrete, unbound, entry, denotes, rfl, value,
      finds⟩

open Shipping in
/-- The kind of a shipment is written and then replaced by the discriminator of what it embeds. -/
theorem discriminator_hides_kind :
    ∃ m r c, Mapping.Used environment context ∧ context.registry.find? shipment = some m ∧
      m.isPolymorphic = false ∧ m.binding = none ∧
      Denotes environment shipment m "kind" [kindField] ∧
      ValueWay environment shipment [kindField] ∧ (∀ f ∈ [kindField], '.' ∉ f.key.toList) ∧
      Conforms environment (fun _ => True) shipment parcel ∧
      Hidden environment parcel [kindField] ∧
      (Mapping.toRecord shipment parcel).run context = (.ok r, c) ∧
      ValueAt environment parcel [kindField] (.text "urgent") ∧
      shown environment (.text "urgent") = some (.text "urgent") ∧
      r.findPath (m.nativePath "kind") = some (.text "crate") := by
  have found : ((Mapping.toRecord shipment parcel).run context).1.map (fun r => r.findPath "kind") =
      .ok (some (.text "crate")) := by
    cbv
  obtain ⟨m, loaded, concrete, unbound, entry, -⟩ := exists_loaded
  have mem : kindField ∈ declared environment.catalog environment.config shipment :=
    mem_shipment (by simp)
  have denotes : Denotes environment shipment m "kind" [kindField] :=
    ⟨.last mem, by decide, _, entry, rfl, fun _ => by decide⟩
  have native : m.nativePath "kind" = "kind" := by rw [Metadata.nativePath, entry]
  rcases run : (Mapping.toRecord shipment parcel).run context with ⟨e | r, c⟩
  · rw [run] at found
    cases found
  · rw [run] at found
    refine ⟨m, r, c, used_context, loaded, concrete, unbound, denotes, .last mem rfl, by decide,
      conforms_parcel, hidden_kind, rfl, .last rfl (.native _), rfl, ?_⟩
    rw [native]
    exact Except.ok.inj found

end EntityMapping
