import EntityMapping.Attribute.Money
import EntityMapping.Conversion.Reading
import EntityMapping.Proofs.FirstFailure
import EntityMapping.Proofs.Keyed
import EntityMapping.Proofs.Schema.Built
import Mathlib.Data.List.Nodup

/-!
Arguments are passed in the order of the parameters and taken by name. Here is what a constructor
gets for its calls, one after the other, and what it gets for a name where nothing else is passed
or asked for. The two agree as long as no name is asked for twice, so neither the order of the
calls nor that of the parameters matters.
-/

namespace EntityMapping

/-- Whether a call uses up the argument that it asks for. -/
def Taking.uses : Taking → Bool
  | .get _ | .optional _ | .attribute _ => true
  | .isEmpty | .count => false

/-- Calls that take arguments, each name at most once. -/
structure TakesOnce (calls : List Assignment) : Prop where
  uses : ∀ s ∈ calls, s.taking.uses = true
  once : (calls.map (·.parameter)).Nodup

theorem TakesOnce.perm {calls calls' : List Assignment} (h : TakesOnce calls)
    (shuffled : calls'.Perm calls) : TakesOnce calls' :=
  ⟨fun s hs => h.uses s (shuffled.mem_iff.1 hs), ((shuffled.map _).nodup_iff).2 h.once⟩

/-- A call about a missing argument fails where the value has to be there, and gets none where it
may be missing. -/
def GetsNothing (entity : String) (s : Assignment) (a : Except MapperError Slot) : Prop :=
  match s.taking with
  | .get _ | .attribute _ =>
    ∃ e, a = .error e ∧ e = .missingArgument s.parameter entity ∧ e.kind = .mapping
  | .optional t => a = .ok (.plain (.option t) none)
  | .isEmpty | .count => True

namespace Arguments

variable {valueName entity : String} {args : Arguments} {s : Assignment}

def answer (valueName : String) (args : Arguments) (s : Assignment) : Except MapperError Slot :=
  (args.resolve valueName s.parameter s.taking).map Prod.fst

def after (args : Arguments) (s : Assignment) : Arguments :=
  if s.taking.uses && (args.values.find? s.parameter).isSome then args.clear s.parameter else args

/-- The answers to some calls, one after the other. A call that fails does not end them. -/
def answers (valueName : String) (args : Arguments) :
    List Assignment → List (Except MapperError Slot)
  | [] => []
  | s :: rest => args.answer valueName s :: answers valueName (args.after s) rest

def single (entity name : String) (a : Argument) : Arguments := ⟨entity, [(name, a)]⟩

/-- What a call makes of an argument, whatever other arguments there are. -/
def made (valueName entity : String) (a : Argument) (s : Assignment) : Except MapperError Slot :=
  (single entity s.parameter a).answer valueName s

/-! ### One call -/

theorem take_of_some {name : String} {a : Argument} (h : args.values.find? name = some a) :
    args.take name = .ok (a, args.clear name) := by
  rw [take, h]

theorem take_of_none {name : String} (h : args.values.find? name = none) :
    args.take name = .error (.unknownParameter args.entity name) := by
  rw [take, h]

/-- A call that takes an argument looks at this one only and leaves the others. -/
theorem resolve_of_some {a : Argument} (uses : s.taking.uses = true)
    (h : args.values.find? s.parameter = some a) :
    args.resolve valueName s.parameter s.taking =
      (made valueName args.entity a s).map fun slot => (slot, args.clear s.parameter) := by
  have sole : (single args.entity s.parameter a).values.find? s.parameter = some a := by
    simp [single, Keyed.find?]
  unfold made answer
  cases how : s.taking with
  | isEmpty | count =>
    rw [how] at uses
    cases uses
  | get t =>
    rw [resolve, resolve, take_of_some h, take_of_some sole]
    cases a with
    | value v =>
      dsimp only [bind, Except.bind]
      cases t.ofValue v <;> rfl
    | «attribute» b =>
      dsimp only [bind, Except.bind]
      cases b.toPlain valueName t <;> rfl
    | empty => rfl
  | optional t =>
    rw [resolve, resolve, take_of_some h, take_of_some sole]
    cases a with
    | value v =>
      dsimp only [bind, Except.bind]
      split
      · rfl
      · rfl
      · rename_i w _ _
        cases t.ofValue w <;> rfl
      · rename_i b _
        cases b.toPlain valueName t <;> rfl
    | «attribute» b =>
      dsimp only [bind, Except.bind]
      cases b.toPlain valueName t <;> rfl
    | empty => rfl
  | «attribute» typeName =>
    rw [resolve, resolve, take_of_some h, take_of_some sole]
    cases a with
    | «attribute» b =>
      dsimp only [bind, Except.bind]
      split <;> rfl
    | value | empty => rfl

/-- What a converter has read is taken as a plain value where its attributes are texts. -/
example : made "Value" "Article" (.attribute ⟨"alloc::string::String", .text "Ink"⟩)
    ⟨"name", "name", .get .string⟩ = .ok (.plain .string "Ink") := rfl

theorem resolve_of_none (uses : s.taking.uses = true)
    (h : args.values.find? s.parameter = none) :
    args.resolve valueName s.parameter s.taking =
      .error (.unknownParameter args.entity s.parameter) := by
  cases how : s.taking with
  | isEmpty | count =>
    rw [how] at uses
    cases uses
  | get t | optional t | «attribute» t =>
    rw [resolve, take_of_none h]
    rfl

theorem answer_of_some {a : Argument} (uses : s.taking.uses = true)
    (h : args.values.find? s.parameter = some a) :
    args.answer valueName s = made valueName args.entity a s := by
  rw [answer, resolve_of_some uses h]
  cases made valueName args.entity a s <;> rfl

theorem answer_of_none (uses : s.taking.uses = true)
    (h : args.values.find? s.parameter = none) :
    args.answer valueName s = .error (.unknownParameter args.entity s.parameter) := by
  rw [answer, resolve_of_none uses h]
  rfl

theorem getsNothing_made (valueName entity : String) (s : Assignment) :
    GetsNothing entity s (made valueName entity .empty s) := by
  have sole : (single entity s.parameter .empty).values.find? s.parameter = some .empty := by
    simp [single, Keyed.find?]
  unfold GetsNothing made answer
  cases s.taking with
  | get t | «attribute» t =>
    rw [resolve, take_of_some sole]
    exact ⟨_, rfl, rfl, rfl⟩
  | optional t =>
    rw [resolve, take_of_some sole]
    rfl
  | isEmpty | count => trivial

/-- What a call leaves if it answers is what is said to be left. -/
theorem rest_of_resolve {slot : Slot} {rest : Arguments}
    (h : args.resolve valueName s.parameter s.taking = .ok (slot, rest)) : rest = args.after s := by
  cases uses : s.taking.uses with
  | true =>
    cases found : args.values.find? s.parameter with
    | none =>
      rw [resolve_of_none uses found] at h
      cases h
    | some a =>
      rw [resolve_of_some uses found] at h
      obtain ⟨_, -, same⟩ := Schema.map_eq_ok h
      cases same
      rw [after, uses, found]
      rfl
  | false =>
    have same : args.after s = args := by rw [after, uses]; rfl
    rw [same]
    cases how : s.taking with
    | isEmpty | count =>
      rw [how] at h
      cases h
      rfl
    | get | optional | «attribute» =>
      rw [how] at uses
      cases uses

/-! ### One call after the other -/

@[simp] theorem entity_after (args : Arguments) (s : Assignment) :
    (args.after s).entity = args.entity := by
  unfold after
  split <;> rfl

theorem find?_after {name : String} (other : name ≠ s.parameter) :
    (args.after s).values.find? name = args.values.find? name := by
  unfold after
  split
  · rw [clear, Keyed.find?_put, if_neg other]
  · rfl

theorem answer_after {u : Assignment} (uses : u.taking.uses = true)
    (other : u.parameter ≠ s.parameter) :
    (args.after s).answer valueName u = args.answer valueName u := by
  have same : (args.after s).values.find? u.parameter = args.values.find? u.parameter :=
    find?_after other
  cases found : args.values.find? u.parameter with
  | none => rw [answer_of_none uses found, answer_of_none uses (same.trans found), entity_after]
  | some a => rw [answer_of_some uses found, answer_of_some uses (same.trans found), entity_after]

/-- Calls that take each name at most once answer as if each were the first one. -/
theorem answers_eq_map {calls : List Assignment} (h : TakesOnce calls) :
    args.answers valueName calls = calls.map (args.answer valueName) := by
  induction calls generalizing args with
  | nil => rfl
  | cons s rest ih =>
    obtain ⟨first, once⟩ := List.nodup_cons.1 h.once
    have later : TakesOnce rest := ⟨fun u hu => h.uses u (List.mem_cons_of_mem _ hu), once⟩
    rw [answers, ih later, List.map_cons]
    refine congrArg _ (List.map_congr_left fun u hu => ?_)
    exact answer_after (later.uses u hu) fun same => first (List.mem_map.2 ⟨u, hu, same⟩)

/-- What a constructor makes of the answers: each goes to its attribute, unless the instance does
not have it; the first one that is an error ends the construction. -/
def settle (i : Instance) (s : Assignment) (a : Except MapperError Slot) :
    Except MapperError Instance := do
  let slot ← a
  .ok (if (i.slots.find? s.field).isSome then i.setSlot s.field slot else i)

/-- A construction is what becomes of the answers to its calls. -/
theorem assign_eq_answers (i : Instance) (calls : List Assignment) :
    assign valueName i args calls =
      (calls.zip (args.answers valueName calls)).foldlM (fun i p => settle i p.1 p.2) i := by
  induction calls generalizing i args with
  | nil => rfl
  | cons s rest ih =>
    rw [assign, answers, List.zip_cons_cons, List.foldlM_cons, answer]
    cases answered : args.resolve valueName s.parameter s.taking with
    | error e => rfl
    | ok p =>
      obtain ⟨slot, left⟩ := p
      obtain rfl := rest_of_resolve answered
      exact ih _

/-! ### Passing -/

/-- Some arguments under the names of some parameters; what is not passed is missing. -/
def passing : List Parameter → List Argument → Keyed Argument
  | [], _ => []
  | p :: ps, as => (p.name, as.head?.getD .empty) :: passing ps as.tail

theorem passing_nil (ps : List Parameter) :
    passing ps [] = ps.map fun p => (p.name, .empty) := by
  induction ps with
  | nil => rfl
  | cons p ps ih => rw [passing, List.map_cons, List.tail_nil, ih]; rfl

theorem keys_passing (ps : List Parameter) (as : List Argument) :
    (passing ps as).keys = ps.map (·.name) := by
  induction ps generalizing as with
  | nil => rfl
  | cons p ps ih => exact congrArg _ (ih as.tail)

theorem mem_passing_of_mem_drop {ps : List Parameter} {as : List Argument} {p : Parameter}
    (h : p ∈ ps.drop as.length) : (p.name, .empty) ∈ passing ps as := by
  induction ps generalizing as with
  | nil => simp at h
  | cons q ps ih =>
    cases as with
    | nil =>
      rw [passing_nil]
      exact List.mem_map.2 ⟨p, h, rfl⟩
    | cons a as => exact List.mem_cons_of_mem _ (ih h)

variable {k : Constructor}

theorem add_of_drop {p : Parameter} {ps : List Parameter} (a : Argument)
    (next : k.parameters.drop args.values.length = p :: ps) :
    args.add k a = .ok { args with values := args.values ++ [(p.name, a)] } ∧
      k.parameters.drop (args.values ++ [(p.name, a)]).length = ps := by
  have found : k.parameters[args.values.length]? = some p := by
    rw [← List.head?_drop, next]
    rfl
  refine ⟨by rw [add, found], ?_⟩
  rw [List.length_append, List.length_singleton, ← List.tail_drop, next]
  rfl

/-- Arguments that are passed one after the other go to the parameters in their order. -/
theorem complete_add {ps : List Parameter} {as : List Argument}
    (left : k.parameters.drop args.values.length = ps) (fits : as.length ≤ ps.length) :
    (as.foldlM (add k) args).map (complete k) =
      .ok { args with values := args.values ++ passing ps as } := by
  induction as generalizing args ps with
  | nil =>
    rw [passing_nil, ← left]
    rfl
  | cons a as ih =>
    cases ps with
    | nil => cases fits
    | cons p ps =>
      obtain ⟨added, left⟩ := add_of_drop a left
      rw [List.foldlM_cons, added]
      refine (ih left (Nat.le_of_succ_le_succ fits)).trans ?_
      rw [List.append_assoc]
      rfl

end Arguments

/-! ### Arguments from elements -/

namespace Environment

open Arguments

variable {env : Environment} {entity : String} {k : Constructor} {es : Elements}

/-- The arguments that are passed for some elements. -/
def collect (env : Environment) (entity : String) (k : Constructor) (es : Elements) :
    Except MapperError Arguments :=
  k.parameters.foldlM (fun (args : Arguments) p => do
    let a ← env.argumentFor p es
    args.add k a) ⟨entity, []⟩

theorem construct_eq_answers {m : Metadata} (constructor : m.constructor = some k) :
    env.construct m es = (do
      let args ← env.collect m.type.name k es
      (k.assignments.zip ((args.complete k).answers env.catalog.valueName k.assignments)).foldlM
        (fun i p => settle i p.1 p.2) (env.catalog.blank m.type)) := by
  rw [construct, constructor]
  exact congrArg _ (funext fun args => assign_eq_answers _ _)

/-- What a call gets for a value, if there is one, that a parameter passes by a converter, if it
has one. -/
def reply (env : Environment) (entity : String) (converter : Option ConverterRef)
    (v : Option Value) (s : Assignment) : Except MapperError Slot := do
  let a ← env.argumentFor ⟨s.parameter, converter⟩ (v.map fun v => (s.parameter, v)).toList
  made env.catalog.valueName entity a s

/-- What a call gets for the parameter of its name and the value under its name. -/
def replyTo (env : Environment) (entity : String) (k : Constructor) (es : Elements)
    (s : Assignment) : Except MapperError Slot :=
  match k.parameters.find? (·.name == s.parameter) with
  | none => .error (.unknownParameter entity s.parameter)
  | some p => env.reply entity p.converter (es.find? s.parameter) s

theorem argumentFor_alone (p : Parameter) :
    env.argumentFor p ((es.find? p.name).map fun v => (p.name, v)).toList =
      env.argumentFor p es := by
  have same : Keyed.find? p.name ((es.find? p.name).map fun v => (p.name, v)).toList =
      es.find? p.name := by
    cases es.find? p.name <;> simp [Keyed.find?]
  unfold argumentFor
  rw [same]

/-- Collecting asks for the argument of every parameter; only these can fail. -/
theorem collect_from {ps : List Parameter} {args : Arguments}
    (left : k.parameters.drop args.values.length = ps) :
    (ps.foldlM (fun (args : Arguments) p => do
        let a ← env.argumentFor p es
        args.add k a) args).map (complete k) =
      (ps.mapM (env.argumentFor · es)).map fun as =>
        { args with values := args.values ++ passing ps as } := by
  induction ps generalizing args with
  | nil =>
    show Except.ok (complete k args) = _
    rw [complete, left]
    rfl
  | cons p ps ih =>
    rw [List.foldlM_cons, List.mapM_cons]
    cases env.argumentFor p es with
    | error e => rfl
    | ok a =>
      obtain ⟨added, left⟩ := add_of_drop a left
      dsimp only [bind, Except.bind]
      rw [added]
      refine (ih left).trans ?_
      cases ps.mapM (env.argumentFor · es) with
      | error e => rfl
      | ok as =>
        simp only [Except.map, List.append_assoc]
        rfl

theorem collect_eq (env : Environment) (entity : String) (k : Constructor) (es : Elements) :
    (env.collect entity k es).map (complete k) =
      (k.parameters.mapM (env.argumentFor · es)).map fun as =>
        ⟨entity, passing k.parameters as⟩ := by
  have left : k.parameters.drop (Arguments.mk entity []).values.length = k.parameters := rfl
  exact collect_from left

/-- What stands under a name is the argument for the parameter of the name. -/
theorem find?_passing {ps : List Parameter} {as : List Argument} (name : String)
    (h : ps.mapM (env.argumentFor · es) = .ok as) :
    (passing ps as).find? name =
      (ps.find? (·.name == name)).bind fun p => (env.argumentFor p es).toOption := by
  induction ps generalizing as with
  | nil => rfl
  | cons p ps ih =>
    rw [List.mapM_cons] at h
    obtain ⟨a, ha, h⟩ := Schema.bind_eq_ok h
    obtain ⟨rest, hrest, h⟩ := Schema.bind_eq_ok h
    cases h
    rw [passing, Keyed.find?]
    by_cases same : p.name = name
    · rw [if_pos same, List.find?_cons_of_pos (by simpa using same), Option.bind_some, ha]
      rfl
    · rw [if_neg same, List.find?_cons_of_neg (by simpa using same)]
      exact ih hrest

/-- A call gets the reply to its own name, whatever else is passed. -/
theorem answer_passing {as : List Argument} {s : Assignment}
    (h : k.parameters.mapM (env.argumentFor · es) = .ok as) (uses : s.taking.uses = true) :
    answer env.catalog.valueName ⟨entity, passing k.parameters as⟩ s =
      env.replyTo entity k es s := by
  have found := find?_passing s.parameter h
  rw [replyTo]
  cases declared : k.parameters.find? (·.name == s.parameter) with
  | none =>
    rw [declared] at found
    exact answer_of_none uses found
  | some p =>
    have named : p.name = s.parameter := by simpa using List.find?_some declared
    obtain ⟨a, ha⟩ := exists_ok_of_mapM h (List.mem_of_find?_eq_some declared)
    rw [declared, Option.bind_some, ha] at found
    have alone : env.argumentFor ⟨s.parameter, p.converter⟩
        ((es.find? s.parameter).map fun v => (s.parameter, v)).toList = .ok a := by
      rw [← named]
      exact (argumentFor_alone p).trans ha
    show _ = env.reply entity p.converter (es.find? s.parameter) s
    rw [answer_of_some uses found, reply, alone]
    rfl

theorem find?_eq_some_iff {ps : List Parameter} (distinct : (ps.map (·.name)).Nodup)
    {name : String} {p : Parameter} :
    ps.find? (·.name == name) = some p ↔ p ∈ ps ∧ p.name = name := by
  constructor
  · intro found
    exact ⟨List.mem_of_find?_eq_some found, by simpa using List.find?_some found⟩
  · rintro ⟨mem, rfl⟩
    obtain ⟨q, found⟩ := Option.isSome_iff_exists.1
      (List.find?_isSome (p := fun q : Parameter => q.name == p.name) |>.2 ⟨p, mem, by simp⟩)
    have named : q.name = p.name := by simpa using List.find?_some found
    rw [found, List.inj_on_of_nodup_map distinct (List.mem_of_find?_eq_some found) mem named]

theorem replyTo_of_perm {k' : Constructor} (distinct : (k.parameters.map (·.name)).Nodup)
    (reordered : k'.parameters.Perm k.parameters) (s : Assignment) :
    env.replyTo entity k' es s = env.replyTo entity k es s := by
  have same : k'.parameters.find? (·.name == s.parameter) =
      k.parameters.find? (·.name == s.parameter) := by
    refine Option.ext fun p => ?_
    rw [find?_eq_some_iff distinct, find?_eq_some_iff ((reordered.map _).nodup_iff.2 distinct),
      reordered.mem_iff]
  rw [replyTo, replyTo, same]

theorem exists_mapM_of_collect {args : Arguments} (h : env.collect entity k es = .ok args) :
    ∃ as, k.parameters.mapM (env.argumentFor · es) = .ok as ∧
      args.complete k = ⟨entity, passing k.parameters as⟩ := by
  have whole := collect_eq env entity k es
  rw [h] at whole
  obtain ⟨as, each, same⟩ := Schema.map_eq_ok whole.symm
  exact ⟨as, each, same.symm⟩

theorem answers_of_collect {args : Arguments} (h : env.collect entity k es = .ok args)
    {calls : List Assignment} (once : TakesOnce calls) :
    (args.complete k).answers env.catalog.valueName calls =
      calls.map (env.replyTo entity k es) := by
  obtain ⟨as, each, same⟩ := exists_mapM_of_collect h
  rw [answers_eq_map once, same]
  exact List.map_congr_left fun s hs => answer_passing each (once.uses s hs)

/-- Collecting fails with the error of the first parameter whose argument cannot be had. -/
theorem collect_eq_error_iff {e : MapperError} :
    env.collect entity k es = .error e ↔ FailsFirst (env.argumentFor · es) k.parameters e := by
  rw [← mapM_eq_error_iff]
  have whole := collect_eq env entity k es
  cases collected : env.collect entity k es with
  | error d =>
    rw [collected] at whole
    cases each : k.parameters.mapM (env.argumentFor · es) with
    | error d' =>
      rw [each] at whole
      cases whole
      exact ⟨fun h => congrArg _ (Except.error.inj h), fun h => congrArg _ (Except.error.inj h)⟩
    | ok as =>
      rw [each] at whole
      cases whole
  | ok args =>
    obtain ⟨as, each, -⟩ := exists_mapM_of_collect collected
    rw [each]
    exact ⟨nofun, nofun⟩

/-- What is collected for parameters in one order is collected for them in every order. -/
theorem exists_collect_of_perm {k' : Constructor} {args : Arguments}
    (h : env.collect entity k es = .ok args) (reordered : k'.parameters.Perm k.parameters) :
    ∃ args', env.collect entity k' es = .ok args' := by
  cases other : env.collect entity k' es with
  | ok args' => exact ⟨args', rfl⟩
  | error e =>
    obtain ⟨before, p, after, parts, -, fails⟩ := collect_eq_error_iff.1 other
    obtain ⟨as, each, -⟩ := exists_mapM_of_collect h
    have mem : p ∈ k'.parameters := parts ▸ List.mem_append_right _ (List.mem_cons_self ..)
    obtain ⟨a, ha⟩ := exists_ok_of_mapM each (reordered.mem_iff.1 mem)
    cases fails.symm.trans ha

/-- An instance that is constructed is constructed with the parameters in every order. -/
theorem construct_of_perm {m m' : Metadata} {k' : Constructor} {i : Instance}
    (constructor : m.constructor = some k) (constructor' : m'.constructor = some k')
    (type : m'.type = m.type) (calls : k'.assignments = k.assignments)
    (distinct : (k.parameters.map (·.name)).Nodup) (reordered : k'.parameters.Perm k.parameters)
    (once : TakesOnce k.assignments) (h : env.construct m es = .ok i) :
    env.construct m' es = .ok i := by
  rw [construct_eq_answers constructor] at h
  obtain ⟨args, collected, settled⟩ := Schema.bind_eq_ok h
  obtain ⟨args', collected'⟩ := exists_collect_of_perm collected reordered
  have same : (args'.complete k').answers env.catalog.valueName k.assignments =
      (args.complete k).answers env.catalog.valueName k.assignments := by
    rw [answers_of_collect collected once, answers_of_collect collected' once]
    exact List.map_congr_left fun s _ => replyTo_of_perm distinct reordered s
  rw [construct_eq_answers constructor', type, collected', calls]
  show List.foldlM _ _ _ = _
  rw [same]
  exact settled

/-- Constructor arguments depend on names only. What is collected for a record answers every call
by the value and the converter of its own name, in whatever order the parameters are declared and
the calls are made. A key that is absent, and a parameter for which no argument is passed, gives
no value: it is an error or none. -/
theorem arguments_by_name (env : Environment) (entity : String) {k k' : Constructor}
    (distinct : (k.parameters.map (·.name)).Nodup)
    (reordered : k'.parameters.Perm k.parameters) (es : Elements) :
    (∀ e, env.collect entity k es = .error e ↔
      FailsFirst (env.argumentFor · es) k.parameters e) ∧
    (∀ args, env.collect entity k es = .ok args → ∃ args', env.collect entity k' es = .ok args' ∧
      ∀ calls calls', TakesOnce calls → calls'.Perm calls →
        (args.complete k).answers env.catalog.valueName calls =
          calls.map (env.replyTo entity k es) ∧
        (args'.complete k').answers env.catalog.valueName calls' =
          calls'.map (env.replyTo entity k es)) ∧
    (∀ s, s.parameter ∈ k.parameters.map (·.name) → es.find? s.parameter = none →
      GetsNothing entity s (env.replyTo entity k es s)) ∧
    (∀ as : List Argument, as.length ≤ k.parameters.length →
      ∃ args, as.foldlM (Arguments.add k) ⟨entity, []⟩ = .ok args ∧
        ∀ calls, TakesOnce calls →
          (args.complete k).answers env.catalog.valueName calls =
            calls.map ((args.complete k).answer env.catalog.valueName) ∧
          ∀ s ∈ calls, s.parameter ∈ (k.parameters.drop as.length).map (·.name) →
            GetsNothing entity s ((args.complete k).answer env.catalog.valueName s)) := by
  refine ⟨fun e => collect_eq_error_iff, fun args collected => ?_, fun s named absent => ?_,
    fun as fits => ?_⟩
  · obtain ⟨args', collected'⟩ := exists_collect_of_perm collected reordered
    refine ⟨args', collected', fun calls calls' once shuffled => ?_⟩
    refine ⟨answers_of_collect collected once, ?_⟩
    rw [answers_of_collect collected' (once.perm shuffled)]
    exact List.map_congr_left fun s _ => replyTo_of_perm distinct reordered s
  · obtain ⟨p, mem, same⟩ := List.mem_map.1 named
    rw [replyTo, (find?_eq_some_iff distinct).2 ⟨mem, same⟩, absent]
    exact getsNothing_made _ _ s
  · have left : k.parameters.drop (Arguments.mk entity []).values.length = k.parameters := rfl
    have passed := complete_add left fits
    obtain ⟨args, added, whole⟩ := Schema.map_eq_ok passed
    refine ⟨args, added, fun calls once => ⟨answers_eq_map once, fun s hs behind => ?_⟩⟩
    obtain ⟨p, mem, same⟩ := List.mem_map.1 behind
    have nodup : (passing k.parameters as).keys.Nodup := by rwa [keys_passing]
    have found : (passing k.parameters as).find? s.parameter = some .empty :=
      same ▸ Keyed.find?_of_mem nodup (mem_passing_of_mem_drop mem)
    rw [whole, answer_of_some (once.uses s hs) found]
    exact getsNothing_made _ _ s

/-! ### A sample -/

namespace Shop

def moneyRef : ConverterRef := ⟨"MoneyConverter", "Money"⟩

def article : Constructor where
  parameters := [⟨"name", none⟩, ⟨"price", some moneyRef⟩, ⟨"note", none⟩]
  assignments := [⟨"name", "name", .get .string⟩, ⟨"price", "price", .attribute "Money"⟩,
    ⟨"note", "note", .optional .string⟩]

def environment : Environment where
  catalog := {
    valueName := "Value"
    descriptors := [
      { name := "Article", type := ⟨0, "Article"⟩, constructor := some article
        fields := [⟨.of "name", .plain .string ""⟩, ⟨.of "price", .converted moneyRef .null⟩,
          ⟨.of "note", .plain (.option .string) none⟩] }] }
  config := {}
  converters := [("MoneyConverter", Money.converter moneyRef)]

def ink : Elements := [("price", .text "EUR 250"), ("name", .text "Ink")]

def backwards : Constructor := { article with parameters := article.parameters.reverse }

/-- Asked for in the order of the declaration, or by a constructor that declares the last first,
the calls get the same: the note that is not there is none. -/
theorem answers_ink :
    (article.parameters.map (·.name)).Nodup ∧ backwards.parameters.Perm article.parameters ∧
    ∃ args, environment.collect "Article" backwards ink = .ok args ∧
      (args.complete backwards).answers "Value" article.assignments.reverse =
        [.ok (.plain (.option .string) none),
          .ok (.converted ⟨"Money", .list [.text "EUR", .integer 250]⟩),
          .ok (.plain .string "Ink")] := by
  have distinct : (article.parameters.map (·.name)).Nodup := by decide
  have reordered : backwards.parameters.Perm article.parameters := List.reverse_perm _
  have collected : environment.collect "Article" article ink = .ok ⟨"Article",
      [("name", .value (.text "Ink")),
        ("price", .attribute ⟨"Money", .list [.text "EUR", .integer 250]⟩),
        ("note", .empty)]⟩ := by
    rfl
  have once : TakesOnce article.assignments := ⟨by decide, by decide⟩
  have replies : article.assignments.reverse.map (environment.replyTo "Article" article ink) =
      [.ok (.plain (.option .string) none),
        .ok (.converted ⟨"Money", .list [.text "EUR", .integer 250]⟩),
        .ok (.plain .string "Ink")] := by
    rfl
  obtain ⟨-, same, -⟩ := arguments_by_name environment "Article" distinct reordered ink
  obtain ⟨args, collected', answers⟩ := same _ collected
  have answered := (answers article.assignments _ once (List.reverse_perm _)).2
  exact ⟨distinct, reordered, args, collected', answered.trans replies⟩

end Shop

end Environment

end EntityMapping
