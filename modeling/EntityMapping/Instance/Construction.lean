import EntityMapping.Instance.Blank

/-!
Construction of instances from arguments. Arguments come in the order of the parameters and
are taken by name, each once: what has been taken is missing afterwards. An argument that a
converter has read is taken as what its attributes are, also where they are of a plain type. A
missing argument is an error where a value has to be there, and never stands for a default. The
first error ends the construction.
-/

namespace EntityMapping

inductive Argument where
  | value (v : Value)
  | attribute (a : Attribute)
  | empty

namespace Argument

def isEmpty : Argument → Bool
  | .empty => true
  | _ => false

def inspect : Argument → String
  | .value v => Inspect.wrapped "Value" v.display
  | .attribute _ => Inspect.wrapped "Attribute" ".."
  | .empty => "Empty"

end Argument

/-- The value of a plain type that a converter has read, if the type is the one of its
attributes. The state of such an attribute is the native form of the value. -/
def Attribute.toPlain (valueName : String) (t : AttributeType) (a : Attribute) :
    Except MapperError t.Carrier :=
  if a.typeName = t.printedName valueName then t.ofValue a.content
  else .error (.wrongValueType (t.printedName valueName))

/-- The arguments of a constructor so far, under the names of its parameters. -/
structure Arguments where
  /-- The printed name of the type that is constructed. -/
  entity : String
  values : Keyed Argument := []

namespace Arguments

/-- Passes an argument for the next parameter. -/
def add (c : Constructor) (args : Arguments) (a : Argument) : Except MapperError Arguments :=
  match c.parameters[args.values.length]? with
  | some p => .ok { args with values := args.values ++ [(p.name, a)] }
  | none => .error (.tooManyArguments args.entity c.parameters.length)

/-- Passes nothing for the parameters that are left. -/
def complete (c : Constructor) (args : Arguments) : Arguments :=
  { args with
    values := args.values ++ (c.parameters.drop args.values.length).map fun p => (p.name, .empty) }

/-- The arguments without what was taken; the first argument of a name is meant. -/
def clear (args : Arguments) (name : String) : Arguments :=
  { args with values := args.values.put name .empty }

def take (args : Arguments) (name : String) : Except MapperError (Argument × Arguments) :=
  match args.values.find? name with
  | some a => .ok (a, args.clear name)
  | none => .error (.unknownParameter args.entity name)

def isEmpty (args : Arguments) (name : String) : Bool :=
  match args.values.find? name with
  | some a => a.isEmpty
  | none => true

/-- What a constructor makes of an argument. `valueName` is the printed name of native
values. -/
def resolve (valueName : String) (args : Arguments) (name : String) :
    Taking → Except MapperError (Slot × Arguments)
  | .get t => do
    let (a, rest) ← args.take name
    match a with
    | .value v => (t.ofValue v).map fun x => (.plain t x, rest)
    | .attribute a => (a.toPlain valueName t).map fun x => (.plain t x, rest)
    | .empty => .error (.missingArgument name args.entity)
  | .optional t => do
    let (a, rest) ← args.take name
    match a with
    | .value .null | .empty => .ok (.plain (.option t) none, rest)
    | .value v => (t.ofValue v).map fun x => (.plain (.option t) (some x), rest)
    | .attribute a => (a.toPlain valueName t).map fun x => (.plain (.option t) (some x), rest)
  | .attribute typeName => do
    let (a, rest) ← args.take name
    match a with
    | .attribute a =>
      if a.typeName = typeName then .ok (.converted a, rest)
      else .error (.wrongValueType typeName)
    | .value v => .error (.nativeArgument name v.display typeName)
    | .empty => .error (.missingArgument name args.entity)
  | .isEmpty => .ok (.plain .bool (args.isEmpty name), args)
  | .count => .ok (.plain .int64 (Int64.ofNat args.values.length), args)

/-- Takes one argument after the other into an instance. What goes to an attribute that the
instance does not have is dropped. -/
def assign (valueName : String) (i : Instance) (args : Arguments) :
    List Assignment → Except MapperError Instance
  | [] => .ok i
  | s :: rest => do
    let (slot, args) ← args.resolve valueName s.parameter s.taking
    let i := if (i.slots.find? s.field).isSome then i.setSlot s.field slot else i
    assign valueName i args rest

end Arguments

namespace Catalog

def construct (c : Catalog) (t : TypeRef) (k : Constructor) (args : Arguments) :
    Except MapperError Instance :=
  (args.complete k).assign c.valueName (c.blank t) k.assignments

end Catalog

end EntityMapping
