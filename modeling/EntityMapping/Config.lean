import EntityMapping.Error
import EntityMapping.Json.Parser
import EntityMapping.Json.Printer

/-!
The configuration of a mapping. It is stored as a JSON object in which every setting may be
left out, or as an array of the settings in order. Names that are not settings are skipped;
a setting given twice, or of the wrong type, makes the document useless. The two columns
may not be blank.
-/

namespace EntityMapping

/-- The settings shared by metadata, conversion and store. -/
structure Config where
  /-- The key of ids without a name of their own. -/
  idColumn : String := "_id"
  /-- The discriminator key of polymorphic types without one of their own. -/
  discriminatorColumn : String := "dtype"
  /-- Whether a null is written as an element instead of being left out. -/
  materializeNulls : Bool := false
  /-- Whether LIKE tells capitals from small letters. -/
  caseSensitiveLike : Bool := true
  deriving DecidableEq, Repr

namespace Config

instance : Inhabited Config := ⟨{}⟩

def isBlank (s : String) : Bool := (Text.trim s.toList).isEmpty

/-- Whether the two columns can be used; the id column is looked at first. -/
def validate (c : Config) : Except MapperError Unit :=
  if isBlank c.idColumn then .error .blankIdColumn
  else if isBlank c.discriminatorColumn then .error .blankDiscriminatorColumn
  else .ok ()

/-! ### Settings by name -/

/-- The names of the settings, in order. -/
inductive Setting where
  | idColumn
  | discriminatorColumn
  | materializeNulls
  | caseSensitiveLike
  deriving DecidableEq, Repr

namespace Setting

def all : List Setting :=
  [.idColumn, .discriminatorColumn, .materializeNulls, .caseSensitiveLike]

def name : Setting → String
  | .idColumn => "default_id_column"
  | .discriminatorColumn => "default_discriminator_column"
  | .materializeNulls => "materialize_nulls"
  | .caseSensitiveLike => "case_sensitive_like"

end Setting

/-- Changes a setting, if the document fits its type. -/
def set? (c : Config) (s : Setting) (d : Json.Draft) : Option Config :=
  match s, d with
  | .idColumn, .string (some text) => some { c with idColumn := text }
  | .discriminatorColumn, .string (some text) => some { c with discriminatorColumn := text }
  | .materializeNulls, .bool b => some { c with materializeNulls := b }
  | .caseSensitiveLike, .bool b => some { c with caseSensitiveLike := b }
  | _, _ => none

/-- Takes in the members of an object, each setting at most once. -/
def setMembers? (c : Config) (seen : List Setting) :
    List (Option String × Json.Draft) → Option Config
  | [] => some c
  | (name, d) :: rest => do
    let name ← name
    match Setting.all.find? (·.name == name) with
    | none => setMembers? c seen rest
    | some s =>
      if s ∈ seen then none
      else
        let c ← c.set? s d
        setMembers? c (s :: seen) rest

/-- Takes in the items of an array as the first settings. -/
def setItems? (c : Config) : List Setting → List Json.Draft → Option Config
  | _, [] => some c
  | [], _ :: _ => none
  | s :: ss, d :: rest => do
    let c ← c.set? s d
    setItems? c ss rest

def ofDraft? : Json.Draft → Option Config
  | .object members => setMembers? {} [] members
  | .array items => setItems? {} Setting.all items
  | _ => none

def ofJson (text : String) : Except MapperError Config :=
  match (Json.Draft.ofString? text).bind ofDraft? with
  | none => .error .malformedConfiguration
  | some c => do
    c.validate
    .ok c

def toJson (c : Config) : Json :=
  .object [(Setting.idColumn.name, .string c.idColumn),
    (Setting.discriminatorColumn.name, .string c.discriminatorColumn),
    (Setting.materializeNulls.name, .bool c.materializeNulls),
    (Setting.caseSensitiveLike.name, .bool c.caseSensitiveLike)]

def toText (c : Config) : String := c.toJson.pretty ""

end Config

end EntityMapping
