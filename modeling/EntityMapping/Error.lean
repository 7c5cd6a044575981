/-!
What can go wrong, by cause. Each cause belongs to one kind, and has one message; the text
of an error is the message behind the name of its kind.
-/

namespace EntityMapping

/-- The part of the library that an error comes from. -/
inductive ErrorKind where
  | configuration
  | mapping
  | emptyResult
  | nonUniqueResult
  | typeMismatch
  | converter
  | listener
  | store
  | lock
  deriving DecidableEq, Repr

namespace ErrorKind

/-- What the message of an error of this kind begins with. -/
def heading : ErrorKind → String
  | .configuration => "Configuration error"
  | .mapping => "Mapping error"
  | .emptyResult => "Empty result"
  | .nonUniqueResult => "Non unique result"
  | .typeMismatch => "Type mismatch"
  | .converter => "Converter error"
  | .listener => "Listener error"
  | .store => "Store error"
  | .lock => "Lock error"

end ErrorKind

/-- The causes of failure. Entity types, converters and values appear by their printed names
and texts. -/
inductive MapperError where
  /- Configurations and descriptors that cannot be used. -/
  | malformedConfiguration
  | blankIdColumn
  | blankDiscriminatorColumn
  | severalIds (type first second : String)
  | repeatedAttribute (type field : String)
  | repeatedKey (type key : String)
  | embedsItself (type field : String)
  | sharedKey (key : String)
  | notConstructible (type : String)
  | variantsOfConcrete (type : String)
  | parentNotPolymorphic (type parent : String)
  | discriminatorTaken (value type : String)
  /- Types, names and converters that are not registered. -/
  | unregisteredType (id : Nat)
  | unregisteredName (name : String)
  | unregisteredConverter (converter : String)
  /- Instances and values of the wrong type. -/
  | wrongInstance (type : String)
  | wrongValueType (type : String)
  | unwritable (field input : String)
  | unreadableShape (field kind : String)
  | noConverter (field : String)
  | noElementType (field : String)
  | foreignAttribute (converter attributeType : String)
  /- Construction. -/
  | noSupplier (type : String)
  | noConstructor (type : String)
  | unknownParameter (type parameter : String)
  | missingArgument (parameter type : String)
  | nativeArgument (parameter value attributeType : String)
  | tooManyArguments (type : String) (count : Nat)
  /- Identity and variants. -/
  | noId (type : String)
  | noIdValue (type : String)
  | vertexWithoutId (label type : String)
  | polymorphicTarget (type : String)
  | noVariants (type : String)
  | missingDiscriminator (column record : String)
  | unknownDiscriminator (type value : String)
  /- Records and arguments of the wrong shape. -/
  | wrongShape (field expected key found : String)
  | notARecord (key found : String)
  | incomparable (left right : String)
  | notConvertible (found value target : String)
  | tooLarge (type value : String)
  | unknownPath (path record : String)
  | attributeForPlainField (field : String)
  /- The store and queries on it. -/
  | patternNotText (found : String)
  | patternTooLarge
  | boundsMissing (key : String)
  | candidatesMissing (key : String)
  | missingKey (record key : String)
  | missingUpdateKey (type key : String)
  | notUnique (type : String) (found : Nat)
  | nothingFound (type : String)
  /- A listener refused. -/
  | listenerFailed (phase reason : String)
  /- An error raised by a converter, a listener or a store of the caller. -/
  | raised (kind : ErrorKind) (message : String)
  /- Types that refer to each other without end. -/
  | endless (type : String)
  deriving DecidableEq, Repr

namespace MapperError

def kind : MapperError → ErrorKind
  | malformedConfiguration | blankIdColumn | blankDiscriminatorColumn | severalIds ..
  | repeatedAttribute .. | repeatedKey .. | embedsItself .. | sharedKey .. | notConstructible ..
  | variantsOfConcrete .. | parentNotPolymorphic .. | discriminatorTaken .. => .configuration
  | unregisteredType .. | unregisteredName .. | unregisteredConverter .. | wrongInstance ..
  | wrongValueType .. | unwritable .. | unreadableShape .. | noConverter .. | noElementType ..
  | noSupplier .. | noConstructor .. | unknownParameter .. | missingArgument ..
  | nativeArgument .. | tooManyArguments .. | noId .. | noIdValue .. | vertexWithoutId ..
  | polymorphicTarget .. | noVariants .. | missingDiscriminator .. | unknownDiscriminator ..
  | wrongShape .. | unknownPath .. | attributeForPlainField .. | missingUpdateKey ..
  | endless .. => .mapping
  | incomparable .. | notConvertible .. | tooLarge .. | notARecord .. => .typeMismatch
  | foreignAttribute .. => .converter
  | patternNotText .. | patternTooLarge | boundsMissing .. | candidatesMissing ..
  | missingKey .. => .store
  | notUnique .. => .nonUniqueResult
  | nothingFound .. => .emptyResult
  | listenerFailed .. => .listener
  | raised kind _ => kind

def message : MapperError → String
  | malformedConfiguration => "The document is not a configuration"
  | blankIdColumn => "default_id_column cannot be empty"
  | blankDiscriminatorColumn => "default_discriminator_column cannot be empty"
  | severalIds type first second =>
    s!"{type} declares more than one id field: '{first}' and '{second}'"
  | repeatedAttribute type field => s!"{type} declares attribute '{field}' twice"
  | repeatedKey type key => s!"{type} maps more than one attribute to native key '{key}'"
  | embedsItself type field => s!"{type} embeds itself through '{field}'"
  | sharedKey key => s!"Native key '{key}' is produced by more than one attribute"
  | notConstructible type => s!"{type} declares neither an instance supplier nor a constructor"
  | variantsOfConcrete type => s!"{type} registers variants but is not polymorphic"
  | parentNotPolymorphic type parent => s!"{type} inherits from {parent} which is not polymorphic"
  | discriminatorTaken value type =>
    s!"Discriminator value '{value}' of {type} is already used by another variant"
  | unregisteredType id => s!"No entity metadata for type {id}"
  | unregisteredName name => s!"No entity registered under the name '{name}'"
  | unregisteredConverter converter => s!"No attribute converter registered for {converter}"
  | wrongInstance type => s!"Expected an instance of {type}"
  | wrongValueType type => s!"Expected a value of type {type}"
  | unwritable field input => s!"Field '{field}' cannot be written from a {input}"
  | unreadableShape field kind =>
    s!"Field '{field}' of kind {kind} produced a value of another shape"
  | noConverter field => s!"Field '{field}' holds an attribute but declares no converter"
  | noElementType field => s!"Field '{field}' declares no element type"
  | foreignAttribute converter attributeType =>
    s!"{converter} expects attributes of type {attributeType}"
  | noSupplier type => s!"{type} has no instance supplier"
  | noConstructor type => s!"{type} has no constructor"
  | unknownParameter type parameter => s!"{type} has no constructor parameter named '{parameter}'"
  | missingArgument parameter type =>
    s!"Missing value for required constructor parameter '{parameter}' of {type}"
  | nativeArgument parameter value attributeType =>
    s!"Parameter '{parameter}' holds native value {value} instead of a {attributeType}"
  | tooManyArguments type count => s!"{type} takes only {count} constructor arguments"
  | noId type => s!"{type} declares no id field"
  | noIdValue type => s!"{type} has no id value to use as a key"
  | vertexWithoutId label type => s!"Vertex '{label}' has an id but {type} declares no id field"
  | polymorphicTarget type => s!"Cannot fill polymorphic {type} in place"
  | noVariants type => s!"No variants are registered for {type}"
  | missingDiscriminator column record =>
    s!"Discriminator column '{column}' is missing from the {record} record"
  | unknownDiscriminator type value =>
    s!"No variant of {type} is registered for discriminator '{value}'"
  | wrongShape field expected key found =>
    s!"Field '{field}' expects {expected} under '{key}', found {found}"
  | notARecord key found => s!"Key-value entry '{key}' holds {found} instead of a record"
  | incomparable left right => s!"Cannot compare incompatible types: {left} and {right}"
  | notConvertible found value target => s!"Cannot convert {found} value '{value}' to {target}"
  | tooLarge type value => s!"{type} value {value} does not fit a native INTEGER"
  | unknownPath path record => s!"Cannot convert an attribute for unknown path '{path}' of {record}"
  | attributeForPlainField field => s!"Field '{field}' has no attribute converter"
  | patternNotText found => s!"LIKE expects a text pattern, got {found}"
  | patternTooLarge => "Invalid LIKE pattern"
  | boundsMissing key => s!"BETWEEN on '{key}' expects two bounds"
  | candidatesMissing key => s!"IN on '{key}' expects a list of values"
  | missingKey record key => s!"Cannot update a {record} record without '{key}'"
  | missingUpdateKey type key => s!"Cannot update {type} without a value for '{key}'"
  | notUnique type found => s!"Expected at most one {type} but found {found}"
  | nothingFound type => s!"No {type} matched the query"
  | listenerFailed phase reason => s!"{phase} listener failed: {reason}"
  | raised _ message => message
  | endless type => s!"{type} refers to itself without end"

def text (e : MapperError) : String := s!"{e.kind.heading}: {e.message}"

end MapperError

end EntityMapping
