import EntityMapping.Conversion.Reading
import EntityMapping.Event.Listeners

/-!
The context of a mapping: what is declared and configured, what has been loaded, and who
listens. Operations on it keep what they have changed even if they fail.
-/

namespace EntityMapping

/-- Everything that mapping operations share. -/
structure Context where
  environment : Environment
  registry : Registry := {}
  events : Events := {}

/-- A step that may change the context. -/
abbrev Mapping := ExceptT MapperError (StateM Context)

namespace Mapping

/-- A step that reads and extends the registry. -/
def ofLoading {α : Type} (f : Environment → Loading α) : Mapping α := do
  let c ← get
  let (result, registry) := (f c.environment).run c.registry
  set { c with registry := registry }
  match result with
  | .ok x => pure x
  | .error e => throw e

def ofExcept {α : Type} : Except MapperError α → Mapping α
  | .ok x => pure x
  | .error e => throw e

/-- Shows something to the listeners of a phase. -/
def fire (p : Phase) (payload : Payload) : Mapping Unit := do
  let c ← get
  let (result, events) := c.events.notify p payload
  set { c with events := events }
  ofExcept result

def load (t : TypeRef) : Mapping Metadata := ofLoading fun env => env.load t

def known (t : TypeRef) : Mapping Metadata := ofLoading fun _ => Registry.ask (·.known t)

def named (name : String) : Mapping Metadata := ofLoading fun _ => Registry.ask (·.named name)

def converters : Mapping Converters := do
  let c ← get
  pure c.environment.converters

end Mapping

namespace Context

/-- A context without listeners and converters, if the configuration can be used. -/
def ofConfig (catalog : Catalog) (config : Config) : Except MapperError Context := do
  config.validate
  .ok { environment := { catalog := catalog, config := config } }

def register (c : Context) (k : Converter) : Context :=
  { c with
    environment := { c.environment with converters := c.environment.converters.register k } }

def subscribe (c : Context) (ps : List Phase) (l : Listener) : Context :=
  { c with events := c.events.subscribe ps l }

end Context

end EntityMapping
