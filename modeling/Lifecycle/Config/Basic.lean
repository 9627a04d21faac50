import Lifecycle.Dispatch.Policy
import Lifecycle.Extension.BuiltinType
/-!
# Configuration

Which extension types root registries register and which policies dispatch follows.  Layers are
merged so that what differs from the defaults overrides.
-/

namespace Lifecycle

inductive ConfigError where
  | unreadable (path cause : String)
  | unparsable (path cause : String)
  | serialize (cause : String)
  | invalidVariable (name message : String)
  /-- An entry of the default set is not the qualified name of a type. -/
  | invalidTypeName (value : String)
  deriving DecidableEq, Repr

namespace ConfigError

def code : ConfigError → String
  | unreadable .. => "CONFIG_READ_FILE"
  | unparsable .. => "CONFIG_PARSE_TOML"
  | serialize .. => "CONFIG_SERIALIZE"
  | invalidVariable .. => "CONFIG_INVALID_ENV_VAR"
  | invalidTypeName .. => "CONFIG_INVALID_EXTENSION_TYPE"

def message : ConfigError → String
  | unreadable path cause => s!"failed to read config file '{path}': {cause}"
  | unparsable path cause => s!"failed to parse config file '{path}': {cause}"
  | serialize cause => s!"failed to serialize config: {cause}"
  | invalidVariable name message =>
    s!"invalid value for environment variable '{name}': {message}"
  | invalidTypeName value => s!"invalid extension type '{value}': expected 'namespace::name'"

def isRecoverable (_ : ConfigError) : Bool := false

def hasCause : ConfigError → Bool
  | unreadable .. | unparsable .. | serialize .. => true
  | invalidVariable .. | invalidTypeName .. => false

end ConfigError

structure Config where
  /-- The qualified names of the types that root registries register, in order. -/
  defaultExtensions : List String
  policies : Policies
  deriving DecidableEq, Repr

/-- The policies of `d` with those of `layer` that differ from the defaults. -/
def Policies.merge (d layer : Policies) : Policies where
  forward := if layer.forward = standard.forward then d.forward else layer.forward
  backward := if layer.backward = standard.backward then d.backward else layer.backward

namespace Config

def standard : Config where
  defaultExtensions := Builtin.defaultTypes.map TypeId.qualified
  policies := Policies.standard

instance : Inhabited Config := ⟨standard⟩

/-- The configuration `c` with what in `layer` differs from the defaults. -/
def merge (c layer : Config) : Config where
  defaultExtensions :=
    if layer.defaultExtensions = standard.defaultExtensions then c.defaultExtensions
    else layer.defaultExtensions
  policies := c.policies.merge layer.policies

/-- An error for every entry of the default set that is not the qualified name of a type, in
order. -/
def invalidEntries (c : Config) : List ConfigError :=
  (c.defaultExtensions.filter fun s => (TypeId.parse? s).isNone).map .invalidTypeName

def defaultTypes (c : Config) : Except ConfigError (List TypeId) :=
  c.defaultExtensions.mapM fun s =>
    match TypeId.parse? s with
    | some t => .ok t
    | none => .error (.invalidTypeName s)

end Config

end Lifecycle
