import Lifecycle.Config.Reading
import Lifecycle.Text.Lowercase
/-!
# Loading configurations

A configuration is built in layers: the defaults, then a file if one is seen, then environment
variables.
-/

namespace Lifecycle

open Lifecycle.Text

/-- What is at the path of a configuration file.  The system answers for it twice: it shows the
metadata or does not, and then gives the bytes or fails for a cause.  So a file that is there may
look as if it were not, as when its directory may not be searched. -/
inductive FileState where
  | absent
  | present (isVisible : Bool) (bytes : Except String ByteArray)

namespace FileState

def directory : FileState := .present true (.error "Is a directory (os error 21)")

def content (bytes : ByteArray) : FileState := .present true (.ok bytes)

/-- Whether the metadata can be had, which is how a file is looked for. -/
def isVisible : FileState → Bool
  | .absent => false
  | .present isVisible _ => isVisible

def readText : FileState → Except String String
  | .absent => .error "No such file or directory (os error 2)"
  | .present _ (.error cause) => .error cause
  | .present _ (.ok bytes) =>
    match String.fromUTF8? bytes with
    | some s => .ok s
    | none => .error "stream did not contain valid UTF-8"

end FileState

/-- What environment variables are set to; a variable that is not set has nothing. -/
abbrev Environment := String → Option ByteArray

/-- The text of a variable; bytes that are not UTF-8 count as not set. -/
def Environment.text? (env : Environment) (name : String) : Option String :=
  (env name).bind String.fromUTF8?

namespace Config

def standardPath : String := "tessel.toml"

def typesVariable : String := "TESSEL_DEFAULT_EXTENSIONS"

def forwardVariable : String := "TESSEL_DISPATCH_FORWARD"

def backwardVariable : String := "TESSEL_DISPATCH_BACKWARD"

/-- What is read of a file, and nothing if none is seen. -/
def ofFile (path : String) (file : FileState) : Except ConfigError (Option Config) :=
  if !file.isVisible then .ok none
  else
    match file.readText with
    | .error cause => .error (.unreadable path cause)
    | .ok s =>
      match ofText s with
      | .ok c => .ok (some c)
      | .error e => .error (.unparsable path e.message)

/-- The entries of a list separated by commas, without the blanks around them and without empty
entries. -/
def splitEntries (s : String) : List String :=
  ((pieces (· == ',') s.toList).map trim).filterMap fun entry =>
    if entry.isEmpty then none else some (String.ofList entry)

def policyOfVariable (name value : String) : Except ConfigError Policy :=
  let lowered := String.ofList (lower (trim value.toList))
  match Policy.parse lowered with
  | .ok p => .ok p
  | .error e => .error (.invalidVariable name e.message)

def policyFrom (env : Environment) (name : String) (p : Policy) : Except ConfigError Policy :=
  match env.text? name with
  | some value => policyOfVariable name value
  | none => .ok p

def withEnvironment (c : Config) (env : Environment) : Except ConfigError Config := do
  let types := match env.text? typesVariable with
    | some value => splitEntries value
    | none => c.defaultExtensions
  let forward ← policyFrom env forwardVariable c.policies.forward
  let backward ← policyFrom env backwardVariable c.policies.backward
  return ⟨types, ⟨forward, backward⟩⟩

end Config

structure ConfigLoader where
  path : String
  usesEnvironment : Bool
  deriving DecidableEq, Repr

namespace ConfigLoader

def standard : ConfigLoader := ⟨Config.standardPath, true⟩

instance : Inhabited ConfigLoader := ⟨standard⟩

def load (l : ConfigLoader) (file : FileState) (env : Environment) :
    Except ConfigError Config := do
  let layer ← Config.ofFile l.path file
  let c := Config.standard.merge (layer.getD Config.standard)
  if l.usesEnvironment then c.withEnvironment env else return c

end ConfigLoader

end Lifecycle
