import Lifecycle.Failure.Error
import Lifecycle.Phase.SetText
import Lifecycle.Scope.Context
import Lifecycle.Text.Quoted
/-!
# Extensions

An extension takes part in phases by a callback on the context.  Callbacks and constructors may
also act on a world of the host's, the type `σ`, which the library only hands on.
-/

namespace Lifecycle

open Lifecycle.Text

/-- A callback: it may fail with a message, and changes made before that stay. -/
abbrev Callback (σ : Type) := Context → σ → Except String Unit × Context × σ

def Callback.idle {σ : Type} : Callback σ := fun c s => (.ok (), c, s)

structure Extension (σ : Type) where
  name : String
  capabilities : PhaseSet
  handle : Callback σ := Callback.idle

def Extension.describe {σ : Type} (e : Extension σ) : String :=
  "Extension \x7b name: " ++ quotedString e.name ++ ", capabilities: " ++
    e.capabilities.describe ++ " \x7d"

inductive Origin where
  /-- From the extension with this name, by its type. -/
  | extension (name : String)
  /-- From the registrar of this type. -/
  | registrar (type : TypeId)
  /-- From the host, under this label. -/
  | programmatic (label : String)
  deriving DecidableEq

namespace Origin

def display : Origin → String
  | extension name => name
  | registrar type => s!"registrar {type}"
  | programmatic label => s!"programmatic {label}"

instance : ToString Origin := ⟨display⟩

def kindName : Origin → String
  | extension _ => "extension"
  | registrar _ => "registrar"
  | programmatic _ => "programmatic"

def describe : Origin → String
  | extension name => "Extension(" ++ quotedString name ++ ")"
  | registrar type =>
    "Registrar(ExtensionTypeId \x7b uuid: " ++ type.uuid.toString ++ ", namespace: " ++
      quotedString type.space ++ ", name: " ++ quotedString type.name ++ " \x7d)"
  | programmatic label => "Programmatic(" ++ quotedString label ++ ")"

end Origin

structure Registration (σ : Type) where
  extension : Extension σ
  origin : Origin
  position : Position

namespace Registration

variable {σ : Type}

def participates (r : Registration σ) (phase : Phase) : Bool :=
  r.extension.capabilities.includes phase

def describe (r : Registration σ) : String :=
  "RegisteredExtension \x7b extension: " ++ quotedString r.extension.name ++ ", origin: " ++
    r.origin.describe ++ ", position: " ++ r.position.label ++ " \x7d"

end Registration

/-- The run of a registrar: it registers extensions and goes on according to the outcomes, and may
act on the world in between. -/
inductive Session (σ : Type) where
  | finish (outcome : Except Error Unit)
  | act (change : σ → σ) (next : σ → Session σ)
  | register (extension : Extension σ) (position : Position)
      (next : Except Error Unit → Session σ)

/-- The session that registers extensions in order and ends at the first error. -/
def Session.registerAll {σ : Type} : List (Extension σ × Position) → Session σ
  | [] => .finish (.ok ())
  | (extension, position) :: rest =>
    .register extension position fun outcome =>
      match outcome with
      | .ok () => registerAll rest
      | .error e => .finish (.error e)

/-- What stands for an extension type: an extension that may also be a registrar. -/
structure Provider (σ : Type) extends Extension σ where
  /-- The run of the registrar of a type, if the extension is one. -/
  registrar? : Option (TypeId → Session σ) := none

end Lifecycle
