import Lifecycle.Config.Basic
import Lifecycle.Toml.Document
import Lifecycle.Toml.StringStyle
import Lifecycle.Value.Format
/-!
# Configurations as data

Reading a configuration from values and from documents, by one reader over the format, and writing
it as either.  What a layer does not set has its default.
-/

namespace Lifecycle

open Lifecycle.Text

namespace Policies

/-- Sets the policy that a member gives; other members are passed over. -/
def setMember {δ : Type} (f : Format δ) (d : Policies) (member : String × δ) :
    Except ReadError Policies := do
  if member.1 = "forward" then
    return { d with forward := ← f.oneOf Policy.all Policy.name member.2 }
  else if member.1 = "backward" then
    return { d with backward := ← f.oneOf Policy.all Policy.name member.2 }
  else return d

def read {δ : Type} (f : Format δ) (v : δ) : Except ReadError Policies := do
  let (fields, surplus) ← f.fields "struct DispatchConfig" ["forward", "backward"] v
  let d ← fields.foldlM (setMember f) standard
  match surplus with
  | some e => throw e
  | none => return d

def toValue (d : Policies) : Value :=
  .record [("backward", .text d.backward.name), ("forward", .text d.forward.name)]

end Policies

namespace Config

def setMember {δ : Type} (f : Format δ) (c : Config) (member : String × δ) :
    Except ReadError Config := do
  if member.1 = "default_extensions" then
    return { c with defaultExtensions := ← f.texts member.2 }
  else if member.1 = "dispatch" then
    return { c with policies := ← Policies.read f member.2 }
  else return c

def read {δ : Type} (f : Format δ) (v : δ) : Except ReadError Config := do
  let (fields, surplus) ←
    f.fields "struct ExtensionConfig" ["default_extensions", "dispatch"] v
  let c ← fields.foldlM (setMember f) standard
  match surplus with
  | some e => throw e
  | none => return c

def ofValue (v : Value) : Except ReadError Config := read Value.format v

def toValue (c : Config) : Value :=
  .record [("default_extensions", .list (c.defaultExtensions.map .text)),
    ("dispatch", c.policies.toValue)]

inductive TextError where
  | malformed
  | data (e : ReadError)
  deriving DecidableEq, Repr

def TextError.message : TextError → String
  | .malformed => "<syntax>"
  | .data e => Toml.Value.errorMessage e

def ofText (s : String) : Except TextError Config :=
  match Toml.parse? s.toList with
  | none => .error .malformed
  | some v =>
    match read Toml.Value.format v with
    | .ok c => .ok c
    | .error e => .error (.data e)

def toText (c : Config) : String :=
  "default_extensions = " ++
    String.ofList (Toml.writeStrings (c.defaultExtensions.map String.toList)) ++
    "\n\n[dispatch]\nforward = \"" ++ c.policies.forward.name ++
    "\"\nbackward = \"" ++ c.policies.backward.name ++ "\"\n"

def readsBack (c : Config) : Bool :=
  match ofText c.toText with
  | .ok d => d == c
  | .error _ => false

end Config

end Lifecycle
