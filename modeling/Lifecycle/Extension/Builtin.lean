import Lifecycle.Extension.BuiltinType
import Lifecycle.Extension.Factory
import Lifecycle.Scope.Record
/-!
# Built-in extensions

What the extensions that come with the library do, and the constructors that make them.
-/

namespace Lifecycle.Builtin

def disabledKey : String := "disabled"

def testInfoParameter : String := "TestInfo"

def testReporterParameter : String := "TestReporter"

def disabledReason? (c : Context) : Option String :=
  match c.payload.get? disabledKey with
  | some (.bool true) => some s!"{c.displayName} is disabled"
  | some (.text reason) => some reason
  | _ => none

def testInfo (c : Context) : Value :=
  .record [("display_name", .text c.displayName), ("name", .text c.scopeName),
    ("tags", .list (c.tags.map .text))]

def testReporter (c : Context) : Value :=
  .record [("scope", .text c.scopeId.display), ("scope_name", .text c.scopeName)]

def apply (b : Builtin) (c : Context) : Context :=
  match b with
  | disabledCondition =>
    match disabledReason? c with
    | some reason => c.disable reason
    | none => c
  | testInfoResolver =>
    if c.parameter? = some testInfoParameter then c.resolve (testInfo c) else c
  | testReporterResolver =>
    if c.parameter? = some testReporterParameter then c.resolve (testReporter c) else c

def capabilities : Builtin → PhaseSet
  | disabledCondition => PhaseSet.conditions
  | testInfoResolver | testReporterResolver => Phase.parameterResolver.toSet

def extension {σ : Type} (b : Builtin) : Extension σ where
  name := b.name
  capabilities := b.capabilities
  handle := fun c s => (.ok (), b.apply c, s)

def provider {σ : Type} (b : Builtin) : Provider σ := { b.extension with }

def constructors {σ : Type} : Constructors σ :=
  all.foldl (fun f b => f.insert b.typeId (Constructor.always b.provider)) Constructors.empty

end Lifecycle.Builtin
