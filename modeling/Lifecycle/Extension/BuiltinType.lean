import Lifecycle.Identity.TypeId
/-!
# Built-in extension types

The extension types that come with the library, in the order in which root registries register
them.
-/

namespace Lifecycle

inductive Builtin where
  /-- Disables scopes whose payload says so. -/
  | disabledCondition
  /-- Resolves the description of a test. -/
  | testInfoResolver
  /-- Resolves a reporter for a scope. -/
  | testReporterResolver
  deriving DecidableEq, Repr

namespace Builtin

def all : List Builtin := [disabledCondition, testInfoResolver, testReporterResolver]

def name : Builtin → String
  | disabledCondition => "disabled_condition"
  | testInfoResolver => "test_info_resolver"
  | testReporterResolver => "test_reporter_resolver"

def ofName? (s : String) : Option Builtin :=
  all.find? (·.name == s)

def typeId (b : Builtin) : TypeId := TypeId.builtin b.name

/-- The extension types that root registries register by default. -/
def defaultTypes : List TypeId := all.map typeId

end Builtin

end Lifecycle
