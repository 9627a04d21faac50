import Lifecycle.Identity.TypeId
import Lifecycle.Phase.Basic
import Lifecycle.Value.Basic
/-!
# Contexts

What a callback is handed: the scope and the phase it is run for, the data of the scope, and the
outputs of the phase.  The first verdict and the first resolved value of a phase stand.
-/

namespace Lifecycle

inductive Verdict where
  | enabled
  | disabled (reason : String)
  deriving DecidableEq, Repr, Inhabited

structure Context where
  phase : Phase
  scopeId : ScopeId
  scopeName : String
  displayName : String
  tags : List String
  payload : Value
  /-- State that is carried from phase to phase. -/
  metadata : Fields
  verdict : Verdict
  resolved : Option Value

namespace Context

/-- A context for a scope without display name, tags or metadata of its own. -/
def forScope (phase : Phase) (scopeId : ScopeId) (scopeName : String) (payload : Value) :
    Context where
  phase := phase
  scopeId := scopeId
  scopeName := scopeName
  displayName := scopeName
  tags := []
  payload := payload
  metadata := []
  verdict := .enabled
  resolved := none

/-- The context for another phase of its scope: the outputs of the phase are reset. -/
def forPhase (c : Context) (phase : Phase) : Context :=
  { c with phase := phase, verdict := .enabled, resolved := none }

/-- Disables the scope; the first reason stands. -/
def disable (c : Context) (reason : String) : Context :=
  match c.verdict with
  | .enabled => { c with verdict := .disabled reason }
  | .disabled _ => c

def isDisabled (c : Context) : Bool :=
  match c.verdict with
  | .enabled => false
  | .disabled _ => true

/-- Resolves the parameter; the first value stands. -/
def resolve (c : Context) (value : Value) : Context :=
  match c.resolved with
  | none => { c with resolved := some value }
  | some _ => c

def parameterKey : String := "parameter"

def parameter? (c : Context) : Option String :=
  (c.payload.get? parameterKey).bind Value.asText?

def setMetadata (c : Context) (key : String) (value : Value) : Context :=
  { c with metadata := Fields.insert key value c.metadata }

@[simp] theorem disable_disable (c : Context) (first second : String) :
    (c.disable first).disable second = c.disable first := by
  unfold disable
  cases h : c.verdict <;> simp [h]

@[simp] theorem resolve_resolve (c : Context) (first second : Value) :
    (c.resolve first).resolve second = c.resolve first := by
  unfold resolve
  cases h : c.resolved <;> simp [h]

end Context

end Lifecycle
