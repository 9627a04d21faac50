import Lifecycle.Dispatch.Policy
import Lifecycle.Registry.Basic
/-!
# Dispatch

Running the extensions of the phase of a context, in application order and on one context, under
the policy for the direction of the phase.
-/

namespace Lifecycle

variable {σ : Type}

def Extension.failure (e : Extension σ) (phase : Phase) (message : String) : Error :=
  .callbackFailed e.name phase message

def runUntilFailure (phase : Phase) :
    List (Extension σ) → Context → σ → Except Error Unit × Context × σ
  | [], c, s => (.ok (), c, s)
  | e :: rest, c, s =>
    match e.handle c s with
    | (.ok (), c, s) => runUntilFailure phase rest c s
    | (.error message, c, s) => (.error (e.failure phase message), c, s)

def runAll (phase : Phase) : List (Extension σ) → Context → σ → List Error × Context × σ
  | [], c, s => ([], c, s)
  | e :: rest, c, s =>
    match e.handle c s with
    | (.ok (), c, s) => runAll phase rest c s
    | (.error message, c, s) =>
      match runAll phase rest c s with
      | (failures, c, s) => (e.failure phase message :: failures, c, s)

def Policy.run (policy : Policy) (phase : Phase) (extensions : List (Extension σ)) (c : Context)
    (s : σ) : Except Error Unit × Context × σ :=
  match policy with
  | .failFast => runUntilFailure phase extensions c s
  | .aggregate =>
    match runAll phase extensions c s with
    | ([], c, s) => (.ok (), c, s)
    | (failures, c, s) => (.error (.phaseFailed phase failures), c, s)

/-- Runs the extensions of the context's phase.  The phase is that of the context at the start,
whatever the callbacks make of it. -/
def Registry.dispatch (r : Registry σ) (policies : Policies) (c : Context) (s : σ) :
    Except Error Unit × Context × σ :=
  match r.lookup c.phase with
  | .error e => (.error e, c, s)
  | .ok extensions =>
    (policies.policyFor (r.rules.direction c.phase)).run c.phase extensions c s

end Lifecycle
