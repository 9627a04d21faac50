import Lifecycle.Phase.Basic
import Lifecycle.Phase.Position
/-!
# Errors of registration and dispatch

The causes that registering, looking up and dispatching extensions can fail for, with their codes
and texts.  Failures of callbacks can be recovered from; all others are fatal.
-/

namespace Lifecycle

inductive InstantiationError where
  | unknownType (typeName : String)
  | constructorFailed (typeName reason : String)
  deriving DecidableEq, Repr

def InstantiationError.message : InstantiationError → String
  | .unknownType typeName => s!"no constructor registered for extension type '{typeName}'"
  | .constructorFailed typeName reason =>
    s!"failed to construct extension type '{typeName}': {reason}"

inductive Error where
  /-- An extension was registered at a position that one of its phases does not allow. -/
  | disallowedPosition (position : Position) (phase : Phase) (origin : String)
  /-- A position that can be held once is held by several extensions of a phase. -/
  | positionConflict (position : Position) (phase : Phase) (origins : List String)
  | instantiation (cause : InstantiationError)
  | unknownPhase (value : String)
  | unknownPosition (value : String)
  | unknownPolicy (value : String)
  | callbackFailed (extension : String) (phase : Phase) (message : String)
  /-- Callbacks of a phase failed, and all of them were run. -/
  | phaseFailed (phase : Phase) (failures : List Error)

namespace Error

def code : Error → String
  | disallowedPosition .. => "EXT_DISALLOWED_POSITION"
  | positionConflict .. => "EXT_POSITION_CONFLICT"
  | instantiation .. => "EXT_INSTANTIATION"
  | unknownPhase .. => "EXT_UNKNOWN_PHASE"
  | unknownPosition .. => "EXT_UNKNOWN_POSITION"
  | unknownPolicy .. => "EXT_UNKNOWN_POLICY"
  | callbackFailed .. => "EXT_CALLBACK_FAILED"
  | phaseFailed .. => "EXT_PHASE_FAILED"

def message : Error → String
  | disallowedPosition position phase origin =>
    s!"'{position}' not allowed for phase '{phase}': {origin}"
  | positionConflict position phase origins =>
    s!"conflicting extensions at '{position}' for phase '{phase}': [" ++
      ", ".intercalate origins ++ "]"
  | instantiation cause => cause.message
  | unknownPhase value => s!"unknown phase: {value}"
  | unknownPosition value => s!"unknown position: {value}"
  | unknownPolicy value => s!"unknown failure policy: {value}"
  | callbackFailed extension phase message =>
    s!"callback failed [{extension}] during '{phase}': {message}"
  | phaseFailed phase failures =>
    s!"phase '{phase}' failed: {failures.length} callback(s) reported errors"

def isRecoverable : Error → Bool
  | callbackFailed .. | phaseFailed .. => true
  | _ => false

end Error

def Phase.parse (s : String) : Except Error Phase :=
  match Phase.ofName? s with
  | some p => .ok p
  | none => .error (.unknownPhase s)

def Position.parse (s : String) : Except Error Position :=
  match Position.ofName? s with
  | some p => .ok p
  | none => .error (.unknownPosition s)

end Lifecycle
