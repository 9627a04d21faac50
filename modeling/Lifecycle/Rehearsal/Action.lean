import Lifecycle.Extension.Basic
import Lifecycle.Rehearsal.Recorder
/-!
# Actions

Small steps that callbacks of rehearsed extensions consist of.  They are run in order until one
fails, and the effects of those before it stay.
-/

namespace Lifecycle.Rehearsal

inductive Action where
  /-- Notes the extension and the phase in the journal. -/
  | log
  | setMetadata (key : String) (value : Value)
  /-- Adds to a list in the metadata, which is made if it is absent. -/
  | appendMetadata (key : String) (value : Value)
  /-- Fails if the metadata have no entry with the key. -/
  | requireMetadata (key : String)
  | disable (reason : String)
  | resolve (value : Value)
  /-- Resolves the parameter, if one is asked for, to its type and the extension. -/
  | resolveParameter
  | setPayload (value : Value)
  | setDisplayName (name : String)
  | setPhase (phase : Phase)
  | failIfDisabled (message : String)
  | fail (message : String)

def Action.run (name : String) : Action → Callback Recorder
  | log, c, r => (.ok (), c, r.log s!"{name}:{c.phase}")
  | setMetadata key value, c, r => (.ok (), c.setMetadata key value, r)
  | appendMetadata key value, c, r =>
    match c.metadata.lookup key with
    | none => (.ok (), c.setMetadata key (.list [value]), r)
    | some (.list items) => (.ok (), c.setMetadata key (.list (items ++ [value])), r)
    | some _ => (.error s!"{key} is not a list", c, r)
  | requireMetadata key, c, r =>
    match c.metadata.lookup key with
    | some _ => (.ok (), c, r)
    | none => (.error s!"missing metadata {key}", c, r)
  | disable reason, c, r => (.ok (), c.disable reason, r)
  | resolve value, c, r => (.ok (), c.resolve value, r)
  | resolveParameter, c, r =>
    match c.parameter? with
    | some p => (.ok (), c.resolve (.record [("by", .text name), ("parameter", .text p)]), r)
    | none => (.ok (), c, r)
  | setPayload value, c, r => (.ok (), { c with payload := value }, r)
  | setDisplayName displayName, c, r => (.ok (), { c with displayName := displayName }, r)
  | setPhase phase, c, r => (.ok (), { c with phase := phase }, r)
  | failIfDisabled message, c, r => if c.isDisabled then (.error message, c, r) else (.ok (), c, r)
  | fail message, c, r => (.error message, c, r)

/-- The callback that runs steps in order until one fails. -/
def runActions (name : String) : List Action → Callback Recorder
  | [], c, r => (.ok (), c, r)
  | action :: rest, c, r =>
    match action.run name c r with
    | (.ok (), c, r) => runActions name rest c r
    | (.error message, c, r) => (.error message, c, r)

end Lifecycle.Rehearsal
