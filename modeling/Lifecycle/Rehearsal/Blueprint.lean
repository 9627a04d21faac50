import Lifecycle.Extension.Builtin
import Lifecycle.Rehearsal.Action
/-!
# Blueprints

Descriptions of extensions to rehearse with, and what is built from them: built-in ones, ones that
run actions, stand-ins that count their calls, and registrars with children.
-/

namespace Lifecycle.Rehearsal

mutual

inductive Blueprint where
  | builtin (b : Builtin)
  | scripted (name : String) (phases : PhaseSet) (actions : List Action)
  | idle (name : String) (phases : PhaseSet)
  /-- A stand-in that counts its calls, and fails if it has a message to fail with. -/
  | mock (name : String) (phases : PhaseSet) (failure? : Option String)
  | mockRegistrar (name : String) (phases : PhaseSet) (children : Children)
  /-- A registrar that runs actions, notes its sessions and may pass over errors. -/
  | registrar (name : String) (phases : PhaseSet) (actions : List Action) (children : Children)
      (ignoresErrors : Bool)

inductive Children where
  | nil
  | cons (child : Blueprint) (position : Position) (rest : Children)

end

def mockCallback (name : String) (failure? : Option String) : Callback Recorder := fun c r =>
  let r := (r.countCalls name 1).log s!"{name}@{c.phase}"
  match failure? with
  | some message => (.error message, c, r)
  | none => (.ok (), c, r)

def mockSession (name : String) (children : List (Extension Recorder × Position)) :
    Session Recorder :=
  .act (·.countSessions name 1) fun _ => .registerAll children

/-- The session that registers children and notes the errors that it passes over. -/
def lenientSession : List (Extension Recorder × Position) → Session Recorder
  | [] => .finish (.ok ())
  | (extension, position) :: rest =>
    .register extension position fun outcome =>
      match outcome with
      | .ok () => lenientSession rest
      | .error e => .act (·.log s!"ignored:{e.message}") fun _ => lenientSession rest

def notedSession (ignoresErrors : Bool) (children : List (Extension Recorder × Position))
    (type : TypeId) : Session Recorder :=
  .act (·.log s!"session:{type}") fun _ =>
    if ignoresErrors then lenientSession children else .registerAll children

mutual

/-- Builds what a blueprint describes.  Stand-ins become known to the recorder. -/
def Blueprint.build : Blueprint → Recorder → Provider Recorder × Recorder
  | .builtin b, r => (b.provider, r)
  | .scripted name phases actions, r =>
    ({ name := name, capabilities := phases, handle := runActions name actions }, r)
  | .idle name phases, r => ({ name := name, capabilities := phases }, r)
  | .mock name phases failure?, r =>
    ({ name := name, capabilities := phases, handle := mockCallback name failure? },
      r.countCalls name 0)
  | .mockRegistrar name phases children, r =>
    match children.build (r.countSessions name 0) with
    | (built, r) =>
      ({ name := name, capabilities := phases, registrar? := some fun _ => mockSession name built },
        r)
  | .registrar name phases actions children ignoresErrors, r =>
    match children.build r with
    | (built, r) =>
      ({ name := name, capabilities := phases, handle := runActions name actions
         registrar? := some (notedSession ignoresErrors built) }, r)

def Children.build : Children → Recorder → List (Extension Recorder × Position) × Recorder
  | .nil, r => ([], r)
  | .cons child position rest, r =>
    match child.build r with
    | (p, r) =>
      match rest.build r with
      | (others, r) => ((p.toExtension, position) :: others, r)

end

def Blueprint.constructor (b : Blueprint) : Constructor Recorder := fun r =>
  match b.build r with
  | (p, r) => (.ok p, r)

/-- The factory for types whose names tell what they make: a name that begins with `missing` is
unknown, and any other makes an extension of that name that does nothing. -/
def namedFactory (phases : PhaseSet) : Factory Recorder where
  instantiate := fun type r =>
    if ("missing".toList).isPrefixOf type.name.toList then
      (.error (.unknownType type.qualified), r)
    else (.ok { name := type.name, capabilities := phases }, r)

end Lifecycle.Rehearsal
