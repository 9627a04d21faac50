import Lifecycle.Config.Basic
import Lifecycle.Dispatch.Run
import Lifecycle.Registry.Forest
import Lifecycle.Rehearsal.Blueprint
/-!
# Stages

Where a lifecycle is rehearsed: a forest of registries, contexts under names, and the recorder that
all the extensions write to.
-/

namespace Lifecycle.Rehearsal

structure Stage where
  rules : PhaseRules := PhaseRules.builtin
  factory : Factory Recorder := Builtin.constructors.toFactory
  config : Config := Config.standard
  forest : Forest Recorder := {}
  contexts : List (String × Context) := []
  recorder : Recorder := {}

namespace Stage

inductive Fault where
  | forest (fault : Forest.Fault)
  | noContext
  deriving DecidableEq, Repr

def node (s : Stage) (name : String) : Except Fault (ForestNode Recorder) :=
  (s.forest.get name).mapError .forest

def context (s : Stage) (name : String) : Except Fault Context :=
  match s.contexts.lookup name with
  | some c => .ok c
  | none => .error .noContext

def setContext (s : Stage) (name : String) (c : Context) : Stage :=
  { s with contexts := (name, c) :: s.contexts.filter (·.1 != name) }

def changeContext (s : Stage) (name : String) (change : Context → Context) :
    Except Fault (Context × Stage) := do
  let c ← s.context name
  return (change c, s.setContext name (change c))

def build (s : Stage) (b : Blueprint) : Provider Recorder × Stage :=
  match b.build s.recorder with
  | (p, recorder) => (p, { s with recorder := recorder })

def addRoot (s : Stage) (name : String) (types : List TypeId) :
    Except Fault (Except Error Unit × Stage) :=
  match s.forest.addRoot name s.rules s.factory types s.recorder with
  | .error fault => .error (.forest fault)
  | .ok (outcome, forest, recorder) =>
    .ok (outcome, { s with forest := forest, recorder := recorder })

def addChild (s : Stage) (name parent : String) (types : List TypeId) :
    Except Fault (Except Error Unit × Stage) :=
  match s.forest.addChild name parent types s.recorder with
  | .error fault => .error (.forest fault)
  | .ok (outcome, forest, recorder) =>
    .ok (outcome, { s with forest := forest, recorder := recorder })

def registerType (s : Stage) (name : String) (type : TypeId) :
    Except Fault (Except Error Bool × Stage) :=
  match s.forest.registerType name type s.recorder with
  | .error fault => .error (.forest fault)
  | .ok (outcome, forest, recorder) =>
    .ok (outcome, { s with forest := forest, recorder := recorder })

def register (s : Stage) (name : String) (e : Extension Recorder) (origin : Origin)
    (position : Position) : Except Fault (Except Error Unit × Stage) :=
  match s.forest.register name e origin position with
  | .error fault => .error (.forest fault)
  | .ok (outcome, forest) => .ok (outcome, { s with forest := forest })

def dispatch (s : Stage) (name contextName : String) (policies : Policies) :
    Except Fault (Except Error Unit × Context × Stage) := do
  let node ← s.node name
  let c ← s.context contextName
  match node.registry.dispatch policies c s.recorder with
  | (outcome, c, recorder) =>
    return (outcome, c, { s.setContext contextName c with recorder := recorder })

def handle (s : Stage) (contextName : String) (e : Extension Recorder) :
    Except Fault (Except String Unit × Context × Stage) := do
  let c ← s.context contextName
  match e.handle c s.recorder with
  | (outcome, c, recorder) =>
    return (outcome, c, { s.setContext contextName c with recorder := recorder })

def takeJournal (s : Stage) : List String × Stage :=
  match s.recorder.drain with
  | (journal, recorder) => (journal, { s with recorder := recorder })

end Stage

end Lifecycle.Rehearsal
