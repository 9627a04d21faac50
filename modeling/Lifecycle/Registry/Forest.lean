import Lifecycle.Registry.Basic
/-!
# Forests

Registries under names, with the parent each was built from.  Once a registry has a child it is
frozen, so that a child always sees its ancestors as they are.
-/

namespace Lifecycle

structure ForestNode (σ : Type) where
  /-- The name of the parent, unless the registry is a root. -/
  parent? : Option String
  registry : Registry σ

structure Forest (σ : Type) where
  /-- The registries, in the order in which they were built. -/
  nodes : List (String × ForestNode σ) := []

namespace Forest

variable {σ : Type}

inductive Fault where
  | noNode
  | nodeExists
  | frozen
  deriving DecidableEq, Repr

def get (f : Forest σ) (name : String) : Except Fault (ForestNode σ) :=
  match f.nodes.lookup name with
  | some node => .ok node
  | none => .error .noNode

def isFrozen (f : Forest σ) (name : String) : Bool :=
  f.nodes.any fun (_, node) => node.parent? == some name

def getOpen (f : Forest σ) (name : String) : Except Fault (ForestNode σ) :=
  match f.get name with
  | .error fault => .error fault
  | .ok node => if f.isFrozen name then .error .frozen else .ok node

def checkFree (f : Forest σ) (name : String) : Except Fault Unit :=
  match f.nodes.lookup name with
  | some _ => .error .nodeExists
  | none => .ok ()

/-- The identifier for the next registry; no registry of the forest has it. -/
def nextId (f : Forest σ) : ScopeId := ScopeId.numbered f.nodes.length

def replace (f : Forest σ) (name : String) (r : Registry σ) : Forest σ where
  nodes := f.nodes.map fun (n, node) =>
    if n = name then (n, { node with registry := r }) else (n, node)

theorem get_replace_self {f : Forest σ} {name : String} {node : ForestNode σ}
    (h : f.get name = .ok node) (r : Registry σ) :
    (f.replace name r).get name = .ok { node with registry := r } := by
  obtain ⟨nodes⟩ := f
  simp only [get, replace] at h ⊢
  induction nodes with
  | nil => simp at h
  | cons entry rest ih =>
    obtain ⟨n, first⟩ := entry
    by_cases hn : n = name
    · subst hn
      simp_all
    · have hne : (name == n) = false := by simpa using fun e : name = n => hn e.symm
      simp only [List.lookup_cons, hne] at h
      simpa [List.lookup_cons, hn, hne] using ih h

theorem get_replace_of_ne {f : Forest σ} {name other : String} (h : other ≠ name)
    (r : Registry σ) : (f.replace name r).get other = f.get other := by
  obtain ⟨nodes⟩ := f
  simp only [get, replace]
  induction nodes with
  | nil => rfl
  | cons entry rest ih =>
    obtain ⟨n, first⟩ := entry
    by_cases hn : n = name
    · subst hn
      have hne : (other == n) = false := by simpa using h
      simpa [List.lookup_cons, hne] using ih
    · cases hother : other == n with
      | true => simp [List.lookup_cons, hn, hother]
      | false => simpa [List.lookup_cons, hn, hother] using ih

def addBuilt (f : Forest σ) (name : String) (parent? : Option String)
    (outcome : Except Error (Registry σ) × σ) : Except Error Unit × Forest σ × σ :=
  match outcome with
  | (.ok r, s) => (.ok (), ⟨f.nodes ++ [(name, ⟨parent?, r⟩)]⟩, s)
  | (.error e, s) => (.error e, f, s)

/-- Builds a root; it is only kept if that succeeds. -/
def addRoot (f : Forest σ) (name : String) (rules : PhaseRules) (factory : Factory σ)
    (types : List TypeId) (s : σ) : Except Fault (Except Error Unit × Forest σ × σ) :=
  match f.checkFree name with
  | .error fault => .error fault
  | .ok () => .ok (f.addBuilt name none (Registry.root f.nextId rules factory types s))

def addChild (f : Forest σ) (name parent : String) (types : List TypeId) (s : σ) :
    Except Fault (Except Error Unit × Forest σ × σ) :=
  match f.checkFree name with
  | .error fault => .error fault
  | .ok () =>
    match f.get parent with
    | .error fault => .error fault
    | .ok node => .ok (f.addBuilt name (some parent) (node.registry.child f.nextId types s))

def registerType (f : Forest σ) (name : String) (type : TypeId) (s : σ) :
    Except Fault (Except Error Bool × Forest σ × σ) :=
  match f.getOpen name with
  | .error fault => .error fault
  | .ok node =>
    match node.registry.registerType type s with
    | (outcome, r, s) => .ok (outcome, f.replace name r, s)

def register (f : Forest σ) (name : String) (extension : Extension σ) (origin : Origin)
    (position : Position) : Except Fault (Except Error Unit × Forest σ) :=
  match f.getOpen name with
  | .error fault => .error fault
  | .ok node =>
    match node.registry.register extension origin position with
    | .ok r => .ok (.ok (), f.replace name r)
    | .error e => .ok (.error e, f)

/-- Whether no other registry has the identifier of the one of a name. -/
def hasOwnId (f : Forest σ) (name : String) (r : Registry σ) : Bool :=
  f.nodes.all fun (n, node) => n == name || node.registry.scope.id != r.scope.id

end Forest

end Lifecycle
