import Lifecycle.Extension.Factory
import Lifecycle.Registry.Order
/-!
# Registries

A registry is what one scope registered, together with its ancestors up to the root.  Registering
only appends to the scope's own part; looking up merges the whole chain, the root first.
-/

namespace Lifecycle

open Lifecycle.Text

/-- What one scope registered. -/
structure Scope (σ : Type) where
  id : ScopeId
  types : List TypeId := []
  entries : List (Registration σ) := []

/-- A scope with its ancestors.  The rules and the factory are shared by the whole chain. -/
structure Registry (σ : Type) where
  rules : PhaseRules
  factory : Factory σ
  scope : Scope σ
  /-- The scopes around it, the nearest first. -/
  ancestors : List (Scope σ)

namespace Registry

variable {σ : Type}

/-! ## Views -/

/-- The scopes of the chain, the root first. -/
def chain (r : Registry σ) : List (Scope σ) := (r.scope :: r.ancestors).reverse

def entries (r : Registry σ) : List (Registration σ) := r.chain.flatMap (·.entries)

def types (r : Registry σ) : List TypeId := r.chain.flatMap (·.types)

def containsType (r : Registry σ) (type : TypeId) : Bool := r.types.contains type

def size (r : Registry σ) : Nat := r.entries.length

def localSize (r : Registry σ) : Nat := r.scope.entries.length

def isEmpty (r : Registry σ) : Bool := r.size == 0

def depth (r : Registry σ) : Nat := r.ancestors.length

def isRoot (r : Registry σ) : Bool := r.ancestors.isEmpty

def parent? (r : Registry σ) : Option (Registry σ) :=
  match r.ancestors with
  | [] => none
  | scope :: ancestors => some { r with scope := scope, ancestors := ancestors }

theorem entries_eq (r : Registry σ) :
    r.entries = r.ancestors.reverse.flatMap (·.entries) ++ r.scope.entries := by
  simp [entries, chain]

theorem types_eq (r : Registry σ) :
    r.types = r.ancestors.reverse.flatMap (·.types) ++ r.scope.types := by
  simp [types, chain]

/-! ## Looking up -/

/-- The registrations that take part in a phase, in application order. -/
def lookupEntries (r : Registry σ) (phase : Phase) : Except Error (List (Registration σ)) :=
  let rule := r.rules.ruleFor phase
  match sortEntries (r.entries.filter (·.participates phase)) phase rule.allowed with
  | .error e => .error e
  | .ok sorted =>
    match rule.direction with
    | .forward => .ok sorted
    | .backward => .ok sorted.reverse

def lookup (r : Registry σ) (phase : Phase) : Except Error (List (Extension σ)) :=
  (r.lookupEntries phase).map fun entries => entries.map (·.extension)

/-! ## Registering -/

def append (r : Registry σ) (entry : Registration σ) : Registry σ :=
  { r with scope := { r.scope with entries := r.scope.entries ++ [entry] } }

def appendType (r : Registry σ) (type : TypeId) : Registry σ :=
  { r with scope := { r.scope with types := r.scope.types ++ [type] } }

@[simp] theorem entries_append (r : Registry σ) (entry : Registration σ) :
    (r.append entry).entries = r.entries ++ [entry] := by
  simp [entries_eq, append]

@[simp] theorem types_append (r : Registry σ) (entry : Registration σ) :
    (r.append entry).types = r.types := by
  simp [types_eq, append]

@[simp] theorem entries_appendType (r : Registry σ) (type : TypeId) :
    (r.appendType type).entries = r.entries := by
  simp [entries_eq, appendType]

@[simp] theorem types_appendType (r : Registry σ) (type : TypeId) :
    (r.appendType type).types = r.types ++ [type] := by
  simp [types_eq, appendType]

def disallowing? (r : Registry σ) (phases : PhaseSet) (position : Position) : Option Phase :=
  phases.phases.find? fun phase => !(r.rules.ruleFor phase).allows position

/-- Registers an extension at a position that all of its phases allow. -/
def register (r : Registry σ) (extension : Extension σ) (origin : Origin) (position : Position) :
    Except Error (Registry σ) :=
  match r.disallowing? extension.capabilities position with
  | some phase => .error (.disallowedPosition position phase origin.display)
  | none => .ok (r.append ⟨extension, origin, position⟩)

/-- Registering succeeds if every phase of the extension allows the position, and then it appends
one registration. -/
theorem register_eq_ok_iff {r r' : Registry σ} {extension : Extension σ} {origin : Origin}
    {position : Position} :
    r.register extension origin position = .ok r' ↔
      r.disallowing? extension.capabilities position = none ∧
        r' = r.append ⟨extension, origin, position⟩ := by
  rw [register]
  cases r.disallowing? extension.capabilities position with
  | none => simp [eq_comm]
  | some phase => simp

end Registry

/-- Runs a session of the registrar of a type.  What was registered before an error stays. -/
def Session.run {σ : Type} (owner : TypeId) :
    Session σ → Registry σ → σ → Except Error Unit × Registry σ × σ
  | .finish outcome, r, s => (outcome, r, s)
  | .act change next, r, s => (next s).run owner r (change s)
  | .register extension position next, r, s =>
    match r.register extension (.registrar owner) position with
    | .ok r => (next (.ok ())).run owner r s
    | .error e => (next (.error e)).run owner r s

namespace Registry

variable {σ : Type}

/-- Registers what a factory made for a type: first the extension itself, at the default position,
if it takes part in anything, then what it registers as a registrar, then the type. -/
def registerProvider (r : Registry σ) (type : TypeId) (p : Provider σ) (s : σ) :
    Except Error Unit × Registry σ × σ :=
  let own :=
    if p.capabilities.isEmpty then .ok r
    else r.register p.toExtension (.extension p.name) .default
  match own with
  | .error e => (.error e, r, s)
  | .ok r =>
    match p.registrar? with
    | none => (.ok (), r.appendType type, s)
    | some session =>
      match (session type).run type r s with
      | (.ok (), r, s) => (.ok (), r.appendType type, s)
      | (.error e, r, s) => (.error e, r, s)

/-- Registers an extension type, and tells whether it was new.  A type that is registered in the
chain is left alone.  What was registered before an error stays. -/
def registerType (r : Registry σ) (type : TypeId) (s : σ) : Except Error Bool × Registry σ × σ :=
  if r.containsType type then (.ok false, r, s)
  else
    match r.factory.instantiate type s with
    | (.error cause, s) => (.error (.instantiation cause), r, s)
    | (.ok p, s) =>
      match r.registerProvider type p s with
      | (.ok (), r, s) => (.ok true, r, s)
      | (.error e, r, s) => (.error e, r, s)

def registerTypes (r : Registry σ) (types : List TypeId) (s : σ) :
    Except Error Unit × Registry σ × σ :=
  match types with
  | [] => (.ok (), r, s)
  | type :: rest =>
    match r.registerType type s with
    | (.ok _, r, s) => r.registerTypes rest s
    | (.error e, r, s) => (.error e, r, s)

/-- The registry if registering succeeded; a partly built one is discarded. -/
def built (outcome : Except Error Unit × Registry σ × σ) :
    Except Error (Registry σ) × σ :=
  match outcome with
  | (.ok (), r, s) => (.ok r, s)
  | (.error e, _, s) => (.error e, s)

def root (id : ScopeId) (rules : PhaseRules) (factory : Factory σ) (types : List TypeId) (s : σ) :
    Except Error (Registry σ) × σ :=
  built (registerTypes ⟨rules, factory, { id := id }, []⟩ types s)

def child (parent : Registry σ) (id : ScopeId) (types : List TypeId) (s : σ) :
    Except Error (Registry σ) × σ :=
  built (registerTypes { parent with scope := { id := id }
                                     ancestors := parent.scope :: parent.ancestors } types s)

def describe (r : Registry σ) : String :=
  "ExtensionRegistry \x7b id: ScopeId(" ++ r.scope.id.uuid.toString ++ "), depth: " ++
    toString r.depth ++ ", types: [" ++
    ", ".intercalate (r.scope.types.map fun t => quotedString t.qualified) ++ "], registered: [" ++
    ", ".intercalate (r.scope.entries.map Registration.describe) ++ "] \x7d"

end Registry

end Lifecycle
