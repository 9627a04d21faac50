import Lifecycle.Phase.Basic
import Lifecycle.Phase.Position
/-!
# The rules of phases

For each phase, which positions its extensions may hold and in which direction they are applied.
Rules are set for some phases; every other phase has the standard one.
-/

namespace Lifecycle

/-- Whether the sorted extensions of a phase are applied from the outside in or back. -/
inductive Direction where
  | forward
  | backward
  deriving DecidableEq, Repr

namespace Direction

instance : Inhabited Direction := ⟨.forward⟩

def all : List Direction := [forward, backward]

def name : Direction → String
  | forward => "forward"
  | backward => "backward"

def ofName? (s : String) : Option Direction :=
  all.find? (·.name == s)

instance : ToString Direction := ⟨name⟩

end Direction

structure PhaseRule where
  allowed : List Position
  direction : Direction
  deriving DecidableEq, Repr

namespace PhaseRule

def nested : List Position :=
  [.outermost, .outsideDefault, .default, .insideDefault, .innermost]

def firstLast : List Position := [.first, .default, .last]

def defaultOnly : List Position := [.default]

/-- The rule of a phase that none is set for. -/
def standard : PhaseRule := ⟨defaultOnly, .forward⟩

instance : Inhabited PhaseRule := ⟨standard⟩

def allows (rule : PhaseRule) (p : Position) : Bool := rule.allowed.contains p

end PhaseRule

structure PhaseRules where
  rule? : Phase → Option PhaseRule

namespace PhaseRules

def empty : PhaseRules := ⟨fun _ => none⟩

instance : Inhabited PhaseRules := ⟨empty⟩

def set (t : PhaseRules) (p : Phase) (rule : PhaseRule) : PhaseRules :=
  ⟨fun q => if q = p then some rule else t.rule? q⟩

def isSet (t : PhaseRules) (p : Phase) : Bool := (t.rule? p).isSome

def ruleFor (t : PhaseRules) (p : Phase) : PhaseRule := (t.rule? p).getD .standard

def direction (t : PhaseRules) (p : Phase) : Direction := (t.ruleFor p).direction

/-- The rule of a phase unless a registry is given rules of its own: setup nests forward, teardown
and the handling of exceptions nest backward, instances are post-processed between a first and a
last position, and conditions and resolvers keep their order. -/
def builtinRule : Phase → PhaseRule
  | .beforeAll | .beforeEach => ⟨PhaseRule.nested, .forward⟩
  | .afterEach | .afterAll | .exceptionHandler => ⟨PhaseRule.nested, .backward⟩
  | .instancePostProcess => ⟨PhaseRule.firstLast, .forward⟩
  | .containerCondition | .testCondition | .parameterResolver => .standard

def builtin : PhaseRules := ⟨fun p => some (builtinRule p)⟩

@[ext] theorem ext {t u : PhaseRules} (h : ∀ p, t.rule? p = u.rule? p) : t = u := by
  cases t; cases u
  exact congrArg PhaseRules.mk (funext h)

theorem eq_iff_forall_all {t u : PhaseRules} :
    t = u ↔ ∀ p ∈ Phase.all, t.rule? p = u.rule? p :=
  ⟨fun h _ _ => h ▸ rfl, fun h => ext fun p => h p (Phase.mem_all p)⟩

instance : DecidableEq PhaseRules := fun _ _ =>
  decidable_of_iff' _ eq_iff_forall_all

@[simp] theorem ruleFor_set (t : PhaseRules) (p q : Phase) (rule : PhaseRule) :
    (t.set p rule).ruleFor q = if q = p then rule else t.ruleFor q := by
  simp only [ruleFor, set]
  split <;> rfl

end PhaseRules

end Lifecycle
