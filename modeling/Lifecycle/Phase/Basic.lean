/-!
# Phases

The phases of the lifecycle of a test scope at which extensions can take part.
-/

namespace Lifecycle

inductive Phase where
  | beforeAll
  | beforeEach
  | afterEach
  | afterAll
  | instancePostProcess
  | containerCondition
  | testCondition
  | exceptionHandler
  | parameterResolver
  deriving DecidableEq, Repr, Inhabited

namespace Phase

def all : List Phase :=
  [beforeAll, beforeEach, afterEach, afterAll, instancePostProcess, containerCondition,
    testCondition, exceptionHandler, parameterResolver]

def name : Phase → String
  | beforeAll => "before_all"
  | beforeEach => "before_each"
  | afterEach => "after_each"
  | afterAll => "after_all"
  | instancePostProcess => "instance_post_process"
  | containerCondition => "container_condition"
  | testCondition => "test_condition"
  | exceptionHandler => "exception_handler"
  | parameterResolver => "parameter_resolver"

def flagName : Phase → String
  | beforeAll => "BEFORE_ALL"
  | beforeEach => "BEFORE_EACH"
  | afterEach => "AFTER_EACH"
  | afterAll => "AFTER_ALL"
  | instancePostProcess => "INSTANCE_POST_PROCESS"
  | containerCondition => "CONTAINER_CONDITION"
  | testCondition => "TEST_CONDITION"
  | exceptionHandler => "EXCEPTION_HANDLER"
  | parameterResolver => "PARAMETER_RESOLVER"

/-- The place of a phase in lifecycle order, which is also its bit in a set of phases. -/
def index : Phase → Nat
  | beforeAll => 0
  | beforeEach => 1
  | afterEach => 2
  | afterAll => 3
  | instancePostProcess => 4
  | containerCondition => 5
  | testCondition => 6
  | exceptionHandler => 7
  | parameterResolver => 8

def ofName? (s : String) : Option Phase :=
  all.find? (·.name == s)

def ofFlagName? (s : String) : Option Phase :=
  all.find? (·.flagName == s)

instance : ToString Phase := ⟨name⟩

theorem mem_all (p : Phase) : p ∈ all := by
  cases p <;> decide

@[simp] theorem ofName?_name (p : Phase) : ofName? p.name = some p := by
  cases p <;> decide

theorem name_of_ofName? {s : String} {p : Phase} (h : ofName? s = some p) : p.name = s := by
  simpa using List.find?_some h

theorem index_lt (p : Phase) : p.index < 9 := by
  cases p <;> decide

theorem index_inj {p q : Phase} (h : p.index = q.index) : p = q := by
  revert h
  cases p <;> cases q <;> decide

end Phase

end Lifecycle
