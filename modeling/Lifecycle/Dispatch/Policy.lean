import Lifecycle.Failure.Error
import Lifecycle.Phase.Rules
/-!
# Failure policies

What a dispatch does when a callback fails, chosen by the direction of the phase: setup stops at
the first failure by default, and teardown runs to its end.
-/

namespace Lifecycle

inductive Policy where
  /-- Stop at the first failure. -/
  | failFast
  /-- Run every callback and report all the failures. -/
  | aggregate
  deriving DecidableEq, Repr

namespace Policy

def all : List Policy := [failFast, aggregate]

def name : Policy → String
  | failFast => "fail_fast"
  | aggregate => "aggregate"

def ofName? (s : String) : Option Policy :=
  all.find? (·.name == s)

def parse (s : String) : Except Error Policy :=
  match ofName? s with
  | some p => .ok p
  | none => .error (.unknownPolicy s)

instance : ToString Policy := ⟨name⟩

@[simp] theorem ofName?_name (p : Policy) : ofName? p.name = some p := by
  cases p <;> decide

end Policy

structure Policies where
  forward : Policy := .failFast
  backward : Policy := .aggregate
  deriving DecidableEq, Repr

namespace Policies

instance : Inhabited Policies := ⟨⟨.failFast, .aggregate⟩⟩

def standard : Policies := ⟨.failFast, .aggregate⟩

def policyFor (d : Policies) : Direction → Policy
  | .forward => d.forward
  | .backward => d.backward

end Policies

end Lifecycle
