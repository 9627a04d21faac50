/-!
# Positions

Where an extension stands among the extensions of a phase.  Positions have names and ranks; two
pairs of them share a rank, and the outer ones can be held only once.
-/

namespace Lifecycle

inductive Position where
  | outermost
  | first
  | outsideDefault
  | default
  | insideDefault
  | innermost
  | last
  deriving DecidableEq, Repr

namespace Position

instance : Inhabited Position := ⟨.default⟩

def all : List Position :=
  [outermost, first, outsideDefault, default, insideDefault, innermost, last]

def name : Position → String
  | outermost => "OUTERMOST"
  | first => "FIRST"
  | outsideDefault => "OUTSIDE_DEFAULT"
  | default => "DEFAULT"
  | insideDefault => "INSIDE_DEFAULT"
  | innermost => "INNERMOST"
  | last => "LAST"

def label : Position → String
  | outermost => "Outermost"
  | first => "First"
  | outsideDefault => "OutsideDefault"
  | default => "Default"
  | insideDefault => "InsideDefault"
  | innermost => "Innermost"
  | last => "Last"

def rank : Position → Nat
  | outermost | first => 1
  | outsideDefault => 2
  | default => 3
  | insideDefault => 4
  | innermost | last => 5

/-- Whether at most one extension of a phase can hold the position. -/
def isUnique : Position → Bool
  | outermost | first | innermost | last => true
  | outsideDefault | default | insideDefault => false

def ofName? (s : String) : Option Position :=
  all.find? (·.name == s)

instance : ToString Position := ⟨name⟩

theorem mem_all (p : Position) : p ∈ all := by
  cases p <;> decide

@[simp] theorem ofName?_name (p : Position) : ofName? p.name = some p := by
  cases p <;> decide

theorem name_of_ofName? {s : String} {p : Position} (h : ofName? s = some p) : p.name = s := by
  simpa using List.find?_some h

end Position

end Lifecycle
