import Lifecycle.Scope.Context
/-!
# Recorders

What a rehearsal keeps track of: a journal of what was run, and how often each stand-in was called
or registered its children.
-/

namespace Lifecycle.Rehearsal

/-- Counts under names, in the order of the names. -/
abbrev Tally := List (String × Nat)

def Tally.add (name : String) (count : Nat) : Tally → Tally
  | [] => [(name, count)]
  | (n, k) :: rest =>
    if name < n then (name, count) :: (n, k) :: rest
    else if name = n then (n, k + count) :: rest
    else (n, k) :: Tally.add name count rest

structure Recorder where
  journal : List String := []
  calls : Tally := []
  sessions : Tally := []
  deriving DecidableEq, Repr, Inhabited

namespace Recorder

def log (r : Recorder) (entry : String) : Recorder := { r with journal := r.journal ++ [entry] }

/-- Counts calls of a stand-in; none makes its name known. -/
def countCalls (r : Recorder) (name : String) (count : Nat) : Recorder :=
  { r with calls := Tally.add name count r.calls }

def countSessions (r : Recorder) (name : String) (count : Nat) : Recorder :=
  { r with sessions := Tally.add name count r.sessions }

def drain (r : Recorder) : List String × Recorder := (r.journal, { r with journal := [] })

end Recorder

end Lifecycle.Rehearsal
