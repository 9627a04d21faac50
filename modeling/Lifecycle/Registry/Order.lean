import Lifecycle.Extension.Basic
import Lifecycle.Phase.Rules
/-!
# The order of extensions

The registrations of a phase are sorted by the rank of their positions, those of equal rank as
they come.  A position that can be held once must not be held twice.
-/

namespace Lifecycle

variable {σ : Type}

def holders (entries : List (Registration σ)) (p : Position) : List (Registration σ) :=
  entries.filter (·.position == p)

/-- Whether a position that can be held once is held by several registrations. -/
def isCrowded (entries : List (Registration σ)) (p : Position) : Bool :=
  p.isUnique && 1 < (holders entries p).length

def mayPrecede (a b : Registration σ) : Bool :=
  a.position.rank ≤ b.position.rank

theorem mayPrecede_trans {a b c : Registration σ} (hab : mayPrecede a b) (hbc : mayPrecede b c) :
    mayPrecede a c := by
  simp only [mayPrecede, decide_eq_true_eq] at *
  omega

theorem mayPrecede_total (a b : Registration σ) : mayPrecede a b || mayPrecede b a := by
  simp only [mayPrecede, Bool.or_eq_true, decide_eq_true_eq]
  omega

/-- The registrations of a phase in order, or the first crowded one of the allowed positions with
the origins of its holders. -/
def sortEntries (entries : List (Registration σ)) (phase : Phase) (allowed : List Position) :
    Except Error (List (Registration σ)) :=
  match allowed.find? (isCrowded entries) with
  | some p =>
    .error (.positionConflict p phase ((holders entries p).map (·.origin.display)))
  | none => .ok (entries.mergeSort mayPrecede)

theorem sortEntries_of_not_crowded {entries : List (Registration σ)} {phase : Phase}
    {allowed : List Position} (h : ∀ p ∈ allowed, isCrowded entries p = false) :
    sortEntries entries phase allowed = .ok (entries.mergeSort mayPrecede) := by
  rw [sortEntries, List.find?_eq_none.mpr fun p hp => by simp [h p hp]]

end Lifecycle
