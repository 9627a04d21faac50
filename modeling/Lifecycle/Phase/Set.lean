import Lifecycle.Phase.Basic
/-!
# Sets of phases

A set of phases is a word of sixteen bits.  The nine lowest stand for the phases; bits beyond them
stand for no phase and are kept as they are.
-/

namespace Lifecycle

/-- A set of phases, and of bits that stand for none. -/
structure PhaseSet where
  bits : BitVec 16
  deriving DecidableEq

def Phase.toSet (p : Phase) : PhaseSet :=
  ⟨BitVec.twoPow 16 p.index⟩

namespace PhaseSet

def empty : PhaseSet := ⟨0⟩

instance : EmptyCollection PhaseSet := ⟨empty⟩

instance : Inhabited PhaseSet := ⟨empty⟩

def union (a b : PhaseSet) : PhaseSet := ⟨a.bits ||| b.bits⟩

instance : Union PhaseSet := ⟨union⟩

def inter (a b : PhaseSet) : PhaseSet := ⟨a.bits &&& b.bits⟩

instance : Inter PhaseSet := ⟨inter⟩

def diff (a b : PhaseSet) : PhaseSet := ⟨a.bits &&& ~~~b.bits⟩

instance : SDiff PhaseSet := ⟨diff⟩

def symmDiff (a b : PhaseSet) : PhaseSet := ⟨a.bits ^^^ b.bits⟩

def ofPhases (ps : List Phase) : PhaseSet :=
  ps.foldl (fun s p => s ∪ p.toSet) ∅

def full : PhaseSet := ofPhases Phase.all

def known (s : PhaseSet) : PhaseSet := s ∩ full

def unknown (s : PhaseSet) : PhaseSet := s \ full

def complement (s : PhaseSet) : PhaseSet := full \ s

/-- Whether no bit is set; a bit that stands for no phase counts. -/
def isEmpty (s : PhaseSet) : Bool := s.bits == 0

def contains (a b : PhaseSet) : Bool := (a ∩ b) == b

def intersects (a b : PhaseSet) : Bool := !(a ∩ b).isEmpty

def includes (s : PhaseSet) (p : Phase) : Bool := s.contains p.toSet

def phases (s : PhaseSet) : List Phase := Phase.all.filter s.includes

def conditions : PhaseSet := ofPhases [.containerCondition, .testCondition]

def each : PhaseSet := ofPhases [.beforeEach, .afterEach]

def aroundAll : PhaseSet := ofPhases [.beforeAll, .afterAll]

theorem includes_eq_getLsbD (s : PhaseSet) (p : Phase) : s.includes p = s.bits.getLsbD p.index := by
  rw [Bool.eq_iff_iff]
  simp only [includes, contains, beq_iff_eq, Phase.toSet]
  constructor
  · intro h
    have hbits := congrArg (fun t : PhaseSet => t.bits.getLsbD p.index) h
    have hlt := p.index_lt
    simp only [Inter.inter, inter, BitVec.getLsbD_and, BitVec.getLsbD_twoPow] at hbits
    simpa [show p.index < 16 by omega] using hbits
  · intro h
    show inter s ⟨BitVec.twoPow 16 p.index⟩ = ⟨BitVec.twoPow 16 p.index⟩
    simp only [inter, PhaseSet.mk.injEq]
    ext i hi
    rw [BitVec.getElem_and, BitVec.getElem_twoPow]
    by_cases hip : p.index = i
    · subst hip
      simpa [BitVec.getLsbD_eq_getElem hi] using h
    · simp [show i ≠ p.index from fun h => hip h.symm]

theorem includes_union (a b : PhaseSet) (p : Phase) :
    (a ∪ b).includes p = (a.includes p || b.includes p) := by
  simp only [includes_eq_getLsbD]
  exact BitVec.getLsbD_or

theorem mem_phases {s : PhaseSet} {p : Phase} : p ∈ s.phases ↔ s.includes p = true := by
  simp [phases, Phase.mem_all]

end PhaseSet

end Lifecycle
