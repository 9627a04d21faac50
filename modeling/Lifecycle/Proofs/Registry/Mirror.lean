import Lifecycle.Proofs.Registry.Reachable
import Lifecycle.Proofs.Registry.Lookup
/-!
# Teardown mirrors setup

A phase that is applied backward undoes what a phase that is applied forward set up: the
registrations that take part in both are applied in opposite orders, however the others stand
between them and whatever positions the two phases allow.
-/

namespace Lifecycle

variable {σ : Type}

theorem Direction.filter_arrange (d : Direction) (keep : Registration σ → Bool)
    (entries : List (Registration σ)) :
    (d.arrange entries).filter keep = d.arrange (entries.filter keep) := by
  cases d with
  | forward => exact (layers_filter keep entries).symm
  | backward =>
      simp only [Direction.arrange]
      rw [List.filter_reverse, layers_filter]

namespace Registry

def joinsBoth (first second : Phase) (entry : Registration σ) : Bool :=
  entry.participates first && entry.participates second

theorem filter_participants_joinsBoth (r : Registry σ) (first second : Phase) :
    (r.participants first).filter (joinsBoth first second) =
      (r.participants second).filter (joinsBoth first second) := by
  have hpart : ∀ phase, (∀ entry, joinsBoth first second entry = true →
      Registration.participates (σ := σ) entry phase = true) →
      (r.participants phase).filter (joinsBoth first second) =
        r.entries.filter (joinsBoth first second) := by
    intro phase hjoins
    rw [← filter_entries, List.filter_filter]
    apply List.filter_congr
    intro entry _
    cases hboth : joinsBoth first second entry with
    | false => rw [Bool.false_and]
    | true => rw [hjoins entry hboth, Bool.true_and]
  rw [hpart first, hpart second]
  · intro entry hboth
    exact (Bool.and_eq_true_iff.mp hboth).2
  · intro entry hboth
    exact (Bool.and_eq_true_iff.mp hboth).1

/-- **Teardown mirrors setup.**  If a phase is applied forward and another one backward, and both
lookups succeed, then the registrations that take part in both phases stand in the second result in
exactly the reverse of their order in the first. -/
theorem teardown_mirrors_setup {r : Registry σ} {setup teardown : Phase}
    {up down : List (Registration σ)} (hforward : r.rules.direction setup = .forward)
    (hbackward : r.rules.direction teardown = .backward)
    (hup : r.lookupEntries setup = .ok up) (hdown : r.lookupEntries teardown = .ok down) :
    down.filter (fun entry => entry.participates setup && entry.participates teardown) =
      (up.filter fun entry => entry.participates setup && entry.participates teardown).reverse := by
  obtain ⟨-, rfl⟩ := lookupEntries_eq_ok_iff.mp hup
  obtain ⟨-, rfl⟩ := lookupEntries_eq_ok_iff.mp hdown
  have hsame := filter_participants_joinsBoth r setup teardown
  rw [show (r.rules.ruleFor setup).direction = .forward from hforward,
    show (r.rules.ruleFor teardown).direction = .backward from hbackward]
  calc (Direction.backward.arrange (r.participants teardown)).filter (joinsBoth setup teardown)
      = Direction.backward.arrange
          ((r.participants teardown).filter (joinsBoth setup teardown)) :=
        Direction.filter_arrange _ _ _
    _ = (Direction.forward.arrange
          ((r.participants setup).filter (joinsBoth setup teardown))).reverse := by
        rw [← hsame]
        rfl
    _ = ((Direction.forward.arrange (r.participants setup)).filter
          (joinsBoth setup teardown)).reverse := by
        rw [Direction.filter_arrange]

/-- A leaf below a suite: what wraps each test of either scope is undone from the leaf outwards,
though each of the two phases also has a registration of its own. -/
theorem leaf_torn_down_in_reverse :
    let entry (name : String) (phases : PhaseSet) (position : Position) : Registration Unit :=
      ⟨⟨name, phases, Callback.idle⟩, .programmatic name, position⟩
    let root := bare (ScopeId.numbered 0) PhaseRules.builtin Constructors.empty.toFactory
    let suite := ((root.append (entry "fixture" .each .default)).append
      (entry "timer" .each .outermost)).append (entry "seed" Phase.beforeEach.toSet .default)
    let leaf := (((suite.nested (ScopeId.numbered 1)).append
        (entry "report" Phase.afterEach.toSet .outsideDefault)).append
      (entry "data" .each .default)).append (entry "tx" .each .innermost)
    ∃ up down, leaf.lookupEntries .beforeEach = .ok up ∧
      leaf.lookupEntries .afterEach = .ok down ∧
      up.map (·.extension.name) = ["timer", "fixture", "seed", "data", "tx"] ∧
      down.map (·.extension.name) = ["tx", "data", "fixture", "report", "timer"] ∧
      down.filter (fun e => e.participates .beforeEach && e.participates .afterEach) =
        (up.filter fun e => e.participates .beforeEach && e.participates .afterEach).reverse := by
  intro entry root suite leaf
  have hup : leaf.lookupEntries .beforeEach =
      .ok (Direction.forward.arrange (leaf.participants .beforeEach)) :=
    lookupEntries_eq_ok_iff.mpr ⟨by unfold Contested; decide, rfl⟩
  have hdown : leaf.lookupEntries .afterEach =
      .ok (Direction.backward.arrange (leaf.participants .afterEach)) :=
    lookupEntries_eq_ok_iff.mpr ⟨by unfold Contested; decide, rfl⟩
  exact ⟨_, _, hup, hdown, by decide, by decide, teardown_mirrors_setup rfl rfl hup hdown⟩

end Registry

end Lifecycle
