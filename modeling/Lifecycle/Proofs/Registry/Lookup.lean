import Lifecycle.Proofs.Registry.Sorting
import Lifecycle.Registry.Basic
/-!
# Looking up

What a lookup gives in terms of the registrations of the chain that take part in the phase: the
conflict at the first contested position that the phase allows, or else the layers of those
registrations, turned round for a phase that is applied backward.
-/

namespace Lifecycle

variable {σ : Type}

/-- The registrations of scopes that take part in a phase, for scopes given from the inside out:
those of the outer scopes come first, and those of one scope as they were made. -/
def takingPart (phase : Phase) : List (Scope σ) → List (Registration σ)
  | [] => []
  | scope :: outer =>
      takingPart phase outer ++ scope.entries.filter fun e => e.participates phase

def Direction.arrange (d : Direction) (entries : List (Registration σ)) :
    List (Registration σ) :=
  match d with
  | .forward => layers entries
  | .backward => (layers entries).reverse

theorem Direction.arrange_perm (d : Direction) (entries : List (Registration σ)) :
    (d.arrange entries).Perm entries := by
  cases d with
  | forward => exact layers_perm entries
  | backward => exact (List.reverse_perm _).trans (layers_perm entries)

private theorem filter_flatMap_reverse (phase : Phase) (scopes : List (Scope σ)) :
    (scopes.reverse.flatMap (·.entries)).filter (·.participates phase) =
      takingPart phase scopes := by
  induction scopes with
  | nil => rfl
  | cons scope outer ih =>
      rw [List.reverse_cons, List.flatMap_append, List.filter_append, ih, takingPart,
        List.flatMap_singleton]

namespace Registry

/-- The registrations of the chain that take part in a phase, the root's first. -/
def participants (r : Registry σ) (phase : Phase) : List (Registration σ) :=
  takingPart phase (r.scope :: r.ancestors)

theorem filter_entries (r : Registry σ) (phase : Phase) :
    r.entries.filter (·.participates phase) = r.participants phase :=
  filter_flatMap_reverse phase (r.scope :: r.ancestors)

theorem lookupEntries_eq_error_iff {r : Registry σ} {phase : Phase} {e : Error} :
    r.lookupEntries phase = .error e ↔
      ∃ before p after, (r.rules.ruleFor phase).allowed = before ++ p :: after ∧
        Contested (r.participants phase) p ∧
        (∀ q ∈ before, ¬ Contested (r.participants phase) q) ∧
        e = conflictAt (r.participants phase) phase p := by
  rw [← sortEntries_eq_error_iff]
  unfold lookupEntries
  rw [filter_entries]
  cases hsort : sortEntries (r.participants phase) phase (r.rules.ruleFor phase).allowed with
  | error e' => simp only [hsort]
  | ok sorted => cases hdirection : (r.rules.ruleFor phase).direction <;> simp [hsort, hdirection]

theorem lookupEntries_eq_ok_iff {r : Registry σ} {phase : Phase}
    {entries : List (Registration σ)} :
    r.lookupEntries phase = .ok entries ↔
      (∀ p ∈ (r.rules.ruleFor phase).allowed, ¬ Contested (r.participants phase) p) ∧
        entries = (r.rules.ruleFor phase).direction.arrange (r.participants phase) := by
  unfold lookupEntries
  rw [filter_entries]
  cases hsort : sortEntries (r.participants phase) phase (r.rules.ruleFor phase).allowed with
  | error e =>
      obtain ⟨before, p, after, hallowed, hp, -, -⟩ := sortEntries_eq_error_iff.mp hsort
      simp only [hsort]
      constructor
      · intro h
        cases h
      · intro h
        exact absurd hp (h.1 p (by simp [hallowed]))
  | ok sorted =>
      obtain ⟨hnone, rfl⟩ := sortEntries_eq_ok_iff.mp hsort
      cases hdirection : (r.rules.ruleFor phase).direction <;>
        simp [hsort, hdirection, Direction.arrange, and_iff_right hnone, eq_comm]

theorem lookupEntries_congr {r r' : Registry σ} {phase : Phase}
    (hrule : r'.rules.ruleFor phase = r.rules.ruleFor phase)
    (htaking : r'.participants phase = r.participants phase) :
    r'.lookupEntries phase = r.lookupEntries phase := by
  unfold lookupEntries
  rw [filter_entries, filter_entries, hrule, htaking]

theorem lookup_of_lookupEntries_error {r : Registry σ} {phase : Phase} {e : Error}
    (h : r.lookupEntries phase = .error e) : r.lookup phase = .error e := by
  rw [lookup, h]
  rfl

theorem lookup_of_lookupEntries_ok {r : Registry σ} {phase : Phase}
    {entries : List (Registration σ)} (h : r.lookupEntries phase = .ok entries) :
    r.lookup phase = .ok (entries.map (·.extension)) := by
  rw [lookup, h]
  rfl

/-- **A lookup is determined by what takes part.**  If an allowed position is contested, the first
such position is reported with the origins of all its holders, the root's first.  Otherwise each
registration that takes part is given once: in a forward phase rank by rank, those of equal rank as
they come, and in a backward phase in exactly the reverse of that order. -/
theorem lookup_eq_conflict_or_layers (r : Registry σ) (phase : Phase) :
    let rule := r.rules.ruleFor phase
    let taking := r.participants phase
    ((∃ p ∈ rule.allowed, Contested taking p) →
      ∃ before p after, rule.allowed = before ++ p :: after ∧ Contested taking p ∧
        (∀ q ∈ before, ¬ Contested taking q) ∧
        r.lookupEntries phase = .error (.positionConflict p phase
          ((taking.filter fun e => e.position = p).map fun e => e.origin.display)) ∧
        r.lookup phase = .error (.positionConflict p phase
          ((taking.filter fun e => e.position = p).map fun e => e.origin.display))) ∧
    ((∀ p ∈ rule.allowed, ¬ Contested taking p) →
      ∃ applied, r.lookupEntries phase = .ok applied ∧
        r.lookup phase = .ok (applied.map (·.extension)) ∧ applied.Perm taking ∧
        (rule.direction = .forward →
          applied = [1, 2, 3, 4, 5].flatMap fun n => taking.filter (·.position.rank = n)) ∧
        (rule.direction = .backward →
          applied = ([1, 2, 3, 4, 5].flatMap fun n =>
            taking.filter (·.position.rank = n)).reverse)) := by
  intro rule taking
  refine ⟨?_, ?_⟩
  · intro hcontested
    have hnotOk : ∀ entries, r.lookupEntries phase ≠ .ok entries := by
      intro entries h
      obtain ⟨p, hp, hc⟩ := hcontested
      exact (lookupEntries_eq_ok_iff.mp h).1 p hp hc
    obtain ⟨e, he⟩ : ∃ e, r.lookupEntries phase = .error e := by
      cases h : r.lookupEntries phase with
      | error e => exact ⟨e, rfl⟩
      | ok entries => exact absurd h (hnotOk entries)
    obtain ⟨before, p, after, hallowed, hp, hbefore, rfl⟩ := lookupEntries_eq_error_iff.mp he
    exact ⟨before, p, after, hallowed, hp, hbefore, he, lookup_of_lookupEntries_error he⟩
  · intro hnone
    have hok : r.lookupEntries phase = .ok (rule.direction.arrange taking) :=
      lookupEntries_eq_ok_iff.mpr ⟨hnone, rfl⟩
    refine ⟨rule.direction.arrange taking, hok, lookup_of_lookupEntries_ok hok,
      rule.direction.arrange_perm taking, ?_, ?_⟩
    · intro hforward
      rw [hforward]
      rfl
    · intro hbackward
      rw [hbackward]
      rfl

/-- A leaf below a suite.  After all tests the innermost position is contested by one of either
scope, and not by the timer, which holds it around each test only.  After each test the leaf is
undone from the inside out, without the seed. -/
theorem suite_and_leaf_looked_up :
    let entry (name : String) (phases : PhaseSet) (position : Position) : Registration Unit :=
      ⟨⟨name, phases, Callback.idle⟩, .programmatic name, position⟩
    let suite : Scope Unit :=
      { id := ScopeId.numbered 0
        entries := [entry "server" .aroundAll .innermost, entry "timer" .each .innermost,
          entry "seed" Phase.beforeEach.toSet .default, entry "fixture" .each .default] }
    let leaf : Registry Unit :=
      { rules := PhaseRules.builtin
        factory := Constructors.empty.toFactory
        scope :=
          { id := ScopeId.numbered 1
            entries := [entry "file" .aroundAll .innermost, entry "data" .each .default,
              entry "trace" .each .outsideDefault] }
        ancestors := [suite] }
    leaf.lookup .afterAll = .error (.positionConflict .innermost .afterAll
        ["programmatic server", "programmatic file"]) ∧
      ∃ applied : List (Registration Unit),
        leaf.lookup .afterEach = .ok (applied.map (·.extension)) ∧
        applied.map (·.extension.name) = ["timer", "data", "fixture", "trace"] := by
  intro entry suite leaf
  refine ⟨?_, ?_⟩
  · obtain ⟨hcontested, -⟩ := lookup_eq_conflict_or_layers leaf .afterAll
    obtain ⟨before, p, after, hallowed, hp, -, -, hlookup⟩ :=
      hcontested ⟨.innermost, by decide, by unfold Contested; decide⟩
    have honly : ∀ q ∈ PhaseRule.nested, Contested (leaf.participants .afterAll) q →
        q = .innermost := by
      unfold Contested
      decide
    obtain rfl : p = .innermost := by
      refine honly p ?_ hp
      rw [show PhaseRule.nested = before ++ p :: after from hallowed]
      simp
    have horigins : ((leaf.participants .afterAll).filter fun e => e.position = .innermost).map
        (fun e => e.origin.display) = ["programmatic server", "programmatic file"] := by
      decide +kernel
    rw [hlookup, horigins]
  · obtain ⟨-, hlayered⟩ := lookup_eq_conflict_or_layers leaf .afterEach
    obtain ⟨applied, -, hlookup, -, -, hbackward⟩ := hlayered (by unfold Contested; decide)
    refine ⟨applied, hlookup, ?_⟩
    rw [hbackward rfl]
    decide

end Registry

end Lifecycle
