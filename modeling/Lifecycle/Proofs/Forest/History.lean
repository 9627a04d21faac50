import Lifecycle.Proofs.Forest.Ancestry
/-!
# Histories only append

Whatever a host does, what a registry holds is only appended to, by operations that succeed and by
those that fail half way.  So a lookup that succeeds somewhere in a later state succeeded in every
earlier state and in every ancestor, and what was found there still stands in the same order; and a
conflict, once there, is never mended.
-/

namespace Lifecycle.Forest

variable {σ : Type}

/-- **Histories only append, and conflicts are permanent.**  Between two states of a run, the
registrations and the types of a registry are only appended to.  If a lookup succeeds in the later
state, for the registry or for one below it, then it succeeded for the registry in the earlier
state, with a part of the result in the same order; and if a lookup fails in the earlier state, it
fails with a conflict in the later one, for the registry and for each one below it. -/
theorem history_only_appended {f f' : Forest σ} (hf : Run {} f) (hrun : Run f f') {name : String}
    {node : ForestNode σ} (hget : f.get name = .ok node) :
    (∃ later, f'.get name = .ok later ∧
      node.registry.scope.entries <+: later.registry.scope.entries ∧
      node.registry.scope.types <+: later.registry.scope.types ∧
      node.registry.entries <+: later.registry.entries ∧
      node.registry.types <+: later.registry.types) ∧
    ∀ below lower phase, f'.Above name below → f'.get below = .ok lower →
      (∀ result, lower.registry.lookupEntries phase = .ok result →
        ∃ earlier, node.registry.lookupEntries phase = .ok earlier ∧ earlier.Sublist result) ∧
      (∀ e, node.registry.lookupEntries phase = .error e →
        ∃ p origins, lower.registry.lookupEntries phase =
          .error (.positionConflict p phase origins)) := by
  refine ⟨?_, ?_⟩
  · obtain ⟨later, hlater, -, hgrows⟩ := hrun.keeps hget
    obtain ⟨hentries, htypes⟩ := hgrows.scope_prefixes
    exact ⟨later, hlater, hentries, htypes, hgrows.begins.entries, hgrows.begins.types⟩
  · intro below lower phase habove hbelow
    have hbegins := Run.begins hf hrun hget habove hbelow
    exact ⟨fun _ hok => hbegins.lookupEntries_ok hok, fun _ hfails => hbegins.lookupEntries_error hfails⟩

/-- A conflict in a suite is a conflict for a leaf that is built below it afterwards. -/
theorem conflict_seen_below :
    let last (label : String) : Registering Unit :=
      .direct ⟨label, Phase.afterAll.toSet, Callback.idle⟩ (.programmatic label) .innermost
    let empty := (Operation.addRoot "suite" PhaseRules.builtin Constructors.empty.toFactory
      []).perform {} ()
    let held := (Operation.ask "suite" (last "close")).perform empty ()
    let earlier := (Operation.ask "suite" (last "report")).perform held ()
    let later := (Operation.addChild "leaf" "suite" []).perform earlier ()
    ∃ suite leaf, earlier.get "suite" = .ok suite ∧ later.get "leaf" = .ok leaf ∧
      suite.registry.lookupEntries .afterAll = .error (.positionConflict .innermost .afterAll
        ["programmatic close", "programmatic report"]) ∧
      ∃ p origins, leaf.registry.lookupEntries .afterAll =
        .error (.positionConflict p .afterAll origins) := by
  intro last empty held earlier later
  have hearlier : Run {} earlier := .perform _ () (.perform _ () (.perform _ () .start))
  have hlater : Run earlier later := .perform _ () .start
  have hsuite : ∃ suite, earlier.get "suite" = .ok suite ∧
      suite.registry.lookupEntries .afterAll = .error (.positionConflict .innermost .afterAll
        ["programmatic close", "programmatic report"]) := ⟨_, rfl, rfl⟩
  have hleaf : ∃ leaf, later.get "leaf" = .ok leaf ∧ leaf.parent? = some "suite" := ⟨_, rfl, rfl⟩
  obtain ⟨suite, hsuite, hconflict⟩ := hsuite
  obtain ⟨leaf, hleaf, hparent⟩ := hleaf
  obtain ⟨-, hbelow⟩ := history_only_appended hearlier hlater hsuite
  obtain ⟨-, hfails⟩ := hbelow "leaf" leaf .afterAll (.child .self hleaf hparent) hleaf
  exact ⟨suite, leaf, hsuite, hleaf, hconflict, hfails _ hconflict⟩

end Lifecycle.Forest
