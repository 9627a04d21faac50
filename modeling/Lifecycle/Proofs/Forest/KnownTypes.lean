import Lifecycle.Proofs.Forest.Ancestry
import Lifecycle.Proofs.Registry.KnownTypes
import Mathlib.Data.List.Nodup
/-!
# Types are registered once in a chain

In every run the types of a chain are distinct, and a type that a registry sees stays visible to it
and to all that is built below it.  Registering it once more is answered with `false` and has no
other effect.
-/

namespace Lifecycle.Forest

variable {σ : Type}

theorem Coherent.replace_self {f : Forest σ} (h : f.Coherent) {name : String}
    {node : ForestNode σ} (hget : f.get name = .ok node) : f.replace name node.registry = f := by
  have hsame : ∀ entry ∈ f.nodes, entry.1 = name → entry.2 = node := by
    intro entry hentry hname
    have hmem := mem_of_get hget
    have hequal := List.inj_on_of_nodup_map h.names hentry hmem hname
    rw [hequal]
  obtain ⟨nodes⟩ := f
  simp only [Forest.replace, Forest.mk.injEq]
  refine (List.map_congr_left ?_).trans (List.map_id nodes)
  rintro ⟨n, other⟩ hentry
  by_cases hname : n = name
  · obtain rfl := hsame _ hentry hname
    simp [hname]
  · simp [hname]

/-- **A type is registered at most once in a chain.**  In every run the types that a registry sees
are distinct, and each of them is seen by the registry and by all below it in every later state.
Registering a type is answered with `false` exactly if it is registered in the chain; then the
factory is not asked, no session is run, and no registry of the forest changes. -/
theorem types_registered_once {f f' : Forest σ} (hf : Run {} f) (hrun : Run f f') :
    (∀ name node, f.get name = .ok node → node.registry.types.Nodup ∧
      (∃ later, f'.get name = .ok later) ∧
      ∀ type, node.registry.containsType type = true →
        ∀ below lower, f'.Above name below → f'.get below = .ok lower →
          lower.registry.containsType type = true) ∧
    (∀ (r : Registry σ) (type : TypeId) (s : σ),
      ((r.registerType type s).1 = .ok false ↔ r.containsType type = true) ∧
      (r.containsType type = true → r.registerType type s = (.ok false, r, s) ∧
        ∀ note, (r.noting note).registerType type s = (.ok false, r.noting note, s))) ∧
    ∀ name node type s, f.getOpen name = .ok node →
      ((∃ g w, f.registerType name type s = .ok (.ok false, g, w)) ↔
        node.registry.containsType type = true) ∧
      (node.registry.containsType type = true →
        f.registerType name type s = .ok (.ok false, f, s)) := by
  refine ⟨?_, ?_, ?_⟩
  · intro name node hget
    obtain ⟨later, hlater, -, -⟩ := hrun.keeps hget
    refine ⟨(hf.reachable hget).types_nodup, ⟨later, hlater⟩, ?_⟩
    intro type hcontains below lower habove hbelow
    exact (Run.begins hf hrun hget habove hbelow).containsType hcontains
  · intro r type s
    refine ⟨Registry.registerType_eq_ok_false_iff, fun hcontains => ⟨?_, ?_⟩⟩
    · exact Registry.registerType_of_containsType hcontains s
    · intro note
      exact Registry.registerType_noting_of_containsType hcontains note s
  · intro name node type s hopen
    have hknown : node.registry.containsType type = true →
        f.registerType name type s = .ok (.ok false, f, s) := by
      intro hcontains
      have hsame := hf.coherent.replace_self (getOpen_eq_ok_iff.mp hopen).1
      simp only [registerType, hopen, Registry.registerType_of_containsType hcontains s, hsame]
    refine ⟨⟨?_, fun hcontains => ⟨f, s, hknown hcontains⟩⟩, hknown⟩
    rintro ⟨g, w, hanswer⟩
    simp only [registerType, hopen, Except.ok.injEq, Prod.mk.injEq] at hanswer
    exact Registry.registerType_eq_ok_false_iff.mp hanswer.1

/-- A type that is refused once and registered when it is tried again: a leaf that is built below
with the type twice in its list sees it once, and passes it over. -/
theorem retried_type_known_below :
    let timing : TypeId := ⟨"acme", "timing"⟩
    let factory : Factory Nat := ⟨fun type tries =>
      (if tries = 0 then .error (.constructorFailed type.qualified "not ready")
        else .ok { name := "timing", capabilities := .each }, tries + 1)⟩
    let empty := (Operation.addRoot "suite" PhaseRules.builtin factory []).perform {} 0
    let refused := (Operation.ask "suite" (.byType timing)).perform empty 0
    let earlier := (Operation.ask "suite" (.byType timing)).perform refused 1
    let later := (Operation.addChild "leaf" "suite" [timing, timing]).perform earlier 2
    ∃ suite leaf, earlier.get "suite" = .ok suite ∧ suite.registry.types = [timing] ∧
      later.get "leaf" = .ok leaf ∧ leaf.registry.types.Nodup ∧
      leaf.registry.containsType timing = true ∧
      later.registerType "leaf" timing 2 = .ok (.ok false, later, 2) := by
  intro timing factory empty refused earlier later
  have hearlier : Run {} earlier := .perform _ 1 (.perform _ 0 (.perform _ 0 .start))
  have hlater : Run earlier later := .perform _ 2 .start
  have hsuite : ∃ suite, earlier.get "suite" = .ok suite ∧ suite.registry.types = [timing] :=
    ⟨_, rfl, rfl⟩
  have hleaf : ∃ leaf, later.getOpen "leaf" = .ok leaf ∧ leaf.parent? = some "suite" :=
    ⟨_, rfl, rfl⟩
  obtain ⟨suite, hsuite, htypes⟩ := hsuite
  obtain ⟨leaf, hopen, hparent⟩ := hleaf
  have hget := (getOpen_eq_ok_iff.mp hopen).1
  have hknown : suite.registry.containsType timing = true := by
    rw [Registry.containsType, htypes]
    decide
  obtain ⟨hstays, -, -⟩ := types_registered_once hearlier hlater
  obtain ⟨honce, -, hpassed⟩ := types_registered_once (hearlier.trans hlater) .start
  have hbelow : leaf.registry.containsType timing = true :=
    (hstays "suite" suite hsuite).2.2 timing hknown "leaf" leaf (.child .self hget hparent) hget
  exact ⟨suite, leaf, hsuite, htypes, hget, (honce "leaf" leaf hget).1, hbelow,
    (hpassed "leaf" leaf timing 2 hopen).2 hbelow⟩

end Lifecycle.Forest
