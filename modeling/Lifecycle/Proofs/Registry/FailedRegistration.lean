import Lifecycle.Proofs.Registry.Lookup
import Lifecycle.Proofs.Registry.Reachable
/-!
# What a failed registration leaves behind

Registering a type is not undone when it fails.  The type is not recorded, so that registering it
can be tried again; but once the session of a registrar has begun, the registration of the
extension itself and those that the session made stay.
-/

namespace Lifecycle.Registry

variable {σ : Type}

/-- All that changes from one registry to another is that registrations are appended. -/
structure OnlyAppends (r r' : Registry σ) (left : List (Registration σ)) : Prop where
  rules : r'.rules = r.rules
  ancestors : r'.ancestors = r.ancestors
  ownTypes : r'.scope.types = r.scope.types
  ownEntries : r'.scope.entries = r.scope.entries ++ left
  types : r'.types = r.types
  localSize : r'.localSize = r.localSize + left.length
  size : r'.size = r.size + left.length
  /-- A phase that none of them takes part in is looked up as before. -/
  lookups : ∀ phase, (∀ entry ∈ left, entry.participates phase = false) →
    r'.lookupEntries phase = r.lookupEntries phase ∧ r'.lookup phase = r.lookup phase

theorem participants_extend (r : Registry σ) (added : List (Registration σ)) (phase : Phase) :
    (r.extend added).participants phase =
      r.participants phase ++ added.filter fun entry => entry.participates phase := by
  rw [← filter_entries, ← filter_entries, entries_extend, List.filter_append]

theorem onlyAppends_extend (r : Registry σ) (left : List (Registration σ)) :
    OnlyAppends r (r.extend left) left := by
  have hlookups : ∀ phase, (∀ entry ∈ left, entry.participates phase = false) →
      (r.extend left).lookupEntries phase = r.lookupEntries phase := by
    intro phase hnone
    have hfilter : left.filter (fun entry => entry.participates phase) = [] := by
      rw [List.filter_eq_nil_iff]
      intro entry hentry
      rw [hnone entry hentry]
      exact Bool.false_ne_true
    apply lookupEntries_congr
    · rw [rules_extend]
    · rw [participants_extend, hfilter, List.append_nil]
  refine ⟨rfl, rfl, rfl, rfl, types_extend r left, ?_, ?_, ?_⟩
  · exact List.length_append
  · rw [size, size, entries_extend, List.length_append]
  · intro phase hnone
    have hentries := hlookups phase hnone
    refine ⟨hentries, ?_⟩
    unfold lookup
    rw [hentries]

/-- **A failed registration of a type records no type and leaves behind just what its session had
made.**  If the factory refuses, or the extension itself is refused, nothing changes.  If the
session of the registrar fails, what stays is the registration of the extension, if it takes part
in anything, and then those that were accepted before the session ended. -/
theorem registerType_error_leaves {r r' : Registry σ} {type : TypeId} {s s' : σ} {e : Error}
    (h : r.registerType type s = (.error e, r', s')) :
    ∃ left, OnlyAppends r r' left ∧ r'.containsType type = false ∧
      ((left = [] ∧ ∃ cause, r.factory.instantiate type s = (.error cause, s') ∧
          e = .instantiation cause) ∨
        (left = [] ∧ ∃ p phase, r.factory.instantiate type s = (.ok p, s') ∧
          p.capabilities.includes phase = true ∧
          (r.rules.ruleFor phase).allows .default = false ∧
          e = .disallowedPosition .default phase p.name) ∨
        ∃ p session w, r.factory.instantiate type s = (.ok p, w) ∧ p.registrar? = some session ∧
          (session type).run type (r.extend p.own) w = (.error e, r', s') ∧
          left = p.own ++ ((session type).play r.rules type w).accepted) := by
  have hregisters : RegistersType r type s (.error e) r' s' := by
    have hall := registersType r type s
    rwa [h] at hall
  cases hregisters with
  | notInstantiated hnew hmade =>
      refine ⟨[], ?_, hnew, .inl ⟨rfl, _, hmade, rfl⟩⟩
      simpa using onlyAppends_extend _ []
  | refused hnew hmade hreject =>
      have hfound := List.find?_some hreject
      have hphase := PhaseSet.mem_phases.mp (List.mem_of_find?_eq_some hreject)
      refine ⟨[], ?_, hnew, .inr (.inl ⟨rfl, _, _, hmade, hphase, by simpa using hfound, rfl⟩)⟩
      simpa using onlyAppends_extend _ []
  | failed hnew hmade hallowed hregistrar houtcome =>
      refine ⟨_, onlyAppends_extend r _, ?_,
        .inr (.inr ⟨_, _, _, hmade, hregistrar, ?_, rfl⟩)⟩
      · rwa [containsType, types_extend]
      · rw [Session.run_eq_play, rules_extend, extend_extend, houtcome]

/-- A factory for one registrar, which takes part in a phase itself and registers two children,
the second of which is refused. -/
def halfwayFactory : Factory Unit where
  instantiate := fun _ s =>
    let child (name : String) (phase : Phase) : Extension Unit := ⟨name, phase.toSet, Callback.idle⟩
    let children := [(child "ok" .beforeEach, .innermost), (child "cond" .testCondition, .innermost)]
    (.ok { child "bad" .beforeEach with registrar? := some fun _ => Session.registerAll children }, s)

/-- The registration of a registrar stays, and that of its first child, when its second child is
refused. -/
theorem registerType_error_leaves_two :
    let r := bare (ScopeId.numbered 0) PhaseRules.builtin halfwayFactory
    let type : TypeId := ⟨"acme", "bad"⟩
    let r' := (r.registerType type ()).2.1
    r.registerType type () =
        (.error (.disallowedPosition .innermost .testCondition "registrar acme::bad"), r', ()) ∧
      ∃ left, left.length = 2 ∧ OnlyAppends r r' left ∧ r'.containsType type = false := by
  intro r type r'
  have hfails : r.registerType type () =
      (.error (.disallowedPosition .innermost .testCondition "registrar acme::bad"), r', ()) := rfl
  obtain ⟨left, happends, hnew, -⟩ := registerType_error_leaves hfails
  have htwo : r'.localSize = 2 := rfl
  have hlength : left.length = 2 := by
    rw [happends.localSize] at htwo
    simpa [localSize, r, bare] using htwo
  exact ⟨hfails, left, hlength, happends, hnew⟩

/-- A registration that fails can leave registrations behind, so that the registry is not as it was
before. -/
theorem failed_registration_not_undone :
    ¬ ∀ (r r' : Registry Unit) (type : TypeId) (s s' : Unit) (e : Error), r.Reachable →
        r.registerType type s = (.error e, r', s') →
        r'.scope.entries = r.scope.entries ∧ r'.types = r.types ∧
          (∀ phase, r'.lookup phase = r.lookup phase) ∧ r'.size = r.size ∧
          r'.localSize = r.localSize := by
  intro h
  have hbuilt : (Registry.root (ScopeId.numbered 0) PhaseRules.builtin halfwayFactory [] ()).1 =
      .ok (bare (ScopeId.numbered 0) PhaseRules.builtin halfwayFactory) := rfl
  obtain ⟨-, -, -, -, hlocal⟩ := h _ _ ⟨"acme", "bad"⟩ () () _ (.root hbuilt) rfl
  exact absurd hlocal (by decide)

end Lifecycle.Registry
