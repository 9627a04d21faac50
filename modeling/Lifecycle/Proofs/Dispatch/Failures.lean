import Lifecycle.Proofs.Dispatch.Agreement
import Lifecycle.Proofs.Registry.FailedRegistration
import Lifecycle.Proofs.Registry.Growth
/-!
# What operations fail with

Each operation has its own kinds of errors: registering and building those of positions and
instantiation, looking up conflicts of positions, and dispatching those of lookups and callbacks.
A registrar could answer anything, so this is about factories whose registrars pass on what they
were answered themselves.
-/

namespace Lifecycle

variable {σ : Type}

/-! ## Kinds of errors -/

namespace Error

inductive OfRegistering : Error → Prop where
  | disallowedPosition (position : Position) (phase : Phase) (origin : String) :
      OfRegistering (.disallowedPosition position phase origin)
  | instantiation (cause : InstantiationError) : OfRegistering (.instantiation cause)

inductive OfLookingUp (phase : Phase) : Error → Prop where
  | positionConflict {position : Position} {origins : List String} :
      position.isUnique = true → 2 ≤ origins.length →
      OfLookingUp phase (.positionConflict position phase origins)

inductive OfCallback (phase : Phase) : Error → Prop where
  | callbackFailed (extension message : String) :
      OfCallback phase (.callbackFailed extension phase message)

inductive OfRunning (phase : Phase) : Error → Prop where
  | one {failure : Error} : OfCallback phase failure → OfRunning phase failure
  | several {failures : List Error} : failures ≠ [] →
      (∀ failure ∈ failures, OfCallback phase failure) →
      OfRunning phase (.phaseFailed phase failures)

theorem OfRegistering.fatal {e : Error} (h : e.OfRegistering) : e.isRecoverable = false := by
  cases h <;> rfl

theorem OfLookingUp.fatal {e : Error} {phase : Phase} (h : e.OfLookingUp phase) :
    e.isRecoverable = false := by
  cases h
  rfl

theorem OfRunning.recoverable {e : Error} {phase : Phase} (h : e.OfRunning phase) :
    e.isRecoverable = true := by
  cases h with
  | one hfailure =>
      cases hfailure
      rfl
  | several _ _ => rfl

end Error

/-! ## Registrars that pass errors on -/

/-- The errors that the registrar of a type is answered when its session is played. -/
def Session.received (rules : PhaseRules) (owner : TypeId) : Session σ → σ → List Error
  | .finish _, _ => []
  | .act change next, s => (next s).received rules owner (change s)
  | .register extension position next, s =>
      match rules.rejecting? extension.capabilities position with
      | some phase =>
          let e := Error.disallowedPosition position phase (Origin.registrar owner).display
          e :: (next (.error e)).received rules owner s
      | none => (next (.ok ())).received rules owner s

/-- A session that fails only with an error that it was answered. -/
def Session.Relays (session : Session σ) : Prop :=
  ∀ (rules : PhaseRules) (owner : TypeId) (s : σ) (e : Error),
    (session.play rules owner s).outcome = .error e → e ∈ session.received rules owner s

/-- The registrars among the extensions that the factory makes pass errors on. -/
def Factory.Relays (f : Factory σ) : Prop :=
  ∀ (type : TypeId) (s w : σ) (p : Provider σ) (session : TypeId → Session σ),
    f.instantiate type s = (.ok p, w) → p.registrar? = some session → (session type).Relays

theorem Session.ofRegistering_of_mem_received {session : Session σ} {rules : PhaseRules}
    {owner : TypeId} {s : σ} {e : Error} (h : e ∈ session.received rules owner s) :
    e.OfRegistering := by
  induction session generalizing s with
  | finish outcome => cases h
  | act change next ih => exact ih s h
  | register extension position next ih =>
      simp only [received] at h
      cases hreject : rules.rejecting? extension.capabilities position with
      | some phase =>
          simp only [hreject, List.mem_cons] at h
          rcases h with rfl | h
          · exact .disallowedPosition _ _ _
          · exact ih _ h
      | none =>
          simp only [hreject] at h
          exact ih _ h

theorem Session.relays_registerAll (children : List (Extension σ × Position)) :
    (Session.registerAll children).Relays := by
  intro rules owner s e h
  induction children with
  | nil => cases h
  | cons child rest ih =>
      simp only [registerAll, play, received] at h ⊢
      cases hreject : rules.rejecting? child.1.capabilities child.2 with
      | some phase =>
          simp only [hreject] at h ⊢
          rw [← Except.error.inj h]
          exact List.mem_cons_self
      | none =>
          simp only [hreject] at h ⊢
          exact ih h

namespace Registry

/-! ## Registering -/

theorem register_error {r : Registry σ} {extension : Extension σ} {origin : Origin}
    {position : Position} {e : Error} (h : r.register extension origin position = .error e) :
    e.OfRegistering := by
  rw [register_eq] at h
  cases hreject : r.rules.rejecting? extension.capabilities position with
  | none => rw [hreject] at h; cases h
  | some phase =>
      rw [hreject] at h
      cases h
      exact .disallowedPosition _ _ _

theorem RegistersType.error {r r' : Registry σ} (hrelays : r.factory.Relays) {type : TypeId}
    {s s' : σ} {e : Error} (h : RegistersType r type s (.error e) r' s') : e.OfRegistering := by
  cases h with
  | notInstantiated _ _ => exact .instantiation _
  | refused _ _ _ => exact .disallowedPosition _ _ _
  | failed _ hmade _ hregistrar houtcome =>
      have hreceived := hrelays _ _ _ _ _ hmade hregistrar _ _ _ _ houtcome
      exact Session.ofRegistering_of_mem_received hreceived

theorem registerType_error {r : Registry σ} (hrelays : r.factory.Relays) {type : TypeId} {s : σ}
    {e : Error} (h : (r.registerType type s).1 = .error e) : e.OfRegistering := by
  have hregisters := registersType r type s
  rw [h] at hregisters
  exact hregisters.error hrelays

theorem registerTypes_error {r : Registry σ} (hrelays : r.factory.Relays) {types : List TypeId}
    {s : σ} {e : Error} (h : (r.registerTypes types s).1 = .error e) : e.OfRegistering := by
  induction types generalizing r s with
  | nil => cases h
  | cons type rest ih =>
      -- the registry grows from type to type, but asks the same factory
      have hfactory : (r.registerType type s).2.1.factory = r.factory :=
        (grows_registerType r type s).factory_eq
      rw [registerTypes] at h
      match hfirst : r.registerType type s with
      | (.ok _, r', s') =>
          rw [hfirst] at h hfactory
          exact ih (hfactory ▸ hrelays) h
      | (.error e', r', s') =>
          rw [hfirst] at h
          cases h
          exact registerType_error hrelays (congrArg Prod.fst hfirst)

private theorem built_error {outcome : Except Error Unit × Registry σ × σ} {e : Error}
    (h : (built outcome).1 = .error e) : outcome.1 = .error e := by
  match outcome with
  | (.ok (), r, s) => cases h
  | (.error e', r, s) => exact congrArg Except.error (Except.error.inj h)

theorem root_error {factory : Factory σ} (hrelays : factory.Relays) {id : ScopeId}
    {rules : PhaseRules} {types : List TypeId} {s : σ} {e : Error}
    (h : (Registry.root id rules factory types s).1 = .error e) : e.OfRegistering := by
  have hbuilt : ((bare id rules factory).registerTypes types s).1 = .error e := built_error h
  exact registerTypes_error hrelays hbuilt

theorem child_error {parent : Registry σ} (hrelays : parent.factory.Relays) {id : ScopeId}
    {types : List TypeId} {s : σ} {e : Error} (h : (parent.child id types s).1 = .error e) :
    e.OfRegistering := by
  have hbuilt : ((parent.nested id).registerTypes types s).1 = .error e := built_error h
  have hinherited : (parent.nested id).factory.Relays := hrelays
  exact registerTypes_error hinherited hbuilt

/-! ## Looking up and dispatching -/

theorem lookupEntries_error {r : Registry σ} {phase : Phase} {e : Error}
    (h : r.lookupEntries phase = .error e) : e.OfLookingUp phase := by
  obtain ⟨before, p, after, -, ⟨hunique, hcount⟩, -, rfl⟩ := lookupEntries_eq_error_iff.mp h
  refine .positionConflict hunique ?_
  rwa [List.length_map, ← List.countP_eq_length_filter]

theorem lookup_error {r : Registry σ} {phase : Phase} {e : Error}
    (h : r.lookup phase = .error e) : e.OfLookingUp phase := by
  cases hentries : r.lookupEntries phase with
  | error e' =>
      rw [lookup_of_lookupEntries_error hentries] at h
      cases h
      exact lookupEntries_error hentries
  | ok entries =>
      rw [lookup_of_lookupEntries_ok hentries] at h
      cases h

end Registry

theorem Policy.report_error {policy : Policy} {phase : Phase} {calls : List (Call σ)} {e : Error}
    (h : policy.report phase (calls.filterMap fun k => k.failure? phase) = .error e) :
    e.OfRunning phase := by
  have hfailures : ∀ failure ∈ calls.filterMap fun k => k.failure? phase,
      failure.OfCallback phase := by
    intro failure hfailure
    obtain ⟨k, -, hk⟩ := List.mem_filterMap.mp hfailure
    obtain ⟨message, -, rfl⟩ := Call.failure?_eq_some_iff.mp hk
    exact .callbackFailed _ _
  cases hlist : calls.filterMap fun k => k.failure? phase with
  | nil =>
      rw [hlist, report_eq_ok_iff.mpr rfl] at h
      cases h
  | cons failure rest =>
      rw [hlist] at h hfailures
      cases policy with
      | failFast =>
          cases h
          exact .one (hfailures _ List.mem_cons_self)
      | aggregate =>
          cases h
          exact .several (List.cons_ne_nil _ rest) hfailures

namespace Registry

theorem dispatch_error {r : Registry σ} {policies : Policies} {c : Context} {s : σ} {e : Error}
    (h : (r.dispatch policies c s).1 = .error e) :
    (e.OfLookingUp c.phase ∧ r.lookup c.phase = .error e ∧ r.callsMade policies c s = []) ∨
      (e.OfRunning c.phase ∧
        ∃ k ∈ r.callsMade policies c s, ∃ message, k.answer.1 = .error message) := by
  cases hlookup : r.lookup c.phase with
  | error e' =>
      rw [dispatch_of_lookup_error policies s hlookup] at h
      cases h
      exact .inl ⟨lookup_error hlookup, rfl, callsMade_of_lookup_error policies s hlookup⟩
  | ok extensions =>
      rw [dispatch_of_lookup_ok policies s hlookup, Policy.run_report] at h
      refine .inr ⟨Policy.report_error h, ?_⟩
      rw [callsMade_of_lookup_ok policies s hlookup]
      -- if no call had failed, there would have been nothing to report
      by_contra hnone
      have hall : ∀ k ∈ (policies.policyFor (r.rules.direction c.phase)).calls
          (callsOf extensions c s), k.answer.1 = .ok () := by
        intro k hk
        cases hanswer : k.answer.1 with
        | ok _ => rfl
        | error message => exact absurd ⟨k, hk, message, hanswer⟩ hnone
      rw [Policy.report_failures_eq_ok_iff.mpr hall] at h
      cases h

/-- **Each operation has its errors.**  Where registrars pass on what they were answered, building
and registering fail only with a disallowed position or a failed instantiation, and looking up only
with a conflict of several extensions at a position that can be held once in that phase.  A dispatch
fails so too, before it calls anything, or else with the failure of one callback of the phase or
with a list of such failures, after a callback that failed.  So an error can be recovered from
exactly if it is that of a dispatch which has called something. -/
theorem errors_by_operation {factory : Factory σ} (hrelays : factory.Relays) :
    (∀ id rules types s e, (Registry.root id rules factory types s).1 = .error e →
      e.OfRegistering ∧ e.isRecoverable = false) ∧
    ∀ r : Registry σ, r.factory = factory →
      (∀ id types s e, (r.child id types s).1 = .error e →
        e.OfRegistering ∧ e.isRecoverable = false) ∧
      (∀ type s e, (r.registerType type s).1 = .error e →
        e.OfRegistering ∧ e.isRecoverable = false) ∧
      (∀ extension origin position e, r.register extension origin position = .error e →
        e.OfRegistering ∧ e.isRecoverable = false) ∧
      (∀ phase e, r.lookupEntries phase = .error e ∨ r.lookup phase = .error e →
        e.OfLookingUp phase ∧ e.isRecoverable = false) ∧
      ∀ policies c s e, (r.dispatch policies c s).1 = .error e →
        ((e.OfLookingUp c.phase ∧ r.callsMade policies c s = []) ∨
          (e.OfRunning c.phase ∧
            ∃ k ∈ r.callsMade policies c s, ∃ message, k.answer.1 = .error message)) ∧
        (e.isRecoverable = true ↔ r.callsMade policies c s ≠ []) := by
  refine ⟨?_, ?_⟩
  · intro id rules types s e h
    have hkind := root_error hrelays h
    exact ⟨hkind, hkind.fatal⟩
  intro r hfactory
  have hpasses : r.factory.Relays := hfactory ▸ hrelays
  refine ⟨?_, ?_, ?_, ?_, ?_⟩
  · intro id types s e h
    have hkind := child_error hpasses h
    exact ⟨hkind, hkind.fatal⟩
  · intro type s e h
    have hkind := registerType_error hpasses h
    exact ⟨hkind, hkind.fatal⟩
  · intro extension origin position e h
    have hkind := register_error h
    exact ⟨hkind, hkind.fatal⟩
  · intro phase e h
    have hkind : e.OfLookingUp phase := h.elim lookupEntries_error lookup_error
    exact ⟨hkind, hkind.fatal⟩
  · intro policies c s e h
    rcases dispatch_error h with ⟨hkind, -, hcalls⟩ | ⟨hkind, k, hk, hfailed⟩
    · refine ⟨.inl ⟨hkind, hcalls⟩, ?_⟩
      rw [hkind.fatal, hcalls]
      simp
    · refine ⟨.inr ⟨hkind, k, hk, hfailed⟩, ?_⟩
      have hsome : r.callsMade policies c s ≠ [] := List.ne_nil_of_mem hk
      exact iff_of_true hkind.recoverable hsome

/-- The registrar that is refused its second child passes the refusal on: it is an error of
registering, and nothing to recover from. -/
theorem halfway_refusal_is_fatal :
    halfwayFactory.Relays ∧
      ∃ e, (Registry.root (ScopeId.numbered 0) PhaseRules.builtin halfwayFactory
          [⟨"acme", "bad"⟩] ()).1 = .error e ∧ e.OfRegistering ∧ e.isRecoverable = false := by
  have hrelays : halfwayFactory.Relays := by
    intro type s w p session hmade hregistrar
    cases hmade
    cases hregistrar
    exact Session.relays_registerAll _
  have hfails : (Registry.root (ScopeId.numbered 0) PhaseRules.builtin halfwayFactory
      [⟨"acme", "bad"⟩] ()).1 =
        .error (.disallowedPosition .innermost .testCondition "registrar acme::bad") := rfl
  exact ⟨hrelays, _, hfails, (errors_by_operation hrelays).1 _ _ _ _ _ hfails⟩

end Registry

end Lifecycle
