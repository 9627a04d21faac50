import Lifecycle.Registry.Basic
/-!
# What registering does

A session of a registrar depends on the registry through the rules alone, so it can be played
without one.  Registering a type then does one of five things, and `RegistersType` names them with
all that each of them leaves behind.
-/

namespace Lifecycle

variable {σ : Type}

/-- The first phase of a set whose rule does not allow a position. -/
def PhaseRules.rejecting? (rules : PhaseRules) (phases : PhaseSet) (position : Position) :
    Option Phase :=
  phases.phases.find? fun phase => !(rules.ruleFor phase).allows position

theorem PhaseRules.rejecting?_eq_none_iff {rules : PhaseRules} {phases : PhaseSet}
    {position : Position} :
    rules.rejecting? phases position = none ↔
      ∀ phase, phases.includes phase = true → (rules.ruleFor phase).allows position = true := by
  unfold rejecting?
  rw [List.find?_eq_none]
  constructor
  · intro h phase hphase
    simpa using h phase (PhaseSet.mem_phases.mpr hphase)
  · intro h phase hphase
    simpa using h phase (PhaseSet.mem_phases.mp hphase)

/-! ## Appending registrations -/

namespace Registry

def extend (r : Registry σ) (added : List (Registration σ)) : Registry σ :=
  { r with scope := { r.scope with entries := r.scope.entries ++ added } }

@[simp] theorem extend_nil (r : Registry σ) : r.extend [] = r := by
  simp [extend]

@[simp] theorem extend_extend (r : Registry σ) (first second : List (Registration σ)) :
    (r.extend first).extend second = r.extend (first ++ second) := by
  simp [extend]

theorem append_eq_extend (r : Registry σ) (entry : Registration σ) :
    r.append entry = r.extend [entry] := rfl

@[simp] theorem rules_extend (r : Registry σ) (added : List (Registration σ)) :
    (r.extend added).rules = r.rules := rfl

@[simp] theorem ancestors_extend (r : Registry σ) (added : List (Registration σ)) :
    (r.extend added).ancestors = r.ancestors := rfl

@[simp] theorem types_extend (r : Registry σ) (added : List (Registration σ)) :
    (r.extend added).types = r.types := by
  simp [types_eq, extend]

@[simp] theorem entries_extend (r : Registry σ) (added : List (Registration σ)) :
    (r.extend added).entries = r.entries ++ added := by
  simp [entries_eq, extend]

theorem register_eq (r : Registry σ) (extension : Extension σ) (origin : Origin)
    (position : Position) :
    r.register extension origin position =
      match r.rules.rejecting? extension.capabilities position with
      | some phase => .error (.disallowedPosition position phase origin.display)
      | none => .ok (r.extend [⟨extension, origin, position⟩]) := rfl

end Registry

/-! ## Sessions -/

structure Session.Result (σ : Type) where
  outcome : Except Error Unit
  /-- The registrations that were accepted in the session, in order. -/
  accepted : List (Registration σ)
  world : σ

/-- Plays the session of the registrar of a type against rules, without a registry. -/
def Session.play (rules : PhaseRules) (owner : TypeId) : Session σ → σ → Session.Result σ
  | .finish outcome, s => ⟨outcome, [], s⟩
  | .act change next, s => (next s).play rules owner (change s)
  | .register extension position next, s =>
      match rules.rejecting? extension.capabilities position with
      | some phase =>
          let e := Error.disallowedPosition position phase (Origin.registrar owner).display
          (next (.error e)).play rules owner s
      | none =>
          let rest := (next (.ok ())).play rules owner s
          { rest with accepted := ⟨extension, .registrar owner, position⟩ :: rest.accepted }

/-- A session registers what is accepted when it is played against the rules of the registry. -/
theorem Session.run_eq_play (owner : TypeId) (session : Session σ) (r : Registry σ) (s : σ) :
    session.run owner r s =
      ((session.play r.rules owner s).outcome,
        r.extend (session.play r.rules owner s).accepted,
        (session.play r.rules owner s).world) := by
  induction session generalizing r s with
  | finish outcome => simp only [run, play, Registry.extend_nil]
  | act change next ih => exact ih s r (change s)
  | register extension position next ih =>
      simp only [run, play, Registry.register_eq]
      cases r.rules.rejecting? extension.capabilities position with
      | some phase => exact ih _ r s
      | none =>
          have hrest := ih (.ok ()) (r.extend [⟨extension, .registrar owner, position⟩]) s
          simpa only [Registry.rules_extend, Registry.extend_extend, List.singleton_append]
            using hrest

theorem Session.allowed_of_mem_accepted {rules : PhaseRules} {owner : TypeId}
    {session : Session σ} {s : σ} {entry : Registration σ}
    (h : entry ∈ (session.play rules owner s).accepted) :
    rules.rejecting? entry.extension.capabilities entry.position = none := by
  induction session generalizing s with
  | finish outcome => simp [play] at h
  | act change next ih => exact ih s h
  | register extension position next ih =>
      simp only [play] at h
      cases hreject : rules.rejecting? extension.capabilities position with
      | some phase =>
          simp only [hreject] at h
          exact ih _ h
      | none =>
          simp only [hreject, List.mem_cons] at h
          rcases h with rfl | h
          · exact hreject
          · exact ih _ h

/-! ## Types -/

namespace Provider

/-- The registration of the extension itself: none if it takes part in nothing. -/
def own (p : Provider σ) : List (Registration σ) :=
  if p.capabilities.isEmpty then [] else [⟨p.toExtension, .extension p.name, .default⟩]

/-- The session of an extension for its type; one that is no registrar has nothing to do. -/
def sessionFor (p : Provider σ) (type : TypeId) : Session σ :=
  match p.registrar? with
  | none => .finish (.ok ())
  | some session => session type

theorem allowed_of_mem_own {p : Provider σ} {rules : PhaseRules} {entry : Registration σ}
    (hallowed : rules.rejecting? p.capabilities .default = none) (h : entry ∈ p.own) :
    rules.rejecting? entry.extension.capabilities entry.position = none := by
  unfold own at h
  split at h
  · simp at h
  · rw [List.mem_singleton.mp h]
    exact hallowed

end Provider

private theorem rejecting?_of_isEmpty {rules : PhaseRules} {phases : PhaseSet}
    {position : Position} (h : phases.isEmpty = true) : rules.rejecting? phases position = none := by
  rw [PhaseRules.rejecting?_eq_none_iff]
  intro phase hphase
  have hbits : phases.bits = 0 := by simpa [PhaseSet.isEmpty] using h
  rw [PhaseSet.includes_eq_getLsbD, hbits] at hphase
  simp at hphase

namespace Registry

theorem registerProvider_eq (r : Registry σ) (type : TypeId) (p : Provider σ) (s : σ) :
    r.registerProvider type p s =
      match r.rules.rejecting? p.capabilities .default with
      | some phase => (.error (.disallowedPosition .default phase p.name), r, s)
      | none =>
          let result := (p.sessionFor type).play r.rules type s
          match result.outcome with
          | .ok () =>
              (.ok (), (r.extend (p.own ++ result.accepted)).appendType type, result.world)
          | .error e => (.error e, r.extend (p.own ++ result.accepted), result.world) := by
  -- the registration of the extension itself, whether or not there is one
  have hown : (if p.capabilities.isEmpty then Except.ok r
        else r.register p.toExtension (.extension p.name) .default) =
      match r.rules.rejecting? p.capabilities .default with
      | some phase => .error (.disallowedPosition .default phase p.name)
      | none => .ok (r.extend p.own) := by
    by_cases hempty : p.capabilities.isEmpty = true
    · rw [if_pos hempty, rejecting?_of_isEmpty hempty, Provider.own, if_pos hempty, extend_nil]
    · rw [if_neg hempty, register_eq, Provider.own, if_neg hempty]
      rfl
  unfold registerProvider
  simp only [hown]
  cases r.rules.rejecting? p.capabilities .default with
  | some phase => rfl
  | none =>
      unfold Provider.sessionFor
      cases p.registrar? with
      | none => simp only [Session.play, List.append_nil]
      | some session =>
          simp only [Session.run_eq_play, rules_extend, extend_extend]
          cases ((session type).play r.rules type s).outcome <;> rfl

/-- What registering a type can do, with its outcome, the registry and the world it leaves. -/
inductive RegistersType (r : Registry σ) (type : TypeId) (s : σ) :
    Except Error Bool → Registry σ → σ → Prop where
  | known : r.containsType type = true → RegistersType r type s (.ok false) r s
  | notInstantiated {cause : InstantiationError} {w : σ} :
      r.containsType type = false → r.factory.instantiate type s = (.error cause, w) →
      RegistersType r type s (.error (.instantiation cause)) r w
  /-- A phase of the extension does not allow the default position. -/
  | refused {p : Provider σ} {w : σ} {phase : Phase} :
      r.containsType type = false → r.factory.instantiate type s = (.ok p, w) →
      r.rules.rejecting? p.capabilities .default = some phase →
      RegistersType r type s (.error (.disallowedPosition .default phase p.name)) r w
  /-- The session of the registrar fails. -/
  | failed {p : Provider σ} {w : σ} {session : TypeId → Session σ} {e : Error} :
      r.containsType type = false → r.factory.instantiate type s = (.ok p, w) →
      r.rules.rejecting? p.capabilities .default = none → p.registrar? = some session →
      ((session type).play r.rules type w).outcome = .error e →
      RegistersType r type s (.error e)
        (r.extend (p.own ++ ((session type).play r.rules type w).accepted))
        ((session type).play r.rules type w).world
  | registered {p : Provider σ} {w : σ} :
      r.containsType type = false → r.factory.instantiate type s = (.ok p, w) →
      r.rules.rejecting? p.capabilities .default = none →
      ((p.sessionFor type).play r.rules type w).outcome = .ok () →
      RegistersType r type s (.ok true)
        ((r.extend (p.own ++ ((p.sessionFor type).play r.rules type w).accepted)).appendType type)
        ((p.sessionFor type).play r.rules type w).world

theorem registersType (r : Registry σ) (type : TypeId) (s : σ) :
    RegistersType r type s (r.registerType type s).1 (r.registerType type s).2.1
      (r.registerType type s).2.2 := by
  unfold registerType
  by_cases hknown : r.containsType type = true
  · rw [if_pos hknown]
    exact .known hknown
  have hnew : r.containsType type = false := by simpa using hknown
  rw [if_neg hknown]
  match hmade : r.factory.instantiate type s with
  | (.error cause, w) => exact .notInstantiated hnew hmade
  | (.ok p, w) =>
      simp only [registerProvider_eq]
      cases hreject : r.rules.rejecting? p.capabilities .default with
      | some phase => exact .refused hnew hmade hreject
      | none =>
          cases houtcome : ((p.sessionFor type).play r.rules type w).outcome with
          | ok _ =>
              simp only
              exact .registered hnew hmade hreject houtcome
          | error e =>
              simp only
              -- only a registrar has a session that can fail
              cases hregistrar : p.registrar? with
              | none => simp [Provider.sessionFor, hregistrar, Session.play] at houtcome
              | some session =>
                  simp only [Provider.sessionFor, hregistrar] at houtcome ⊢
                  exact .failed hnew hmade hreject hregistrar houtcome

end Registry

end Lifecycle
