import Lifecycle.Proofs.Registry.Registering
/-!
# The registries of runs

`Reachable` holds of the registries that a host can come to hold: those that roots and children are
built as, and what registering makes of them, whether it succeeds or fails.  All that any of these
operations does is to append allowed registrations and new types, so that a property which holds of
an empty scope and is kept by both kinds of appending holds in every run.
-/

namespace Lifecycle.Registry

variable {σ : Type}

def bare (id : ScopeId) (rules : PhaseRules) (factory : Factory σ) : Registry σ :=
  ⟨rules, factory, { id := id }, []⟩

def nested (parent : Registry σ) (id : ScopeId) : Registry σ :=
  { parent with
    scope := { id := id }
    ancestors := parent.scope :: parent.ancestors }

/-- The registries that a host can come to hold, with a world of any state at each operation. -/
inductive Reachable : Registry σ → Prop where
  | root {id : ScopeId} {rules : PhaseRules} {factory : Factory σ} {types : List TypeId} {s : σ}
      {r : Registry σ} : (Registry.root id rules factory types s).1 = .ok r → Reachable r
  | child {parent r : Registry σ} {id : ScopeId} {types : List TypeId} {s : σ} :
      Reachable parent → (parent.child id types s).1 = .ok r → Reachable r
  | registerType {r : Registry σ} (type : TypeId) (s : σ) :
      Reachable r → Reachable (r.registerType type s).2.1
  | register {r r' : Registry σ} {extension : Extension σ} {origin : Origin}
      {position : Position} :
      Reachable r → r.register extension origin position = .ok r' → Reachable r'

/-! ## Growth -/

/-- What registering can make of a registry, one registration or type after another. -/
inductive Grows (r : Registry σ) : Registry σ → Prop where
  | refl : Grows r r
  | append {r' : Registry σ} {entry : Registration σ} : Grows r r' →
      r'.rules.rejecting? entry.extension.capabilities entry.position = none →
      Grows r (r'.append entry)
  | appendType {r' : Registry σ} {type : TypeId} : Grows r r' →
      r'.containsType type = false → Grows r (r'.appendType type)

theorem Grows.trans {r r' r'' : Registry σ} (h : Grows r r') (h' : Grows r' r'') :
    Grows r r'' := by
  induction h' with
  | refl => exact h
  | append _ hallowed ih => exact .append ih hallowed
  | appendType _ hnew ih => exact .appendType ih hnew

theorem grows_extend (r : Registry σ) (added : List (Registration σ))
    (hallowed : ∀ entry ∈ added,
      r.rules.rejecting? entry.extension.capabilities entry.position = none) :
    Grows r (r.extend added) := by
  induction added generalizing r with
  | nil =>
      rw [extend_nil]
      exact .refl
  | cons entry rest ih =>
      have hfirst : Grows r (r.append entry) :=
        .append .refl (hallowed entry List.mem_cons_self)
      have hrest : Grows (r.append entry) ((r.append entry).extend rest) :=
        ih (r.append entry) fun e he => hallowed e (List.mem_cons_of_mem entry he)
      rw [append_eq_extend, extend_extend, List.singleton_append] at hrest
      exact hfirst.trans hrest

theorem grows_register {r r' : Registry σ} {extension : Extension σ} {origin : Origin}
    {position : Position} (h : r.register extension origin position = .ok r') : Grows r r' := by
  obtain ⟨hallowed, rfl⟩ := register_eq_ok_iff.mp h
  exact .append .refl hallowed

theorem RegistersType.grows {r r' : Registry σ} {type : TypeId} {s s' : σ}
    {outcome : Except Error Bool} (h : RegistersType r type s outcome r' s') : Grows r r' := by
  have hextend : ∀ {p : Provider σ} {session : Session σ} {w : σ},
      r.rules.rejecting? p.capabilities .default = none →
      Grows r (r.extend (p.own ++ (session.play r.rules type w).accepted)) := by
    intro p session w hallowed
    apply grows_extend
    intro entry hentry
    rcases List.mem_append.mp hentry with hown | haccepted
    · exact Provider.allowed_of_mem_own hallowed hown
    · exact Session.allowed_of_mem_accepted haccepted
  cases h with
  | known => exact .refl
  | notInstantiated => exact .refl
  | refused => exact .refl
  | failed _ _ hallowed _ _ => exact hextend hallowed
  | registered hnew _ hallowed _ =>
      refine .appendType (hextend hallowed) ?_
      rwa [containsType, types_extend]

theorem grows_registerType (r : Registry σ) (type : TypeId) (s : σ) :
    Grows r (r.registerType type s).2.1 :=
  (registersType r type s).grows

theorem grows_registerTypes (r : Registry σ) (types : List TypeId) (s : σ) :
    Grows r (r.registerTypes types s).2.1 := by
  induction types generalizing r s with
  | nil => exact .refl
  | cons type rest ih =>
      have hfirst := grows_registerType r type s
      unfold registerTypes
      match hregister : r.registerType type s with
      | (.ok _, r', s') =>
          rw [hregister] at hfirst
          exact hfirst.trans (ih r' s')
      | (.error _, r', s') =>
          rw [hregister] at hfirst
          exact hfirst

private theorem eq_of_built {outcome : Except Error Unit × Registry σ × σ} {r : Registry σ}
    (h : (built outcome).1 = .ok r) : outcome.2.1 = r := by
  match outcome with
  | (.ok (), r', s) => exact Except.ok.inj h
  | (.error e, r', s) => cases h

theorem grows_root {id : ScopeId} {rules : PhaseRules} {factory : Factory σ}
    {types : List TypeId} {s : σ} {r : Registry σ}
    (h : (Registry.root id rules factory types s).1 = .ok r) : Grows (bare id rules factory) r := by
  have hbuilt : ((bare id rules factory).registerTypes types s).2.1 = r := eq_of_built h
  rw [← hbuilt]
  exact grows_registerTypes (bare id rules factory) types s

theorem grows_child {parent r : Registry σ} {id : ScopeId} {types : List TypeId} {s : σ}
    (h : (parent.child id types s).1 = .ok r) : Grows (parent.nested id) r := by
  have hbuilt : ((parent.nested id).registerTypes types s).2.1 = r := eq_of_built h
  rw [← hbuilt]
  exact grows_registerTypes (parent.nested id) types s

/-! ## Invariants of runs -/

section Invariants

variable {P : Registry σ → Prop}
  (happend : ∀ (r : Registry σ) (entry : Registration σ),
    r.rules.rejecting? entry.extension.capabilities entry.position = none → P r →
    P (r.append entry))
  (happendType : ∀ (r : Registry σ) (type : TypeId), r.containsType type = false → P r →
    P (r.appendType type))

include happend happendType

theorem Grows.preserves {r r' : Registry σ} (h : Grows r r') (hr : P r) : P r' := by
  induction h with
  | refl => exact hr
  | append _ hallowed ih => exact happend _ _ hallowed ih
  | appendType _ hnew ih => exact happendType _ _ hnew ih

/-- What holds of empty scopes and is kept by appending holds of every reachable registry. -/
theorem Reachable.invariant
    (hbare : ∀ (id : ScopeId) (rules : PhaseRules) (factory : Factory σ), P (bare id rules factory))
    (hnested : ∀ (parent : Registry σ) (id : ScopeId), P parent → P (parent.nested id))
    {r : Registry σ} (h : r.Reachable) : P r := by
  induction h with
  | root hbuilt => exact (grows_root hbuilt).preserves happend happendType (hbare _ _ _)
  | child _ hbuilt ih =>
      exact (grows_child hbuilt).preserves happend happendType (hnested _ _ ih)
  | registerType type s _ ih =>
      exact (grows_registerType _ type s).preserves happend happendType ih
  | register _ hregister ih =>
      exact (grows_register hregister).preserves happend happendType ih

end Invariants

end Lifecycle.Registry
