import Lifecycle.Proofs.Forest.Building
import Lifecycle.Proofs.Registry.Growth
/-!
# Types on their own

Whether a new type can be registered is told by the rules and the factory, and not by what the
registry has already.  So types that can each be registered alone, in a root that has nothing, can
be registered together.
-/

namespace Lifecycle.Registry

variable {σ : Type}

/-- Registering a new type comes to the same, and leaves the world the same, in all registries of
one factory and one set of rules. -/
theorem registerType_eq_of_new {r r' : Registry σ} (hrules : r.rules = r'.rules)
    (hfactory : r.factory = r'.factory) {type : TypeId} (hnew : r.containsType type = false)
    (hnew' : r'.containsType type = false) (s : σ) :
    (r.registerType type s).1 = (r'.registerType type s).1 ∧
      (r.registerType type s).2.2 = (r'.registerType type s).2.2 := by
  unfold registerType
  rw [hnew, hnew', hfactory]
  obtain ⟨made, w⟩ := r'.factory.instantiate type s
  cases made with
  | error cause => exact ⟨rfl, rfl⟩
  | ok p =>
      simp only [Bool.false_eq_true, if_false, registerProvider_eq, hrules]
      cases r'.rules.rejecting? p.capabilities .default with
      | some phase => exact ⟨rfl, rfl⟩
      | none =>
          simp only
          cases ((p.sessionFor type).play r'.rules type w).outcome with
          | ok _ => exact ⟨rfl, rfl⟩
          | error e => exact ⟨rfl, rfl⟩

/-- A type can be registered alone: a root is built of it in any of the worlds, and the world is
then again one of them. -/
def RegistersAlone (rules : PhaseRules) (factory : Factory σ) (worlds : σ → Prop)
    (type : TypeId) : Prop :=
  ∀ s, worlds s → ∃ id r s', root id rules factory [type] s = (.ok r, s') ∧ worlds s'

section Alone

variable {rules : PhaseRules} {factory : Factory σ} {worlds : σ → Prop} {types : List TypeId}

/-- A type can be registered alone if the factory makes an extension that the rules allow at the
default position, and whose session under the rules succeeds. -/
theorem registersAlone_of_made {type : TypeId}
    (h : ∀ s, worlds s → ∃ p w, factory.instantiate type s = (.ok p, w) ∧
      rules.rejecting? p.capabilities .default = none ∧
      ((p.sessionFor type).play rules type w).outcome = .ok () ∧
      worlds ((p.sessionFor type).play rules type w).world) :
    RegistersAlone rules factory worlds type := by
  intro s hs
  obtain ⟨p, w, hmade, hallowed, houtcome, hworld⟩ := h s hs
  let id := ScopeId.numbered 0
  have hnew : (bare id rules factory).containsType type = false := rfl
  have hregister : ∃ r, (bare id rules factory).registerType type s =
      (.ok true, r, ((p.sessionFor type).play rules type w).world) := by
    have hrules : (bare id rules factory).rules = rules := rfl
    have hfactory : (bare id rules factory).factory = factory := rfl
    simp only [registerType, hnew, hfactory, hmade, registerProvider_eq, hrules, hallowed, houtcome,
      Bool.false_eq_true, if_false]
    exact ⟨_, rfl⟩
  obtain ⟨r, hregister⟩ := hregister
  have hall : (bare id rules factory).registerTypes [type] s =
      (.ok (), r, ((p.sessionFor type).play rules type w).world) := by
    simp only [registerTypes, hregister]
  exact ⟨id, r, _, congrArg built hall, hworld⟩

theorem RegistersAlone.registerType {type : TypeId}
    (h : RegistersAlone rules factory worlds type) {r : Registry σ} (hrules : r.rules = rules)
    (hfactory : r.factory = factory) {s : σ} (hs : worlds s) :
    ∃ isNew r' s', r.registerType type s = (.ok isNew, r', s') ∧ worlds s' := by
  cases hknown : r.containsType type with
  | true => exact ⟨false, r, s, registerType_of_containsType hknown s, hs⟩
  | false =>
      obtain ⟨id, alone, s', hbuilt, hs'⟩ := h s hs
      have hroot : built ((bare id rules factory).registerTypes [type] s) = (.ok alone, s') :=
        hbuilt
      have hrules' : r.rules = (bare id rules factory).rules := hrules
      have hfactory' : r.factory = (bare id rules factory).factory := hfactory
      have hsame := registerType_eq_of_new hrules' hfactory' hknown rfl s
      rcases hregister : r.registerType type s with ⟨outcome, r', w⟩
      rcases halone : (bare id rules factory).registerType type s with ⟨outcome', _, w'⟩
      rw [hregister, halone] at hsame
      obtain ⟨rfl, rfl⟩ := hsame
      cases outcome with
      | error e =>
          simp only [registerTypes, halone, built, Prod.mk.injEq, reduceCtorEq, false_and] at hroot
      | ok isNew =>
          simp only [registerTypes, halone, built, Prod.mk.injEq] at hroot
          exact ⟨isNew, r', w, rfl, hroot.2 ▸ hs'⟩

theorem registerTypes_of_alone (h : ∀ type ∈ types, RegistersAlone rules factory worlds type)
    {r : Registry σ} (hrules : r.rules = rules) (hfactory : r.factory = factory) {s : σ}
    (hs : worlds s) : ∃ r' s', r.registerTypes types s = (.ok (), r', s') ∧ worlds s' := by
  induction types generalizing r s with
  | nil => exact ⟨r, s, rfl, hs⟩
  | cons type rest ih =>
      obtain ⟨isNew, r', s', hfirst, hs'⟩ :=
        (h type List.mem_cons_self).registerType hrules hfactory hs
      have hgrows : r.Grows r' := by
        have hall := grows_registerType r type s
        rwa [hfirst] at hall
      obtain ⟨r'', s'', hrest, hs''⟩ := ih (fun t ht => h t (List.mem_cons_of_mem type ht))
        (hgrows.begins.rules.trans hrules) (hgrows.factory_eq.trans hfactory) hs'
      refine ⟨r'', s'', ?_, hs''⟩
      simp only [registerTypes, hfirst, hrest]

theorem types_of_root {id : ScopeId} {s s' : σ} {r : Registry σ}
    (h : root id rules factory types s = (.ok r, s')) : r.types = types.eraseDups := by
  have hbuilds := buildsOfNew_root id rules factory types
  obtain ⟨_, -, -, hturn⟩ := hbuilds.inTurn s
  have hnew : (root id rules factory types.eraseDups s).1 = .ok r := by
    rw [← hbuilds.same s, h]
  have hancestors : r.ancestors = [] := by
    rw [(grows_root (congrArg Prod.fst h)).eq_with_scope]
    rfl
  rw [types_eq, hancestors, (hturn.whole r hnew).1]
  rfl

/-- A root can be built of types that can each be registered alone, and then it has each of them
once. -/
theorem exists_root_of_alone (h : ∀ type ∈ types, RegistersAlone rules factory worlds type)
    (id : ScopeId) {s : σ} (hs : worlds s) :
    ∃ r s', root id rules factory types s = (.ok r, s') ∧ worlds s' ∧
      r.types = types.eraseDups := by
  obtain ⟨r, s', hregister, hs'⟩ := registerTypes_of_alone h (r := bare id rules factory) rfl rfl hs
  have hbuilt : root id rules factory types s = (.ok r, s') := congrArg built hregister
  exact ⟨r, s', hbuilt, hs', types_of_root hbuilt⟩

end Alone

end Lifecycle.Registry
