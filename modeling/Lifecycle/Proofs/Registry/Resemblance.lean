import Lifecycle.Proofs.Registry.Reachable
import Lifecycle.Proofs.Registry.StableOrder
import Mathlib.Data.List.Forall2
/-!
# Registries that resemble each other

Within a scope the order of registrations matters only among those of one rank that take part in
one phase.  Registries that differ in nothing but the rest of that order resemble each other: they
are looked up alike, and whatever is registered in both or built below both, with the same outcome,
leaves them so.
-/

namespace Lifecycle

variable {σ : Type}

/-! ## Registrations in another order -/

/-- No phase tells the registrations apart: those of a phase and a rank stand in the same order. -/
def SameByPhase (entries entries' : List (Registration σ)) : Prop :=
  ∀ phase n, layer n (entries.filter fun e => e.participates phase) =
    layer n (entries'.filter fun e => e.participates phase)

/-- Registrations of different ranks, or with no phase that both of them take part in. -/
def Registration.Independent (a b : Registration σ) : Prop :=
  a.position.rank ≠ b.position.rank ∨
    ∀ phase, ¬ (a.participates phase = true ∧ b.participates phase = true)

theorem SameByPhase.refl (entries : List (Registration σ)) : SameByPhase entries entries :=
  fun _ _ => rfl

theorem SameByPhase.append {first first' second second' : List (Registration σ)}
    (h : SameByPhase first first') (h' : SameByPhase second second') :
    SameByPhase (first ++ second) (first' ++ second') := by
  intro phase n
  have hfirst := h phase n
  have hsecond := h' phase n
  unfold layer at *
  rw [List.filter_append, List.filter_append, List.filter_append, List.filter_append, hfirst,
    hsecond]

theorem Registration.Independent.sameByPhase {a b : Registration σ} (h : a.Independent b) :
    SameByPhase [a, b] [b, a] := by
  intro phase n
  unfold layer
  rw [List.filter_filter, List.filter_filter]
  -- at most one of the two is of the rank and takes part in the phase
  have hone : ¬ ((a.position.rank = n ∧ a.participates phase = true) ∧
      b.position.rank = n ∧ b.participates phase = true) := by
    rintro ⟨⟨harank, haphase⟩, hbrank, hbphase⟩
    rcases h with hrank | hphase
    · exact hrank (harank.trans hbrank.symm)
    · exact hphase phase ⟨haphase, hbphase⟩
  by_cases ha : a.position.rank = n ∧ a.participates phase = true
  · have hb : ¬ (b.position.rank = n ∧ b.participates phase = true) := fun hb => hone ⟨ha, hb⟩
    simp [ha, hb]
  · simp [List.filter_cons, ha]

theorem SameByPhase.sortEntries_eq {entries entries' : List (Registration σ)}
    (h : SameByPhase entries entries') (phase : Phase) (allowed : List Position) :
    sortEntries (entries.filter fun e => e.participates phase) phase allowed =
      sortEntries (entries'.filter fun e => e.participates phase) phase allowed :=
  sortEntries_congr (h phase) phase allowed

/-! ## Scopes and registries -/

/-- The scopes differ at most in an order that no phase tells apart. -/
structure Scope.Resembles (scope scope' : Scope σ) : Prop where
  id : scope.id = scope'.id
  types : scope.types = scope'.types
  entries : SameByPhase scope.entries scope'.entries

theorem Scope.Resembles.refl (scope : Scope σ) : scope.Resembles scope := ⟨rfl, rfl, .refl _⟩

private theorem sameByPhase_flatMap {scopes scopes' : List (Scope σ)}
    (h : List.Forall₂ Scope.Resembles scopes scopes') :
    SameByPhase (scopes.flatMap (·.entries)) (scopes'.flatMap (·.entries)) := by
  induction h with
  | nil => exact .refl []
  | cons hscope _ ih => exact hscope.entries.append ih

private theorem types_flatMap {scopes scopes' : List (Scope σ)}
    (h : List.Forall₂ Scope.Resembles scopes scopes') :
    scopes.flatMap (·.types) = scopes'.flatMap (·.types) := by
  induction h with
  | nil => rfl
  | cons hscope _ ih => rw [List.flatMap_cons, List.flatMap_cons, hscope.types, ih]

/-- Both fail with the same error, or what both give is related. -/
inductive AlikeResults {ε α : Type} (related : α → α → Prop) : Except ε α → Except ε α → Prop where
  | error (e : ε) : AlikeResults related (.error e) (.error e)
  | ok {a a' : α} : related a a' → AlikeResults related (.ok a) (.ok a')

theorem AlikeResults.map_eq {ε α β : Type} {related : α → α → Prop} {x x' : Except ε α}
    (h : AlikeResults related x x') {g : α → β} (hg : ∀ a a', related a a' → g a = g a') :
    x.map g = x'.map g := by
  cases h with
  | error e => rfl
  | ok hrelated => exact congrArg Except.ok (hg _ _ hrelated)

namespace Registry

/-- The registries differ at most in an order that no phase tells apart. -/
structure Resembles (r r' : Registry σ) : Prop where
  rules : r.rules = r'.rules
  factory : r.factory = r'.factory
  scope : r.scope.Resembles r'.scope
  ancestors : List.Forall₂ Scope.Resembles r.ancestors r'.ancestors

theorem Resembles.refl (r : Registry σ) : r.Resembles r :=
  ⟨rfl, rfl, .refl _, List.forall₂_same.mpr fun scope _ => .refl scope⟩

theorem Resembles.chain {r r' : Registry σ} (h : r.Resembles r') :
    List.Forall₂ Scope.Resembles r.chain r'.chain :=
  List.rel_reverse (.cons h.scope h.ancestors)

theorem Resembles.entries {r r' : Registry σ} (h : r.Resembles r') :
    SameByPhase r.entries r'.entries :=
  sameByPhase_flatMap h.chain

theorem Resembles.types {r r' : Registry σ} (h : r.Resembles r') : r.types = r'.types :=
  types_flatMap h.chain

theorem Resembles.lookupEntries_eq {r r' : Registry σ} (h : r.Resembles r') (phase : Phase) :
    r.lookupEntries phase = r'.lookupEntries phase := by
  simp only [lookupEntries, h.rules, h.entries.sortEntries_eq]

theorem Resembles.containsType_eq {r r' : Registry σ} (h : r.Resembles r') (type : TypeId) :
    r.containsType type = r'.containsType type := by
  rw [containsType, containsType, h.types]

/-! ## Registering in both -/

theorem Resembles.extend {r r' : Registry σ} (h : r.Resembles r')
    {added added' : List (Registration σ)} (hadded : SameByPhase added added') :
    (r.extend added).Resembles (r'.extend added') :=
  ⟨h.rules, h.factory, ⟨h.scope.id, h.scope.types, h.scope.entries.append hadded⟩, h.ancestors⟩

theorem Resembles.appendType {r r' : Registry σ} (h : r.Resembles r') (type : TypeId) :
    (r.appendType type).Resembles (r'.appendType type) :=
  ⟨h.rules, h.factory, ⟨h.scope.id, congrArg (· ++ [type]) h.scope.types, h.scope.entries⟩,
    h.ancestors⟩

theorem Resembles.nested {r r' : Registry σ} (h : r.Resembles r') (id : ScopeId) :
    (r.nested id).Resembles (r'.nested id) :=
  ⟨h.rules, h.factory, .refl _, .cons h.scope h.ancestors⟩

/-- Two operations have the same outcome and leave the same world, and what they leave of the
registries resembles each other. -/
def AlikeOutcomes {α : Type} (done done' : α × Registry σ × σ) : Prop :=
  done.1 = done'.1 ∧ done.2.1.Resembles done'.2.1 ∧ done.2.2 = done'.2.2

theorem Resembles.registerType {r r' : Registry σ} (h : r.Resembles r') (type : TypeId) (s : σ) :
    AlikeOutcomes (r.registerType type s) (r'.registerType type s) := by
  unfold Registry.registerType
  rw [h.containsType_eq, h.factory]
  by_cases hknown : r'.containsType type = true
  · rw [if_pos hknown, if_pos hknown]
    exact ⟨rfl, h, rfl⟩
  rw [if_neg hknown, if_neg hknown]
  obtain ⟨made, w⟩ := r'.factory.instantiate type s
  cases made with
  | error cause => exact ⟨rfl, h, rfl⟩
  | ok p =>
      simp only [registerProvider_eq, h.rules]
      cases r'.rules.rejecting? p.capabilities .default with
      | some phase => exact ⟨rfl, h, rfl⟩
      | none =>
          have hextend := h.extend
            (.refl (p.own ++ ((p.sessionFor type).play r'.rules type w).accepted))
          cases ((p.sessionFor type).play r'.rules type w).outcome with
          | ok _ => exact ⟨rfl, hextend.appendType type, rfl⟩
          | error e => exact ⟨rfl, hextend, rfl⟩

theorem Resembles.registerTypes {r r' : Registry σ} (h : r.Resembles r') (types : List TypeId)
    (s : σ) : AlikeOutcomes (r.registerTypes types s) (r'.registerTypes types s) := by
  induction types generalizing r r' s with
  | nil => exact ⟨rfl, h, rfl⟩
  | cons type rest ih =>
      have hfirst := h.registerType type s
      unfold Registry.registerTypes
      generalize r.registerType type s = done, r'.registerType type s = done' at hfirst ⊢
      obtain ⟨outcome, r₁, w⟩ := done
      obtain ⟨outcome', r₁', w'⟩ := done'
      obtain ⟨rfl : outcome = outcome', hregistry, rfl : w = w'⟩ := hfirst
      cases outcome with
      | ok _ => exact ih hregistry w
      | error e => exact ⟨rfl, hregistry, rfl⟩

theorem Resembles.child {r r' : Registry σ} (h : r.Resembles r') (id : ScopeId)
    (types : List TypeId) (s : σ) :
    AlikeResults Resembles (r.child id types s).1 (r'.child id types s).1 ∧
      (r.child id types s).2 = (r'.child id types s).2 := by
  have hall := (h.nested id).registerTypes types s
  have hchild : ∀ parent : Registry σ,
      parent.child id types s = built ((parent.nested id).registerTypes types s) := fun _ => rfl
  rw [hchild, hchild]
  generalize (r.nested id).registerTypes types s = done,
    (r'.nested id).registerTypes types s = done' at hall ⊢
  obtain ⟨outcome, r₁, w⟩ := done
  obtain ⟨outcome', r₁', w'⟩ := done'
  obtain ⟨rfl : outcome = outcome', hregistry, hworld⟩ := hall
  cases outcome with
  | ok _ => exact ⟨.ok hregistry, hworld⟩
  | error e => exact ⟨.error e, hworld⟩

end Registry

end Lifecycle
