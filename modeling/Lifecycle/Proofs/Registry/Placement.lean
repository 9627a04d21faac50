import Lifecycle.Proofs.Registry.Lookup
import Lifecycle.Proofs.Registry.Reachable
/-!
# Allowed positions

In every run each registration holds a position that all of its phases allow.  Sorting only looks
for conflicts at the allowed positions of a phase; with the invariant there are no others to look
at, so that a lookup which succeeds gives each position that can be held once to one registration
at most.
-/

namespace Lifecycle.Registry

variable {σ : Type}

@[simp] theorem entries_nested (r : Registry σ) (id : ScopeId) :
    (r.nested id).entries = r.entries := by
  simp [entries, chain, nested]

/-- Every registration of the chain holds a position that all of its phases allow. -/
def Placed (r : Registry σ) : Prop :=
  ∀ entry ∈ r.entries, ∀ phase, entry.participates phase = true →
    (r.rules.ruleFor phase).allows entry.position = true

theorem Placed.append {r : Registry σ} {entry : Registration σ} (h : r.Placed)
    (hallowed : r.rules.rejecting? entry.extension.capabilities entry.position = none) :
    (r.append entry).Placed := by
  intro e he phase hphase
  rw [entries_append, List.mem_append, List.mem_singleton] at he
  rcases he with he | rfl
  · exact h e he phase hphase
  · exact PhaseRules.rejecting?_eq_none_iff.mp hallowed phase hphase

theorem Placed.appendType {r : Registry σ} (h : r.Placed) (type : TypeId) :
    (r.appendType type).Placed := by
  intro e he
  rw [entries_appendType] at he
  exact h e he

theorem Placed.nested {r : Registry σ} (h : r.Placed) (id : ScopeId) : (r.nested id).Placed := by
  intro e he
  rw [entries_nested] at he
  exact h e he

theorem Reachable.placed {r : Registry σ} (h : r.Reachable) : r.Placed := by
  refine h.invariant ?_ ?_ ?_ ?_
  · intro r entry hallowed hr
    exact hr.append hallowed
  · intro r type _ hr
    exact hr.appendType type
  · intro id rules factory entry hentry
    simp [entries, chain, bare] at hentry
  · intro parent id hparent
    exact hparent.nested id

theorem mem_participants {r : Registry σ} {phase : Phase} {entry : Registration σ} :
    entry ∈ r.participants phase ↔ entry ∈ r.entries ∧ entry.participates phase = true := by
  rw [← filter_entries, List.mem_filter]

theorem Placed.countP_le_one {r : Registry σ} (h : r.Placed) {phase : Phase}
    {entries : List (Registration σ)} (hlookup : r.lookupEntries phase = .ok entries)
    {p : Position} (hp : p.isUnique = true) : entries.countP (fun e => e.position = p) ≤ 1 := by
  obtain ⟨hnone, rfl⟩ := lookupEntries_eq_ok_iff.mp hlookup
  rw [(Direction.arrange_perm _ _).countP_eq]
  by_cases hallowed : p ∈ (r.rules.ruleFor phase).allowed
  · have hfree : ¬ 2 ≤ (r.participants phase).countP fun e => e.position = p :=
      fun hcount => hnone p hallowed ⟨hp, hcount⟩
    omega
  · -- nothing that takes part can hold a position that the phase does not allow
    have hzero : (r.participants phase).countP (fun e => e.position = p) = 0 := by
      rw [List.countP_eq_zero]
      intro e he hposition
      obtain ⟨hentry, hphase⟩ := mem_participants.mp he
      have hallows := h e hentry phase hphase
      rw [of_decide_eq_true hposition] at hallows
      exact hallowed (by simpa [PhaseRule.allows] using hallows)
    omega

/-- **Positions are allowed and edges are held once.**  In every run, whatever rules are set, each
registration of the chain holds a position that all of its phases allow; and if a lookup succeeds,
each position that can be held once has at most one holder in its result, whether or not the phase
allows that position. -/
theorem positions_allowed_and_edges_held_once {r : Registry σ} (h : r.Reachable) :
    (∀ entry ∈ r.entries, ∀ phase, entry.extension.capabilities.includes phase = true →
      entry.position ∈ (r.rules.ruleFor phase).allowed) ∧
    ∀ phase entries, r.lookupEntries phase = .ok entries →
      ∀ p ∈ [Position.outermost, .first, .innermost, .last],
        entries.countP (fun e => e.position = p) ≤ 1 := by
  refine ⟨?_, ?_⟩
  · intro entry hentry phase hphase
    have hallows := h.placed entry hentry phase hphase
    simpa [PhaseRule.allows] using hallows
  · intro phase entries hlookup p hp
    have hunique : p.isUnique = true := by
      simp only [List.mem_cons, List.not_mem_nil, or_false] at hp
      rcases hp with rfl | rfl | rfl | rfl <;> rfl
    exact h.placed.countP_le_one hlookup hunique

/-- A registrar passes over the refusal of a child and registers two others at positions of one
rank, in a phase whose rule names a position twice. -/
theorem positions_of_one_rank_held_once :
    let rules := PhaseRules.empty.set .beforeEach
      ⟨[.first, .default, .outermost, .default], .backward⟩
    let child (name : String) : Extension Unit := ⟨name, Phase.beforeEach.toSet, Callback.idle⟩
    let session : Session Unit :=
      .register (child "inner") .innermost fun _ =>
        .register (child "first") .first fun _ =>
          .register (child "outer") .outermost .finish
    let factory : Factory Unit := ⟨fun _ s =>
      (.ok { child "edges" with registrar? := some fun _ => session }, s)⟩
    let r := ((bare (ScopeId.numbered 0) rules factory).registerType
      ⟨"acme", "edges"⟩ ()).2.1
    r.entries.map (·.position) = [.default, .first, .outermost] ∧
      (∀ entry ∈ r.entries, ∀ phase, entry.extension.capabilities.includes phase = true →
        entry.position ∈ (r.rules.ruleFor phase).allowed) ∧
      ∀ phase entries, r.lookupEntries phase = .ok entries →
        ∀ p ∈ [Position.outermost, .first, .innermost, .last],
          entries.countP (fun e => e.position = p) ≤ 1 := by
  refine ⟨by decide, positions_allowed_and_edges_held_once (.registerType _ () ?_)⟩
  have hbuilt : ∀ rules (factory : Factory Unit),
      (Registry.root (ScopeId.numbered 0) rules factory [] ()).1 =
        .ok (bare (ScopeId.numbered 0) rules factory) := fun _ _ => rfl
  exact .root (hbuilt _ _)

end Lifecycle.Registry
