import Lifecycle.Proofs.Registry.Placement
/-!
# The edges of an order

The two positions of the outermost rank stand for the same edge, and so do the two of the innermost
rank.  Sorting looks for conflicts position by position, so that an edge is held once only if no
phase allows both of its positions.  Then whoever holds an edge stands there, whatever the other
registrations of the chain are and whenever they were made.
-/

namespace Lifecycle

variable {σ : Type}

/-- No phase allows both positions of an edge. -/
def PhaseRules.EdgesApart (rules : PhaseRules) : Prop :=
  ∀ phase,
    ¬ (.outermost ∈ (rules.ruleFor phase).allowed ∧ .first ∈ (rules.ruleFor phase).allowed) ∧
    ¬ (.innermost ∈ (rules.ruleFor phase).allowed ∧ .last ∈ (rules.ruleFor phase).allowed)

theorem PhaseRules.edgesApart_builtin : PhaseRules.builtin.EdgesApart := by
  intro phase
  cases phase <;> decide

/-! ## Ranks -/

theorem Position.one_le_rank (p : Position) : 1 ≤ p.rank := by
  cases p <;> decide

theorem Position.rank_le_five (p : Position) : p.rank ≤ 5 := by
  cases p <;> decide

theorem Position.eq_of_rank_eq_one {p : Position} (h : p.rank = 1) :
    p = .outermost ∨ p = .first := by
  cases p <;> simp [rank] at h ⊢

theorem Position.eq_of_rank_eq_five {p : Position} (h : p.rank = 5) :
    p = .innermost ∨ p = .last := by
  cases p <;> simp [rank] at h ⊢

/-! ## The ends of the layers -/

private theorem length_le_countP {α : Type} {keep : α → Bool} {xs ys : List α}
    (hsub : xs.Sublist ys) (hall : ∀ x ∈ xs, keep x = true) : xs.length ≤ ys.countP keep := by
  have hcount : xs.countP keep = xs.length := List.countP_eq_length.mpr hall
  rw [← hcount]
  exact hsub.countP_le

/-- What is held once and ranks outermost has nothing in front of it. -/
theorem front_eq_nil {entries before after : List (Registration σ)} {entry : Registration σ}
    (honce : entries.countP (fun e => e.position.rank = 1) ≤ 1)
    (hsplit : layers entries = before ++ entry :: after) (hrank : entry.position.rank = 1) :
    before = [] := by
  have hsorted := pairwise_layers entries
  rw [hsplit, List.pairwise_append] at hsorted
  obtain ⟨-, -, hbefore⟩ := hsorted
  have hall : ∀ e ∈ before ++ [entry], decide (e.position.rank = 1) = true := by
    intro e he
    rcases List.mem_append.mp he with he | he
    · have hle := hbefore e he entry List.mem_cons_self
      have hge := e.position.one_le_rank
      simp only [decide_eq_true_eq]
      omega
    · rw [List.mem_singleton.mp he]
      simpa using hrank
  have hsub : (before ++ [entry]).Sublist (layers entries) := by
    rw [hsplit]
    exact (List.Sublist.refl before).append (by simp)
  have hlength := length_le_countP hsub hall
  rw [(layers_perm entries).countP_eq, List.length_append, List.length_singleton] at hlength
  exact List.eq_nil_of_length_eq_zero (by omega)

theorem back_eq_nil {entries before after : List (Registration σ)} {entry : Registration σ}
    (honce : entries.countP (fun e => e.position.rank = 5) ≤ 1)
    (hsplit : layers entries = before ++ entry :: after) (hrank : entry.position.rank = 5) :
    after = [] := by
  have hsorted := pairwise_layers entries
  rw [hsplit, List.pairwise_append] at hsorted
  obtain ⟨-, hrest, -⟩ := hsorted
  have hafter := (List.pairwise_cons.mp hrest).1
  have hall : ∀ e ∈ entry :: after, decide (e.position.rank = 5) = true := by
    intro e he
    rcases List.mem_cons.mp he with rfl | he
    · simpa using hrank
    · have hge := hafter e he
      have hle := e.position.rank_le_five
      simp only [decide_eq_true_eq]
      omega
  have hsub : (entry :: after).Sublist (layers entries) := by
    rw [hsplit]
    exact List.sublist_append_right before (entry :: after)
  have hlength := length_le_countP hsub hall
  rw [(layers_perm entries).countP_eq, List.length_cons] at hlength
  exact List.eq_nil_of_length_eq_zero (by omega)

namespace Registry

/-! ## Edges are held once -/

/-- An edge is held once if the phase allows only one of its positions. -/
theorem Placed.countP_edge_le_one {r : Registry σ} (h : r.Placed) {phase : Phase}
    {entries : List (Registration σ)} (hlookup : r.lookupEntries phase = .ok entries) {n : Nat}
    {p q : Position} (hedge : ∀ x : Position, x.rank = n → x = p ∨ x = q)
    (hp : p.isUnique = true) (hq : q.isUnique = true)
    (hapart : ¬ (p ∈ (r.rules.ruleFor phase).allowed ∧ q ∈ (r.rules.ruleFor phase).allowed)) :
    (r.participants phase).countP (fun e => e.position.rank = n) ≤ 1 := by
  have hallowed : ∀ e ∈ r.participants phase, e.position ∈ (r.rules.ruleFor phase).allowed := by
    intro e he
    obtain ⟨hentry, hphase⟩ := mem_participants.mp he
    simpa [PhaseRule.allows] using h e hentry phase hphase
  have honce : ∀ x : Position, x.isUnique = true →
      (r.participants phase).countP (fun e => e.position = x) ≤ 1 := by
    intro x hx
    have hcount := h.countP_le_one hlookup hx
    obtain ⟨-, rfl⟩ := lookupEntries_eq_ok_iff.mp hlookup
    rwa [(Direction.arrange_perm _ _).countP_eq] at hcount
  -- whoever holds the edge holds the one position of it that is allowed
  by_cases hpAllowed : p ∈ (r.rules.ruleFor phase).allowed
  · refine Nat.le_trans (List.countP_mono_left ?_) (honce p hp)
    intro e he hrank
    rcases hedge e.position (by simpa using hrank) with hposition | hposition
    · simpa using hposition
    · exact absurd ⟨hpAllowed, hposition ▸ hallowed e he⟩ hapart
  · refine Nat.le_trans (List.countP_mono_left ?_) (honce q hq)
    intro e he hrank
    rcases hedge e.position (by simpa using hrank) with hposition | hposition
    · exact absurd (hposition ▸ hallowed e he) hpAllowed
    · simpa using hposition

/-- The edges of a successful lookup: whoever ranks outermost is first of those applied forward,
and whoever ranks innermost is last of them. -/
theorem Placed.edges {r : Registry σ} (h : r.Placed) (hapart : r.rules.EdgesApart) {phase : Phase}
    {entries : List (Registration σ)} (hlookup : r.lookupEntries phase = .ok entries)
    {before after : List (Registration σ)} {entry : Registration σ}
    (hsplit : layers (r.participants phase) = before ++ entry :: after) :
    (entry.position.rank = 1 → before = []) ∧ (entry.position.rank = 5 → after = []) := by
  obtain ⟨houter, hinner⟩ := hapart phase
  refine ⟨fun hrank => ?_, fun hrank => ?_⟩
  · have honce := h.countP_edge_le_one hlookup (fun _ => Position.eq_of_rank_eq_one) rfl rfl houter
    exact front_eq_nil honce hsplit hrank
  · have honce := h.countP_edge_le_one hlookup (fun _ => Position.eq_of_rank_eq_five) rfl rfl hinner
    exact back_eq_nil honce hsplit hrank

/-- **Whoever holds an edge stands there.**  If no phase allows both positions of an edge, as under
the built-in rules, then in every run a registration at an outermost or first position has nothing
in front of it in a phase that is applied forward and nothing behind it in one that is applied
backward; and one at an innermost or last position is at the other end. -/
theorem edges_stand_at_the_ends :
    PhaseRules.builtin.EdgesApart ∧
    ∀ {r : Registry σ}, r.Reachable → r.rules.EdgesApart →
      ∀ {phase : Phase} {before after : List (Registration σ)} {entry : Registration σ},
        r.lookupEntries phase = .ok (before ++ entry :: after) →
        (entry.position ∈ [Position.outermost, .first] →
          (r.rules.direction phase = .forward → before = []) ∧
          (r.rules.direction phase = .backward → after = [])) ∧
        (entry.position ∈ [Position.innermost, .last] →
          (r.rules.direction phase = .forward → after = []) ∧
          (r.rules.direction phase = .backward → before = [])) := by
  refine ⟨PhaseRules.edgesApart_builtin, ?_⟩
  intro r hr hapart phase before after entry hlookup
  have hresult := (lookupEntries_eq_ok_iff.mp hlookup).2
  have hforward : r.rules.direction phase = .forward →
      (entry.position.rank = 1 → before = []) ∧ (entry.position.rank = 5 → after = []) := by
    intro hdirection
    rw [show (r.rules.ruleFor phase).direction = .forward from hdirection] at hresult
    exact hr.placed.edges hapart hlookup hresult.symm
  have hbackward : r.rules.direction phase = .backward →
      (entry.position.rank = 1 → after = []) ∧ (entry.position.rank = 5 → before = []) := by
    intro hdirection
    rw [show (r.rules.ruleFor phase).direction = .backward from hdirection] at hresult
    -- the layers themselves are the result read from its end
    have hsplit : layers (r.participants phase) = after.reverse ++ entry :: before.reverse := by
      rw [← List.reverse_reverse (layers _)]
      simp only [Direction.arrange] at hresult
      rw [← hresult]
      simp
    obtain ⟨houter, hinner⟩ := hr.placed.edges hapart hlookup hsplit
    exact ⟨fun h => List.reverse_eq_nil_iff.mp (houter h),
      fun h => List.reverse_eq_nil_iff.mp (hinner h)⟩
  refine ⟨fun hposition => ?_, fun hposition => ?_⟩
  · have hrank : entry.position.rank = 1 := by
      simp only [List.mem_cons, List.not_mem_nil, or_false] at hposition
      rcases hposition with h | h <;> rw [h] <;> rfl
    exact ⟨fun hd => (hforward hd).1 hrank, fun hd => (hbackward hd).1 hrank⟩
  · have hrank : entry.position.rank = 5 := by
      simp only [List.mem_cons, List.not_mem_nil, or_false] at hposition
      rcases hposition with h | h <;> rw [h] <;> rfl
    exact ⟨fun hd => (hforward hd).2 hrank, fun hd => (hbackward hd).2 hrank⟩

/-- A suite holds the innermost position from the start, and a leaf takes the first one last of all:
they stand at the two ends of what is torn down. -/
theorem late_edge_stands_at_the_end :
    let rules := PhaseRules.empty.set .afterEach ⟨[.first, .default, .innermost], .backward⟩
    let entry (name : String) (position : Position) : Registration Unit :=
      ⟨⟨name, Phase.afterEach.toSet, Callback.idle⟩, .programmatic name, position⟩
    let root := bare (ScopeId.numbered 0) rules Constructors.empty.toFactory
    let suite := root.append (entry "tx" .innermost)
    let leaf := ((suite.nested (ScopeId.numbered 1)).append (entry "data" .default)).append
      (entry "clock" .first)
    ∃ result, leaf.lookupEntries .afterEach = .ok result ∧
      result.map (·.extension.name) = ["tx", "data", "clock"] ∧
      ∀ before after holder, result = before ++ holder :: after →
        (holder.position = .first → after = []) ∧ (holder.position = .innermost → before = []) := by
  intro rules entry root suite leaf
  have hregister : ∀ {r : Registry Unit} {name : String} {position : Position}, r.Reachable →
      r.disallowing? Phase.afterEach.toSet position = none →
      (r.append (entry name position)).Reachable :=
    fun hr hallowed => .register hr (register_eq_ok_iff.mpr ⟨hallowed, rfl⟩)
  have hbuilt : (Registry.root (ScopeId.numbered 0) rules Constructors.empty.toFactory [] ()).1 =
      .ok root := rfl
  have hroot : root.Reachable := .root hbuilt
  have hsuite : suite.Reachable := hregister hroot (by decide)
  have hchild : (suite.child (ScopeId.numbered 1) [] ()).1 =
      .ok (suite.nested (ScopeId.numbered 1)) := rfl
  have hnested : (suite.nested (ScopeId.numbered 1)).Reachable := .child hsuite hchild
  have hleaf : leaf.Reachable := hregister (hregister hnested (by decide)) (by decide)
  have hapart : leaf.rules.EdgesApart := by
    intro phase
    cases phase <;> decide
  have hlookup : leaf.lookupEntries .afterEach =
      .ok (Direction.backward.arrange (leaf.participants .afterEach)) :=
    lookupEntries_eq_ok_iff.mpr ⟨by unfold Contested; decide, rfl⟩
  refine ⟨_, hlookup, by decide, ?_⟩
  intro before after holder hsplit
  rw [hsplit] at hlookup
  obtain ⟨houter, hinner⟩ := edges_stand_at_the_ends.2 hleaf hapart hlookup
  exact ⟨fun h => (houter (by simp [h])).2 rfl, fun h => (hinner (by simp [h])).2 rfl⟩

end Registry

end Lifecycle
