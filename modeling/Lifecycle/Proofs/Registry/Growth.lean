import Lifecycle.Proofs.Registry.Lookup
import Lifecycle.Proofs.Registry.Reachable
/-!
# What a registry sees only grows

Registering appends, and a child sees its ancestors first.  In either case what one registry sees is
the beginning of what another one sees under the same rules.  A lookup of the one is then part of
the same lookup of the other, in the same order, and a conflict of the one is a conflict of the
other.
-/

namespace Lifecycle

variable {σ : Type}

theorem Contested.of_sublist {entries entries' : List (Registration σ)} {p : Position}
    (hsub : entries.Sublist entries') (h : Contested entries p) : Contested entries' p := by
  obtain ⟨hunique, htwo⟩ := h
  exact ⟨hunique, Nat.le_trans htwo hsub.countP_le⟩

theorem Direction.arrange_sublist (d : Direction) {entries entries' : List (Registration σ)}
    (h : entries.Sublist entries') : (d.arrange entries).Sublist (d.arrange entries') := by
  cases d with
  | forward => exact layers_sublist h
  | backward => exact (layers_sublist h).reverse

namespace Registry

/-- What the first registry sees is the beginning of what the second one sees, under its rules. -/
structure Begins (r r' : Registry σ) : Prop where
  rules : r'.rules = r.rules
  entries : r.entries <+: r'.entries
  types : r.types <+: r'.types

theorem Begins.refl (r : Registry σ) : r.Begins r := ⟨rfl, List.prefix_rfl, List.prefix_rfl⟩

theorem Begins.trans {r r' r'' : Registry σ} (h : r.Begins r') (h' : r'.Begins r'') :
    r.Begins r'' :=
  ⟨h'.rules.trans h.rules, h.entries.trans h'.entries, h.types.trans h'.types⟩

/-! ## Later, and further down -/

theorem Grows.begins {r r' : Registry σ} (h : Grows r r') : r.Begins r' := by
  induction h with
  | refl => exact .refl r
  | append _ _ ih =>
      refine ih.trans ⟨rfl, ?_, ?_⟩
      · simp
      · simp
  | appendType _ _ ih =>
      refine ih.trans ⟨rfl, ?_, ?_⟩
      · simp
      · simp

theorem Grows.scope_prefixes {r r' : Registry σ} (h : Grows r r') :
    r.scope.entries <+: r'.scope.entries ∧ r.scope.types <+: r'.scope.types := by
  induction h with
  | refl => exact ⟨List.prefix_rfl, List.prefix_rfl⟩
  | append _ _ ih => exact ⟨ih.1.trans (List.prefix_append _ _), ih.2⟩
  | appendType _ _ ih => exact ⟨ih.1, ih.2.trans (List.prefix_append _ _)⟩

theorem Grows.eq_with_scope {r r' : Registry σ} (h : Grows r r') :
    r' = { r with scope := r'.scope } := by
  induction h with
  | refl => rfl
  | append _ _ ih => exact congrArg (Registry.append · _) ih
  | appendType _ _ ih => exact congrArg (Registry.appendType · _) ih

theorem Grows.parent?_eq {r r' : Registry σ} (h : Grows r r') : r'.parent? = r.parent? := by
  rw [h.eq_with_scope]
  rfl

theorem Grows.factory_eq {r r' : Registry σ} (h : Grows r r') : r'.factory = r.factory := by
  rw [h.eq_with_scope]

theorem parent?_nested (r : Registry σ) (id : ScopeId) : (r.nested id).parent? = some r := rfl

theorem begins_of_parent? {r parent : Registry σ} (h : r.parent? = some parent) :
    parent.Begins r := by
  unfold parent? at h
  split at h
  · cases h
  · rename_i scope ancestors hancestors
    obtain rfl := Option.some.inj h
    refine ⟨rfl, ?_, ?_⟩
    · rw [entries_eq r, hancestors, List.reverse_cons, List.flatMap_append,
        List.flatMap_singleton, entries_eq]
      exact List.prefix_append _ _
    · rw [types_eq r, hancestors, List.reverse_cons, List.flatMap_append,
        List.flatMap_singleton, types_eq]
      exact List.prefix_append _ _

/-! ## Lookups -/

theorem Begins.containsType {r r' : Registry σ} (h : r.Begins r') {type : TypeId}
    (hcontains : r.containsType type = true) : r'.containsType type = true := by
  unfold Registry.containsType at *
  rw [List.contains_iff_mem] at *
  exact h.types.subset hcontains

theorem Begins.participants {r r' : Registry σ} (h : r.Begins r') (phase : Phase) :
    r.participants phase <+: r'.participants phase := by
  rw [← filter_entries, ← filter_entries]
  exact h.entries.filter _

/-- If a lookup succeeds, it did so for what was seen at the beginning, and gave a part of the
result in the same order. -/
theorem Begins.lookupEntries_ok {r r' : Registry σ} (h : r.Begins r') {phase : Phase}
    {result : List (Registration σ)} (hlookup : r'.lookupEntries phase = .ok result) :
    ∃ earlier, r.lookupEntries phase = .ok earlier ∧ earlier.Sublist result := by
  obtain ⟨hnone, rfl⟩ := lookupEntries_eq_ok_iff.mp hlookup
  -- both the conflicts and the arranged result are monotone in the participants
  have hsub := (h.participants phase).sublist
  refine ⟨(r.rules.ruleFor phase).direction.arrange (r.participants phase), ?_, ?_⟩
  · refine lookupEntries_eq_ok_iff.mpr ⟨?_, rfl⟩
    intro p hp hcontested
    rw [h.rules] at hnone
    exact hnone p hp (hcontested.of_sublist hsub)
  · rw [h.rules]
    exact Direction.arrange_sublist _ hsub

/-- A lookup that fails keeps failing, though another position may be reported. -/
theorem Begins.lookupEntries_error {r r' : Registry σ} (h : r.Begins r') {phase : Phase} {e : Error}
    (hlookup : r.lookupEntries phase = .error e) :
    ∃ p origins, r'.lookupEntries phase = .error (.positionConflict p phase origins) := by
  cases hlater : r'.lookupEntries phase with
  | ok result =>
      obtain ⟨earlier, hok, -⟩ := h.lookupEntries_ok hlater
      rw [hlookup] at hok
      cases hok
  | error e' =>
      obtain ⟨before, p, after, -, -, -, rfl⟩ := lookupEntries_eq_error_iff.mp hlater
      exact ⟨p, _, rfl⟩

end Registry

end Lifecycle
