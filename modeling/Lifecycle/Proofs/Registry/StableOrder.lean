import Lifecycle.Proofs.Registry.Sorting
/-!
# The specification of sorting

Sorting looks for conflicts position by position, but it orders by rank, and two pairs of positions
share a rank.  What it gives is the stable order of the registrations by rank: there is just one
list that holds them all, does not step back in rank, and leaves those of each rank as they came.
-/

namespace Lifecycle

variable {σ : Type}

/-! ## The stable order -/

/-- The second list holds the registrations of the first one in the order of their ranks, those of
one rank as they came. -/
structure StablyOrdered (entries sorted : List (Registration σ)) : Prop where
  perm : sorted.Perm entries
  ordered : sorted.Pairwise fun a b => a.position.rank ≤ b.position.rank
  ties : ∀ n, layer n sorted = layer n entries

theorem layers_congr {entries entries' : List (Registration σ)}
    (h : ∀ n, layer n entries = layer n entries') : layers entries = layers entries' := by
  simp only [layers, h]

/-- The layers are the stable order, and they are the only one. -/
theorem stablyOrdered_iff {entries sorted : List (Registration σ)} :
    StablyOrdered entries sorted ↔ sorted = layers entries := by
  constructor
  · intro h
    have hsorted : sorted.Pairwise fun a b => mayPrecede a b = true :=
      h.ordered.imp fun hle => by simpa [mayPrecede] using hle
    calc sorted = layers sorted := (layers_of_pairwise hsorted).symm
      _ = layers entries := layers_congr h.ties
  · rintro rfl
    refine ⟨layers_perm entries, pairwise_layers entries, ?_⟩
    intro n
    rw [← mergeSort_eq_layers, layer_mergeSort]

theorem pair_sublist_layer_iff {entries : List (Registration σ)} {a b : Registration σ} {n : Nat}
    (ha : a.position.rank = n) (hb : b.position.rank = n) :
    [a, b].Sublist (layer n entries) ↔ [a, b].Sublist entries := by
  constructor
  · intro h
    exact h.trans List.filter_sublist
  · intro h
    have hpair : layer n [a, b] = [a, b] := by
      simp [layer, ha, hb]
    rw [← hpair]
    exact h.filter _

/-- Of two registrations of one rank, the one that came first stands first. -/
theorem StablyOrdered.pair_sublist_iff {entries sorted : List (Registration σ)}
    (h : StablyOrdered entries sorted) {a b : Registration σ}
    (hrank : a.position.rank = b.position.rank) :
    [a, b].Sublist sorted ↔ [a, b].Sublist entries := by
  calc [a, b].Sublist sorted ↔ [a, b].Sublist (layer b.position.rank sorted) :=
        (pair_sublist_layer_iff hrank rfl).symm
    _ ↔ [a, b].Sublist (layer b.position.rank entries) := by rw [h.ties]
    _ ↔ [a, b].Sublist entries := pair_sublist_layer_iff hrank rfl

/-! ## Sorting in terms of layers -/

theorem holders_layer (entries : List (Registration σ)) (p : Position) :
    holders (layer p.rank entries) p = holders entries p := by
  unfold holders layer
  rw [List.filter_filter]
  apply List.filter_congr
  intro e _
  by_cases hposition : e.position = p
  · simp [hposition]
  · simp [hposition]

theorem sortEntries_congr {entries entries' : List (Registration σ)}
    (h : ∀ n, layer n entries = layer n entries') (phase : Phase) (allowed : List Position) :
    sortEntries entries phase allowed = sortEntries entries' phase allowed := by
  have hholders : ∀ p, holders entries p = holders entries' p := by
    intro p
    rw [← holders_layer entries, ← holders_layer entries', h]
  have hcrowded : isCrowded entries = isCrowded entries' := by
    funext p
    rw [isCrowded, isCrowded, hholders]
  unfold sortEntries
  simp only [hcrowded, hholders, mergeSort_eq_layers, layers_congr h]

theorem exists_sortEntries_error_iff {entries : List (Registration σ)} {phase : Phase}
    {allowed : List Position} :
    (∃ e, sortEntries entries phase allowed = .error e) ↔ ∃ p ∈ allowed, Contested entries p := by
  cases hsort : sortEntries entries phase allowed with
  | error e =>
      obtain ⟨before, p, after, hallowed, hp, -, -⟩ := sortEntries_eq_error_iff.mp hsort
      exact iff_of_true ⟨e, rfl⟩ ⟨p, by simp [hallowed], hp⟩
  | ok sorted =>
      obtain ⟨hnone, -⟩ := sortEntries_eq_ok_iff.mp hsort
      refine iff_of_false (by simp) ?_
      rintro ⟨p, hp, hcontested⟩
      exact hnone p hp hcontested

/-- **Sorting meets its specification.**  It fails if and only if an allowed position that can be
held once is held by two registrations or more, and then the error names the first such position
of those allowed, with the origins of all its holders as they came.  Otherwise it gives the stable
order by rank and nothing else, in which two registrations of one rank, though their positions may
differ, stand as they came; and sorting that once more changes nothing. -/
theorem sorting_specified (entries : List (Registration σ)) (phase : Phase)
    (allowed : List Position) :
    ((∃ e, sortEntries entries phase allowed = .error e) ↔
      ∃ p ∈ allowed, p.isUnique = true ∧ 2 ≤ entries.countP fun e => e.position = p) ∧
    (∀ e, sortEntries entries phase allowed = .error e ↔
      ∃ before p after, allowed = before ++ p :: after ∧ Contested entries p ∧
        (∀ q ∈ before, ¬ Contested entries q) ∧
        e = .positionConflict p phase
          ((entries.filter fun e => e.position = p).map fun e => e.origin.display)) ∧
    (∀ sorted, sortEntries entries phase allowed = .ok sorted ↔
      (∀ p ∈ allowed, ¬ Contested entries p) ∧ StablyOrdered entries sorted) ∧
    ∀ sorted, sortEntries entries phase allowed = .ok sorted →
      (∀ a b, a.position.rank = b.position.rank →
        ([a, b].Sublist sorted ↔ [a, b].Sublist entries)) ∧
      sortEntries sorted phase allowed = .ok sorted := by
  refine ⟨exists_sortEntries_error_iff, fun e => sortEntries_eq_error_iff, ?_, ?_⟩
  · intro sorted
    rw [sortEntries_eq_ok_iff, stablyOrdered_iff]
  · intro sorted hsort
    have hordered : StablyOrdered entries sorted :=
      stablyOrdered_iff.mpr (sortEntries_eq_ok_iff.mp hsort).2
    refine ⟨fun a b hrank => hordered.pair_sublist_iff hrank, ?_⟩
    rw [sortEntries_congr hordered.ties, hsort]

/-- Four positions of the two edges, one of them held twice where it is not allowed: the holders of
an edge stay as they came, and the order is not changed by sorting it again. -/
theorem edges_shared_in_order :
    let entry (name : String) (position : Position) : Registration Unit :=
      ⟨⟨name, Phase.beforeEach.toSet, Callback.idle⟩, .programmatic name, position⟩
    let entries := [entry "tx" .last, entry "clock" .first, entry "report" .innermost,
      entry "data" .default, entry "timer" .outermost, entry "seed" .innermost]
    let allowed : List Position := [.first, .default, .last, .first, .outermost]
    ∃ sorted, sortEntries entries .beforeEach allowed = .ok sorted ∧
      sorted.map (·.extension.name) = ["clock", "timer", "data", "tx", "report", "seed"] ∧
      StablyOrdered entries sorted ∧ sortEntries sorted .beforeEach allowed = .ok sorted ∧
      sortEntries entries .beforeEach (.innermost :: allowed) = .error
        (.positionConflict .innermost .beforeEach ["programmatic report", "programmatic seed"]) := by
  intro entry entries allowed
  obtain ⟨-, -, hok, hagain⟩ := sorting_specified entries .beforeEach allowed
  obtain ⟨-, herror, -, -⟩ := sorting_specified entries .beforeEach (.innermost :: allowed)
  have hordered : StablyOrdered entries (layers entries) := stablyOrdered_iff.mpr rfl
  have hsort : sortEntries entries .beforeEach allowed = .ok (layers entries) :=
    (hok _).mpr ⟨by unfold Contested; decide, hordered⟩
  have hconflict := (herror _).mpr ⟨[], .innermost, allowed, rfl, by unfold Contested; decide,
    nofun, rfl⟩
  exact ⟨_, hsort, by decide, hordered, (hagain _ hsort).2, hconflict⟩

end Lifecycle
