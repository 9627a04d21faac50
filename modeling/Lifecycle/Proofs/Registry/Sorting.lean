import Lifecycle.Registry.Order
import Mathlib.Data.List.Basic
/-!
# The sort by rank, layer by layer

Sorting registrations is concatenating their layers: those of the outermost rank as they come, then
those of the next one, down to the innermost.  The layers are plain filters, so that what holds of
an order of application is read off them without opening the sort.  Sorting is refused exactly if
an allowed position is contested, and then the first such position is reported.
-/

namespace Lifecycle

variable {σ : Type}

def Position.ranks : List Nat := [1, 2, 3, 4, 5]

theorem Position.rank_mem_ranks (p : Position) : p.rank ∈ ranks := by
  cases p <;> decide

theorem Position.pairwise_ranks : ranks.Pairwise (· < ·) := by
  decide

/-- The registrations of one rank, as they come. -/
def layer (n : Nat) (entries : List (Registration σ)) : List (Registration σ) :=
  entries.filter fun e => e.position.rank = n

/-- The layers of all the ranks, from the outside in. -/
def layers (entries : List (Registration σ)) : List (Registration σ) :=
  Position.ranks.flatMap fun n => layer n entries

theorem rank_of_mem_layer {n : Nat} {entries : List (Registration σ)} {e : Registration σ}
    (he : e ∈ layer n entries) : e.position.rank = n := by
  simpa using (List.mem_filter.mp he).2

/-! ## Sorted lists are their layers -/

private theorem eq_filter_append_filter {α : Type} (key : α → Nat) (k : Nat) (xs : List α)
    (hsorted : xs.Pairwise fun a b => key a ≤ key b) (hle : ∀ x ∈ xs, k ≤ key x) :
    xs = (xs.filter fun x => key x = k) ++ xs.filter fun x => key x ≠ k := by
  induction xs with
  | nil => rfl
  | cons x xs ih =>
      obtain ⟨hx, hxs⟩ := List.pairwise_cons.mp hsorted
      have hrest := ih hxs fun y hy => hle y (List.mem_cons_of_mem x hy)
      by_cases hk : key x = k
      · simp only [List.filter_cons, hk, decide_true, if_true, ne_eq, not_true_eq_false,
          decide_false, Bool.false_eq_true, if_false, List.cons_append]
        exact congrArg (x :: ·) hrest
      · -- `x` is beyond `k`, and so is everything after it
        have hlt : k < key x := by
          have := hle x List.mem_cons_self
          omega
        have hnone : xs.filter (fun y => key y = k) = [] := by
          rw [List.filter_eq_nil_iff]
          intro y hy
          have := hx y hy
          simp only [decide_eq_true_eq]
          omega
        rw [hnone, List.nil_append] at hrest
        simp only [List.filter_cons, hk, decide_false, Bool.false_eq_true, if_false, ne_eq,
          not_false_eq_true, decide_true, if_true, hnone, List.nil_append]
        exact congrArg (x :: ·) hrest

private theorem eq_flatMap_filter {α : Type} (key : α → Nat) (ks : List Nat)
    (hks : ks.Pairwise (· < ·)) (xs : List α) (hsorted : xs.Pairwise fun a b => key a ≤ key b)
    (hmem : ∀ x ∈ xs, key x ∈ ks) :
    xs = ks.flatMap fun k => xs.filter fun x => key x = k := by
  induction ks generalizing xs with
  | nil =>
      have hnil : xs = [] := List.eq_nil_iff_forall_not_mem.mpr fun x hx => by
        simpa using hmem x hx
      rw [hnil]
      rfl
  | cons k ks ih =>
      obtain ⟨hk, hks⟩ := List.pairwise_cons.mp hks
      have hle : ∀ x ∈ xs, k ≤ key x := by
        intro x hx
        rcases List.mem_cons.mp (hmem x hx) with h | h
        · omega
        · exact Nat.le_of_lt (hk _ h)
      have hrest := ih hks (xs.filter fun x => key x ≠ k) (hsorted.filter _) (by
        intro x hx
        obtain ⟨hx, hne⟩ := List.mem_filter.mp hx
        rcases List.mem_cons.mp (hmem x hx) with h | h
        · exact absurd h (by simpa using hne)
        · exact h)
      have hlayers : (ks.flatMap fun k' =>
            (xs.filter fun x => key x ≠ k).filter fun x => key x = k') =
          ks.flatMap fun k' => xs.filter fun x => key x = k' := by
        apply List.flatMap_congr
        intro k' hk'
        have hne : k < k' := hk k' hk'
        rw [List.filter_filter]
        apply List.filter_congr
        intro x _
        by_cases h : key x = k'
        · have hk : key x ≠ k := by omega
          rw [decide_eq_true h, decide_eq_true hk, Bool.and_self]
        · rw [decide_eq_false h, Bool.false_and]
      calc xs = (xs.filter fun x => key x = k) ++ xs.filter fun x => key x ≠ k :=
            eq_filter_append_filter key k xs hsorted hle
        _ = _ := by rw [hrest, hlayers, List.flatMap_cons]

theorem layers_of_pairwise {entries : List (Registration σ)}
    (hsorted : entries.Pairwise fun a b => mayPrecede a b = true) : layers entries = entries := by
  have hranks : entries.Pairwise fun a b => a.position.rank ≤ b.position.rank :=
    hsorted.imp fun h => by simpa [mayPrecede] using h
  exact (eq_flatMap_filter (fun e : Registration σ => e.position.rank) Position.ranks
    Position.pairwise_ranks entries hranks fun e _ => e.position.rank_mem_ranks).symm

/-! ## The sort -/

/-- The sort is stable: it leaves the registrations of one rank as they come. -/
theorem layer_mergeSort (n : Nat) (entries : List (Registration σ)) :
    layer n (entries.mergeSort mayPrecede) = layer n entries := by
  have htied : (layer n entries).Pairwise fun a b => mayPrecede a b = true := by
    rw [List.pairwise_iff_forall_sublist]
    intro a b hab
    have ha := rank_of_mem_layer (hab.subset (by simp : a ∈ [a, b]))
    have hb := rank_of_mem_layer (hab.subset (by simp : b ∈ [a, b]))
    simp [mayPrecede, ha, hb]
  have hsub : (layer n entries).Sublist (entries.mergeSort mayPrecede) := by
    apply List.sublist_mergeSort
    · intro a b c hab hbc
      exact mayPrecede_trans hab hbc
    · exact mayPrecede_total
    · exact htied
    · exact List.filter_sublist
  have hlayer : (layer n entries).Sublist (layer n (entries.mergeSort mayPrecede)) := by
    have hself : layer n (layer n entries) = layer n entries :=
      List.filter_eq_self.mpr fun e he => by simpa using rank_of_mem_layer he
    have hfilter : (layer n (layer n entries)).Sublist (layer n (entries.mergeSort mayPrecede)) :=
      hsub.filter _
    rwa [hself] at hfilter
  have hlength : (layer n entries).length = (layer n (entries.mergeSort mayPrecede)).length :=
    ((List.mergeSort_perm entries mayPrecede).filter _).length_eq.symm
  exact (hlayer.eq_of_length hlength).symm

theorem pairwise_mergeSort (entries : List (Registration σ)) :
    (entries.mergeSort mayPrecede).Pairwise fun a b => mayPrecede a b = true := by
  apply List.pairwise_mergeSort
  · intro a b c hab hbc
    exact mayPrecede_trans hab hbc
  · exact mayPrecede_total

/-- **Sorting is concatenating the layers.** -/
theorem mergeSort_eq_layers (entries : List (Registration σ)) :
    entries.mergeSort mayPrecede = layers entries := by
  calc entries.mergeSort mayPrecede = layers (entries.mergeSort mayPrecede) :=
        (layers_of_pairwise (pairwise_mergeSort entries)).symm
    _ = layers entries := by simp only [layers, layer_mergeSort]

theorem pairwise_layers (entries : List (Registration σ)) :
    (layers entries).Pairwise fun a b => a.position.rank ≤ b.position.rank := by
  rw [← mergeSort_eq_layers]
  exact (pairwise_mergeSort entries).imp fun h => by simpa [mayPrecede] using h

theorem layers_perm (entries : List (Registration σ)) : (layers entries).Perm entries := by
  rw [← mergeSort_eq_layers]
  exact List.mergeSort_perm entries mayPrecede

/-! ## The layers of a part -/

theorem layers_filter (keep : Registration σ → Bool) (entries : List (Registration σ)) :
    layers (entries.filter keep) = (layers entries).filter keep := by
  unfold layers
  rw [List.filter_flatMap]
  apply List.flatMap_congr
  intro n _
  exact List.filter_comm _ keep entries

private theorem flatMap_sublist_flatMap {α β : Type} {f g : α → List β}
    (h : ∀ a, (f a).Sublist (g a)) (as : List α) : (as.flatMap f).Sublist (as.flatMap g) := by
  induction as with
  | nil => exact .slnil
  | cons a as ih =>
      rw [List.flatMap_cons, List.flatMap_cons]
      exact (h a).append ih

theorem layers_sublist {entries entries' : List (Registration σ)} (h : entries.Sublist entries') :
    (layers entries).Sublist (layers entries') :=
  flatMap_sublist_flatMap (fun _ => h.filter _) Position.ranks

/-! ## Contested positions -/

/-- A position that can be held once is held by several registrations. -/
def Contested (entries : List (Registration σ)) (p : Position) : Prop :=
  p.isUnique = true ∧ 2 ≤ entries.countP fun e => e.position = p

/-- The conflict of the registrations that hold a position, with their origins as they come. -/
def conflictAt (entries : List (Registration σ)) (phase : Phase) (p : Position) : Error :=
  .positionConflict p phase
    ((entries.filter fun e => e.position = p).map fun e => e.origin.display)

private theorem holders_eq_filter (entries : List (Registration σ)) (p : Position) :
    holders entries p = entries.filter fun e => e.position = p := by
  unfold holders
  apply List.filter_congr
  intro e _
  exact beq_eq_decide e.position p

theorem isCrowded_iff {entries : List (Registration σ)} {p : Position} :
    isCrowded entries p = true ↔ Contested entries p := by
  unfold isCrowded Contested
  rw [Bool.and_eq_true, decide_eq_true_eq, holders_eq_filter, List.countP_eq_length_filter]
  exact Iff.rfl

theorem sortEntries_eq_error_iff {entries : List (Registration σ)} {phase : Phase}
    {allowed : List Position} {e : Error} :
    sortEntries entries phase allowed = .error e ↔
      ∃ before p after, allowed = before ++ p :: after ∧ Contested entries p ∧
        (∀ q ∈ before, ¬ Contested entries q) ∧ e = conflictAt entries phase p := by
  unfold sortEntries
  constructor
  · intro h
    split at h
    · rename_i p hfind
      obtain ⟨hp, before, after, hallowed, hbefore⟩ := List.find?_eq_some_iff_append.mp hfind
      refine ⟨before, p, after, hallowed, isCrowded_iff.mp hp, ?_, ?_⟩
      · intro q hq hcontested
        simpa [isCrowded_iff.mpr hcontested] using hbefore q hq
      · rw [conflictAt, ← holders_eq_filter]
        exact (Except.error.inj h).symm
    · cases h
  · rintro ⟨before, p, after, hallowed, hp, hbefore, rfl⟩
    have hfind : allowed.find? (isCrowded entries) = some p := by
      rw [List.find?_eq_some_iff_append]
      refine ⟨isCrowded_iff.mpr hp, before, after, hallowed, ?_⟩
      intro q hq
      have := hbefore q hq
      rw [← isCrowded_iff, Bool.not_eq_true] at this
      rw [this, Bool.not_false]
    rw [hfind, conflictAt, ← holders_eq_filter]

theorem sortEntries_eq_ok_iff {entries sorted : List (Registration σ)} {phase : Phase}
    {allowed : List Position} :
    sortEntries entries phase allowed = .ok sorted ↔
      (∀ p ∈ allowed, ¬ Contested entries p) ∧ sorted = layers entries := by
  unfold sortEntries
  constructor
  · intro h
    split at h
    · cases h
    · rename_i hfind
      refine ⟨?_, ?_⟩
      · intro p hp hcontested
        exact List.find?_eq_none.mp hfind p hp (isCrowded_iff.mpr hcontested)
      · rw [← mergeSort_eq_layers]
        exact (Except.ok.inj h).symm
  · rintro ⟨hnone, rfl⟩
    have hfind : allowed.find? (isCrowded entries) = none := by
      rw [List.find?_eq_none]
      intro p hp hcrowded
      exact hnone p hp (isCrowded_iff.mp hcrowded)
    rw [hfind, ← mergeSort_eq_layers]

end Lifecycle
