import Lifecycle.Text.Blank
import Mathlib.Data.List.DropRight
/-!
# Trimming

A text is what is left of it after trimming, with blanks on both sides, and blanks added to a side
do not change what is left.
-/

namespace Lifecycle.Text

def Blank (s : List Char) : Prop := ∀ c ∈ s, isBlank c = true

instance (s : List Char) : Decidable (Blank s) :=
  decidable_of_iff (s.all isBlank = true) List.all_eq_true

theorem blank_append {s t : List Char} : Blank (s ++ t) ↔ Blank s ∧ Blank t :=
  List.forall_mem_append

theorem trim_eq (s : List Char) : trim s = (s.dropWhile isBlank).rdropWhile isBlank := rfl

theorem trim_append_left {l : List Char} (hl : Blank l) (s : List Char) :
    trim (l ++ s) = trim s := by
  rw [trim_eq, trim_eq, List.dropWhile_append_of_pos hl]

theorem rdropWhile_append_blank {r : List Char} (hr : Blank r) (s : List Char) :
    (s ++ r).rdropWhile isBlank = s.rdropWhile isBlank := by
  have hback : ∀ c ∈ r.reverse, isBlank c = true := fun c hc => hr c (List.mem_reverse.mp hc)
  rw [List.rdropWhile, List.reverse_append, List.dropWhile_append_of_pos hback, List.rdropWhile]

theorem trim_append_right {r : List Char} (hr : Blank r) (s : List Char) :
    trim (s ++ r) = trim s := by
  rw [trim_eq, trim_eq, List.dropWhile_append]
  split
  · next hnone =>
      rw [List.isEmpty_iff.mp hnone, List.dropWhile_eq_nil_iff.mpr hr]
  · exact rdropWhile_append_blank hr _

theorem exists_eq_append_trim (s : List Char) :
    ∃ l r, Blank l ∧ Blank r ∧ s = l ++ trim s ++ r := by
  refine ⟨s.takeWhile isBlank, (s.dropWhile isBlank).rtakeWhile isBlank, ?_, ?_, ?_⟩
  · intro c hc
    exact List.mem_takeWhile_imp hc
  · intro c hc
    exact List.mem_rtakeWhile_imp hc
  · rw [trim_eq, List.append_assoc, List.rdropWhile_append_rtakeWhile,
      List.takeWhile_append_dropWhile]

theorem trim_eq_nil_iff {s : List Char} : trim s = [] ↔ Blank s := by
  constructor
  · intro h
    obtain ⟨l, r, hl, hr, hs⟩ := exists_eq_append_trim s
    rw [h, List.append_nil] at hs
    rw [hs]
    exact blank_append.mpr ⟨hl, hr⟩
  · intro h
    simpa using trim_append_left h []

theorem trim_of_forall_not_blank {s : List Char} (h : ∀ c ∈ s, isBlank c = false) :
    trim s = s := by
  obtain ⟨l, r, hl, hr, hs⟩ := exists_eq_append_trim s
  have hnone : ∀ t : List Char, (∀ c ∈ t, c ∈ s) → Blank t → t = [] := by
    intro t hsub hblank
    refine List.eq_nil_iff_forall_not_mem.mpr fun c hc => ?_
    have hnot := h c (hsub c hc)
    rw [hblank c hc] at hnot
    cases hnot
  have hleft : l = [] := hnone l (fun c hc => by rw [hs]; simp [hc]) hl
  have hright : r = [] := hnone r (fun c hc => by rw [hs]; simp [hc]) hr
  rw [hleft, hright] at hs
  simpa using hs.symm

end Lifecycle.Text
