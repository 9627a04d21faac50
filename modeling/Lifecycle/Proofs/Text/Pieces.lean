import Lifecycle.Proofs.Text.Trimming
import Lifecycle.Text.Cut
import Mathlib.Data.List.Basic
/-!
# Pieces

The pieces between separating characters, as the library splits a list.  Where a separator stands at
an end of a text, or twice in a row, there is an empty piece.  Blanks at the ends of a text, and
blanks around its separators, do not change what is left of the pieces after trimming them.
-/

namespace Lifecycle.Text

theorem pieces_eq_splitOnP (sep : Char → Bool) (s : List Char) : pieces sep s = s.splitOnP sep := by
  induction s with
  | nil => rfl
  | cons c rest ih =>
      rw [pieces, List.splitOnP_cons_eq_if_modifyHead, ih]
      cases hrest : rest.splitOnP sep with
      | nil => exact absurd (ih.trans hrest) (pieces_ne_nil sep rest)
      | cons piece others => rfl

theorem pieces_eq_splitOn (sep : Char) (s : List Char) : pieces (· == sep) s = s.splitOn sep := by
  rw [pieces_eq_splitOnP, List.splitOn_eq_splitOnP]

/-! ## Empty pieces -/

section EmptyPieces

variable {sep : Char} {s : List Char}

theorem nil_mem_splitOn_iff_head_or_tail :
    [] ∈ s.splitOn sep ↔ (s = [] ∨ s.head? = some sep) ∨ [] ∈ (s.splitOn sep).tail := by
  cases s with
  | nil => simp
  | cons c s =>
      obtain ⟨piece, others, hsplit⟩ := List.exists_cons_of_ne_nil (List.splitOn_ne_nil sep s)
      by_cases hsep : c = sep
      · subst hsep
        simp [List.splitOn_cons_eq_if_modifyHead]
      · simp [List.splitOn_cons_eq_if_modifyHead, hsep, hsplit]

theorem nil_mem_tail_splitOn_iff :
    [] ∈ (s.splitOn sep).tail ↔ s.getLast? = some sep ∨ [sep, sep] <:+: s := by
  induction s with
  | nil => simp
  | cons c s ih =>
      by_cases hsep : c = sep
      · subst hsep
        have htail : ((c :: s).splitOn c).tail = s.splitOn c := by
          simp [List.splitOn_cons_eq_if_modifyHead]
        rw [htail, nil_mem_splitOn_iff_head_or_tail, ih]
        cases s with
        | nil => simp
        | cons d s => simp [List.infix_cons_iff, or_left_comm, eq_comm]
      · have htail : ((c :: s).splitOn sep).tail = (s.splitOn sep).tail := by
          simp [List.splitOn_cons_eq_if_modifyHead, hsep, List.tail_modifyHead]
        rw [htail, ih, List.infix_cons_iff]
        cases s with
        | nil => simp [hsep]
        | cons d s => simp [Ne.symm hsep]

theorem nil_mem_splitOn_iff :
    [] ∈ s.splitOn sep ↔
      s = [] ∨ s.head? = some sep ∨ s.getLast? = some sep ∨ [sep, sep] <:+: s := by
  rw [nil_mem_splitOn_iff_head_or_tail, nil_mem_tail_splitOn_iff, or_assoc]

theorem forall_mem_splitOn_iff {P : Char → Prop} :
    (∀ piece ∈ s.splitOn sep, ∀ c ∈ piece, P c) ↔ ∀ c ∈ s, c ≠ sep → P c := by
  induction s with
  | nil => simp
  | cons c s ih =>
      obtain ⟨piece, others, hsplit⟩ := List.exists_cons_of_ne_nil (List.splitOn_ne_nil sep s)
      by_cases hsep : c = sep
      · subst hsep
        simp [List.splitOn_cons_eq_if_modifyHead, ih]
      · rw [hsplit] at ih
        simp only [List.forall_mem_cons] at ih
        simp [List.splitOn_cons_eq_if_modifyHead, hsep, hsplit, ← ih, and_assoc]

end EmptyPieces

/-! ## Trimmed pieces -/

section TrimmedPieces

variable {sep : Char}

theorem splitOn_append_left {l : List Char} (hl : sep ∉ l) (s : List Char) :
    (l ++ s).splitOn sep = (s.splitOn sep).modifyHead (l ++ ·) := by
  obtain ⟨piece, others, hsplit⟩ := List.exists_cons_of_ne_nil (List.splitOn_ne_nil sep s)
  induction l with
  | nil => simp [hsplit]
  | cons c l ih =>
      have hc : c ≠ sep := fun h => hl (h ▸ List.mem_cons_self)
      have hrest := ih fun h => hl (List.mem_cons_of_mem c h)
      simp [List.splitOn_cons_eq_if_modifyHead, hc, hrest, hsplit]

theorem splitOn_append_right {r : List Char} (hr : sep ∉ r) (s : List Char) :
    ∃ init last, s.splitOn sep = init ++ [last] ∧ (s ++ r).splitOn sep = init ++ [last ++ r] := by
  induction s with
  | nil => exact ⟨[], [], rfl, by simp [List.splitOn_eq_singleton hr]⟩
  | cons c s ih =>
      obtain ⟨init, last, hsplit, happend⟩ := ih
      by_cases hsep : c = sep
      · subst hsep
        refine ⟨[] :: init, last, ?_, ?_⟩
        · simp [List.splitOn_cons_eq_if_modifyHead, hsplit]
        · simp [List.splitOn_cons_eq_if_modifyHead, happend]
      · cases init with
        | nil =>
            refine ⟨[], c :: last, ?_, ?_⟩
            · simp [List.splitOn_cons_eq_if_modifyHead, hsep, hsplit]
            · simp [List.splitOn_cons_eq_if_modifyHead, hsep, happend]
        | cons piece init =>
            refine ⟨(c :: piece) :: init, last, ?_, ?_⟩
            · simp [List.splitOn_cons_eq_if_modifyHead, hsep, hsplit]
            · simp [List.splitOn_cons_eq_if_modifyHead, hsep, happend]

theorem not_mem_of_blank (hsep : isBlank sep = false) {s : List Char} (hs : Blank s) :
    sep ∉ s := by
  intro hmem
  rw [hs sep hmem] at hsep
  cases hsep

theorem map_trim_splitOn_append_left (hsep : isBlank sep = false) {l : List Char} (hl : Blank l)
    (s : List Char) : ((l ++ s).splitOn sep).map trim = (s.splitOn sep).map trim := by
  obtain ⟨piece, others, hsplit⟩ := List.exists_cons_of_ne_nil (List.splitOn_ne_nil sep s)
  rw [splitOn_append_left (not_mem_of_blank hsep hl), hsplit, List.modifyHead_cons, List.map_cons,
    List.map_cons, trim_append_left hl]

theorem map_trim_splitOn_append_right (hsep : isBlank sep = false) {r : List Char} (hr : Blank r)
    (s : List Char) : ((s ++ r).splitOn sep).map trim = (s.splitOn sep).map trim := by
  obtain ⟨init, last, hsplit, happend⟩ := splitOn_append_right (not_mem_of_blank hsep hr) s
  rw [hsplit, happend, List.map_append, List.map_append, List.map_singleton, List.map_singleton,
    trim_append_right hr]

/-- Trimming the text makes no difference to its trimmed pieces. -/
theorem map_trim_splitOn_trim (hsep : isBlank sep = false) (s : List Char) :
    ((trim s).splitOn sep).map trim = (s.splitOn sep).map trim := by
  obtain ⟨l, r, hl, hr, hs⟩ := exists_eq_append_trim s
  rw [← map_trim_splitOn_append_left hsep hl, ← map_trim_splitOn_append_right hsep hr, ← hs]

theorem join_cons_cons (between t u : List Char) (texts : List (List Char)) :
    join between (t :: u :: texts) = t ++ between ++ join between (u :: texts) := rfl

theorem mem_join_of_mem {between : List Char} {texts : List (List Char)} {t : List Char} {c : Char}
    (ht : t ∈ texts) (hc : c ∈ t) : c ∈ join between texts := by
  induction texts with
  | nil => cases ht
  | cons u texts ih =>
      cases texts with
      | nil =>
          obtain rfl := List.mem_singleton.mp ht
          exact hc
      | cons v texts =>
          rw [join_cons_cons, List.mem_append, List.mem_append]
          rcases List.mem_cons.mp ht with rfl | ht
          · exact .inl (.inl hc)
          · exact .inr (ih ht)

/-- Texts joined by a separator with blanks around it are the pieces, but for blanks. -/
theorem map_trim_splitOn_join (hsep : isBlank sep = false) {l r : List Char} (hl : Blank l)
    (hr : Blank r) {texts : List (List Char)} (hne : texts ≠ []) (htexts : ∀ t ∈ texts, sep ∉ t) :
    ((join (l ++ sep :: r) texts).splitOn sep).map trim = texts.map trim := by
  induction texts with
  | nil => exact absurd rfl hne
  | cons t texts ih =>
      have hnone := htexts t List.mem_cons_self
      cases texts with
      | nil => simp [join, List.splitOn_eq_singleton hnone]
      | cons u texts =>
          have hothers : ∀ v ∈ u :: texts, sep ∉ v := fun v hv =>
            htexts v (List.mem_cons_of_mem t hv)
          have hfirst : sep ∉ t ++ l := by
            rw [List.mem_append, not_or]
            exact ⟨hnone, not_mem_of_blank hsep hl⟩
          have hjoin : join (l ++ sep :: r) (t :: u :: texts) =
              (t ++ l) ++ sep :: (r ++ join (l ++ sep :: r) (u :: texts)) := by
            simp [join_cons_cons]
          rw [hjoin, List.splitOn_append_cons_self_of_not_mem hfirst, List.map_cons,
            map_trim_splitOn_append_left hsep hr, ih (List.cons_ne_nil u texts) hothers,
            trim_append_right hl]
          rfl

end TrimmedPieces

end Lifecycle.Text
