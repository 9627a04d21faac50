import Lifecycle.Identity.Uuid
import Lifecycle.Proofs.Text.Pieces
/-!
# Reading written identifiers

The text of an identifier, with its digits in five groups, is read as the identifier.
-/

namespace Lifecycle

open Lifecycle.Text

namespace Text

theorem mem_fixedDigits {base width value : Nat} {c : Char} (hbase : 0 < base)
    (h : c ∈ fixedDigits base width value) : ∃ d, d < base ∧ c = digitChar d := by
  induction width generalizing value with
  | zero => cases h
  | succ width ih =>
      rw [fixedDigits, List.mem_append, List.mem_singleton] at h
      rcases h with h | h
      · exact ih h
      · exact ⟨value % base, Nat.mod_lt value hbase, h⟩

end Text

namespace Identity.Uuid

theorem ne_of_mem_digits {value : Nat} {c : Char} (h : c ∈ fixedDigits 16 32 value) :
    c ≠ '-' ∧ c ≠ '\x7b' ∧ c.toLower ≠ 'u' := by
  have hall : ∀ d : Fin 16,
      digitChar d.val ≠ '-' ∧ digitChar d.val ≠ '\x7b' ∧ (digitChar d.val).toLower ≠ 'u' := by
    decide
  obtain ⟨d, hd, rfl⟩ := mem_fixedDigits (by decide) h
  exact hall ⟨d, hd⟩

theorem ofDigits?_fixedDigits (u : Uuid) :
    ofDigits? (fixedDigits 16 32 u.bits.toNat) = some u := by
  have hread : readDigits? 16 (fixedDigits 16 32 u.bits.toNat) = some u.bits.toNat := by
    rw [readDigits?_fixedDigits (by decide) (by decide), Nat.mod_eq_of_lt]
    exact u.bits.isLt
  rw [ofDigits?, length_fixedDigits, if_pos rfl, hread, Option.map_some, BitVec.ofNat_toNat,
    BitVec.setWidth_eq]

theorem pieces_toText (u : Uuid) :
    let digits := fixedDigits 16 32 u.bits.toNat
    pieces (· == '-') u.toText =
      [digits.take 8, (digits.drop 8).take 4, (digits.drop 12).take 4, (digits.drop 16).take 4,
        digits.drop 20] := by
  intro digits
  have hdigit : ∀ part : List Char, (∀ c ∈ part, c ∈ digits) → '-' ∉ part :=
    fun part hpart hmem => (ne_of_mem_digits (hpart '-' hmem)).1 rfl
  have hfirst : ∀ c ∈ digits.take 8, c ∈ digits := fun c hc => List.mem_of_mem_take hc
  have htake : ∀ n k, ∀ c ∈ (digits.drop n).take k, c ∈ digits :=
    fun n k c hc => List.mem_of_mem_drop (List.mem_of_mem_take hc)
  have hlast : ∀ c ∈ digits.drop 20, c ∈ digits := fun c hc => List.mem_of_mem_drop hc
  have htext : u.toText = digits.take 8 ++ '-' :: ((digits.drop 8).take 4 ++
      '-' :: ((digits.drop 12).take 4 ++ '-' :: ((digits.drop 16).take 4 ++
        '-' :: digits.drop 20))) := by
    simp only [toText, List.append_assoc, List.cons_append]
    rfl
  rw [htext, pieces_eq_splitOn, List.splitOn_append_cons_self_of_not_mem (hdigit _ hfirst),
    List.splitOn_append_cons_self_of_not_mem (hdigit _ (htake 8 4)),
    List.splitOn_append_cons_self_of_not_mem (hdigit _ (htake 12 4)),
    List.splitOn_append_cons_self_of_not_mem (hdigit _ (htake 16 4)),
    List.splitOn_eq_singleton (hdigit _ hlast)]

theorem ofHyphenated?_toText (u : Uuid) : ofHyphenated? u.toText = some u := by
  have hdigits := ofDigits?_fixedDigits u
  have hlength := length_fixedDigits 16 32 u.bits.toNat
  rw [ofHyphenated?, pieces_toText]
  generalize fixedDigits 16 32 u.bits.toNat = digits at hdigits hlength ⊢
  have hflatten : [digits.take 8, (digits.drop 8).take 4, (digits.drop 12).take 4,
      (digits.drop 16).take 4, digits.drop 20].flatten = digits := by
    have hjoin : ∀ n k, (digits.drop n).take k ++ digits.drop (n + k) = digits.drop n := by
      intro n k
      rw [← List.drop_drop, List.take_append_drop]
    simp only [List.flatten_cons, List.flatten_nil, List.append_nil]
    rw [hjoin 16 4, hjoin 12 4, hjoin 8 4, List.take_append_drop]
  simp [hlength, hflatten, hdigits]

/-- **Identifiers are read as they were written.** -/
theorem ofText?_toText (u : Uuid) : ofText? u.toText = some u := by
  have hhyphenated := ofHyphenated?_toText u
  have hlength : u.toText.length = 36 := by
    simp [toText]
  obtain ⟨c, t, htext, hmem⟩ : ∃ c t, u.toText = c :: t ∧
      c ∈ fixedDigits 16 32 u.bits.toNat := by
    have hdigits := length_fixedDigits 16 32 u.bits.toNat
    rw [toText]
    cases h : fixedDigits 16 32 u.bits.toNat with
    | nil =>
        rw [h] at hdigits
        cases hdigits
    | cons c t => exact ⟨c, _, rfl, List.mem_cons_self⟩
  obtain ⟨-, hbrace, hlower⟩ := ne_of_mem_digits hmem
  -- with its hyphens the text is too long for plain digits
  have hplain : ofDigits? u.toText = none := by
    rw [ofDigits?, hlength]
    rfl
  rw [htext] at hhyphenated hplain ⊢
  have hmark : ((c :: t).take resourceMark.length).map Char.toLower ≠ resourceMark := by
    intro h
    exact hlower (List.cons.inj h).1
  rw [ofText?, if_neg hmark, hplain, hhyphenated]
  · rfl
  · intro rest h
    exact hbrace (List.cons.inj h).1

end Identity.Uuid

end Lifecycle
