import Lifecycle.Text.Lowercase
import Mathlib.Data.List.Basic
/-!
# Lower case and ASCII

No character outside ASCII has an ASCII character alone for its lower-case form, but for the Kelvin
sign.  So a text of ASCII characters without a k is the lower-case form of just those texts that
differ from it in the case of ASCII letters.
-/

namespace Lifecycle.Text

/-- An ASCII character that is the lower-case form of ASCII characters only. -/
def isPlain (c : Char) : Bool := c.toNat < 0x80 && c != 'k' && c != Char.ofNat 0

theorem not_isPlain_of_le {c : Char} (h : 0x80 ≤ c.toNat) : isPlain c = false := by
  simp [isPlain, Nat.not_lt.mpr h]

theorem lowerRuns_beyond_ascii : ∀ run ∈ lowerRuns, 0x80 ≤ run.low + run.distance ∨
    run.low = 0x212A ∧ run.high = 0x212A ∧ run.distance = -8383 := by
  decide +kernel

/-- A run takes a code point beyond ASCII, or it takes the Kelvin sign to the k. -/
theorem le_or_eq_of_lower? {run : CaseRun} (hrun : run ∈ lowerRuns) {point n : Nat}
    (h : run.lower? point = some n) : 0x80 ≤ n ∨ n = 'k'.toNat := by
  rw [CaseRun.lower?] at h
  split at h
  case isFalse => cases h
  next hin =>
    simp only [Bool.and_eq_true, decide_eq_true_eq] at hin
    have hn : (point + run.distance).toNat = n := Option.some.inj h
    have hk : 'k'.toNat = 107 := rfl
    rcases lowerRuns_beyond_ascii run hrun with hbeyond | ⟨hlow, hhigh, hdistance⟩ <;> omega

theorem not_isPlain_ofNat {n : Nat} (h : 0x80 ≤ n ∨ n = 'k'.toNat) :
    isPlain (Char.ofNat n) = false := by
  rcases h with h | rfl
  · by_cases hvalid : n.isValidChar
    · refine not_isPlain_of_le ?_
      rw [Char.ofNat, dif_pos hvalid]
      exact h
    · rw [Char.ofNat, dif_neg hvalid]
      rfl
  · rfl

theorem lowerChar_of_not_ascii {c : Char} (hc : ¬ c.toNat < 0x80) :
    ∃ d ∈ lowerChar c, isPlain d = false := by
  rw [lowerChar, if_neg hc]
  split
  · exact ⟨Char.ofNat 0x307, by simp, by decide⟩
  · refine ⟨_, List.mem_singleton.mpr rfl, ?_⟩
    cases hfind : lowerRuns.findSome? (·.lower? c.toNat) with
    | none => exact not_isPlain_of_le (Nat.le_of_not_lt hc)
    | some n =>
        obtain ⟨run, hrun, hn⟩ := List.exists_of_findSome?_eq_some hfind
        exact not_isPlain_ofNat (le_or_eq_of_lower? hrun hn)

theorem not_isPlain_lowerSigma (before after : List Char) :
    isPlain (lowerSigma before after) = false := by
  rw [lowerSigma]
  split <;> decide

theorem toLower_of_not_ascii {c : Char} (hc : ¬ c.toNat < 0x80) : c.toLower = c := by
  have hbeyond : ¬ (c.val ≥ 'A'.val ∧ c.val ≤ 'Z'.val) := by
    intro h
    have hle : c.val.toNat ≤ 90 := UInt32.le_iff_toNat_le.mp h.2
    exact hc (by rw [Char.toNat]; omega)
  exact dif_neg hbeyond

theorem ascii_of_isPlain_lower {before rest : List Char} {c : Char}
    (hplain : ∀ d ∈ (if c = capitalSigma then [lowerSigma before rest] else lowerChar c),
      isPlain d = true) : c.toNat < 0x80 := by
  by_contra hc
  split at hplain
  · have hsigma := hplain _ (List.mem_singleton.mpr rfl)
    rw [not_isPlain_lowerSigma] at hsigma
    cases hsigma
  · obtain ⟨d, hd, hnot⟩ := lowerChar_of_not_ascii hc
    rw [hplain d hd] at hnot
    cases hnot

theorem lowerAfter_cons_of_ascii {c : Char} (hc : c.toNat < 0x80) (before rest : List Char) :
    lowerAfter before (c :: rest) = c.toLower :: lowerAfter (c :: before) rest := by
  have hsigma : c ≠ capitalSigma := by
    rintro rfl
    exact absurd hc (by decide)
  rw [lowerAfter, if_neg hsigma, lowerChar, if_pos hc]
  rfl

theorem lowerAfter_eq_iff {before s t : List Char} (ht : ∀ c ∈ t, isPlain c = true) :
    lowerAfter before s = t ↔ s.map Char.toLower = t := by
  induction s generalizing before t with
  | nil => exact Iff.rfl
  | cons c rest ih =>
      by_cases hc : c.toNat < 0x80
      · rw [lowerAfter_cons_of_ascii hc, List.map_cons]
        cases t with
        | nil => simp
        | cons d t =>
            have hrest : lowerAfter (c :: before) rest = t ↔ rest.map Char.toLower = t :=
              ih fun e he => ht e (List.mem_cons_of_mem d he)
            rw [List.cons.injEq, List.cons.injEq, hrest]
      · refine iff_of_false ?_ ?_
        · rintro rfl
          exact hc (ascii_of_isPlain_lower fun d hd => ht d (List.mem_append_left _ hd))
        · rintro rfl
          have hplain := ht c.toLower (by simp)
          rw [toLower_of_not_ascii hc, not_isPlain_of_le (Nat.le_of_not_lt hc)] at hplain
          cases hplain

/-- A plain text is the lower-case form of the texts that differ from it in the case of ASCII
letters only. -/
theorem lower_eq_iff {s t : List Char} (ht : ∀ c ∈ t, isPlain c = true) :
    lower s = t ↔ s.map Char.toLower = t :=
  lowerAfter_eq_iff ht

end Lifecycle.Text
