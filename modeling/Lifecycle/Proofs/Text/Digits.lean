import Lifecycle.Text.Blank
import Lifecycle.Text.Digits
/-!
# Written digits

The digits that a natural number is written with, in a base up to sixteen, are read as that number.
-/

namespace Lifecycle.Text

section Base

variable {base : Nat}

theorem digitValue?_natDigitChar {d : Nat} (h : d < 16) :
    digitValue? (Nat.digitChar d) = some d := by
  have hall : ∀ d : Fin 16, digitValue? (Nat.digitChar d.val) = some d.val := by decide
  exact hall ⟨d, h⟩

theorem toDigits_of_base_le (hbase : 1 < base) {n : Nat} (h : base ≤ n) :
    Nat.toDigits base n = Nat.toDigits base (n / base) ++ [Nat.digitChar (n % base)] := by
  have hlast : n % base < base := Nat.mod_lt n (by omega)
  have hfront : 0 < n / base := Nat.div_pos h (by omega)
  have hsplit := Nat.toDigits_append_toDigits hbase hfront hlast
  rw [Nat.toDigits_of_lt_base hlast, Nat.div_add_mod] at hsplit
  exact hsplit.symm

theorem isDigitOf_natDigitChar (hle : base ≤ 16) {d : Nat} (h : d < base) :
    isDigitOf base (Nat.digitChar d) = true := by
  simp [isDigitOf, digitValue?_natDigitChar (show d < 16 by omega), h]

theorem isDigitOf_of_mem_toDigits (hbase : 1 < base) (hle : base ≤ 16) {n : Nat} {c : Char}
    (h : c ∈ Nat.toDigits base n) : isDigitOf base c = true := by
  induction n using Nat.strongRecOn with
  | ind n ih =>
      by_cases hsmall : n < base
      · rw [Nat.toDigits_of_lt_base hsmall, List.mem_singleton] at h
        rw [h]
        exact isDigitOf_natDigitChar hle hsmall
      · have hfront : n / base < n := Nat.div_lt_self (by omega) hbase
        rw [toDigits_of_base_le hbase (by omega), List.mem_append, List.mem_singleton] at h
        rcases h with h | h
        · exact ih (n / base) hfront h
        · rw [h]
          exact isDigitOf_natDigitChar hle (Nat.mod_lt n (by omega))

/-- **Numbers are read as they were written.** -/
theorem readDigits?_toDigits (hbase : 1 < base) (hle : base ≤ 16) (n : Nat) :
    readDigits? base (Nat.toDigits base n) = some n := by
  induction n using Nat.strongRecOn with
  | ind n ih =>
      have hlast : n % base < base := Nat.mod_lt n (by omega)
      by_cases hsmall : n < base
      · simp [Nat.toDigits_of_lt_base hsmall, readDigits?, readDigitsFrom?,
          digitValue?_natDigitChar (show n < 16 by omega), hsmall]
      · have hfront := ih (n / base) (Nat.div_lt_self (by omega) hbase)
        rw [readDigits?] at hfront ⊢
        rw [toDigits_of_base_le hbase (by omega), readDigitsFrom?_append, hfront, Option.bind_some]
        simp [readDigitsFrom?, digitValue?_natDigitChar (show n % base < 16 by omega), hlast,
          Nat.div_add_mod]

theorem isDigitOf_of_readDigitsFrom? {start n : Nat} {s : List Char}
    (h : readDigitsFrom? base start s = some n) : ∀ c ∈ s, isDigitOf base c = true := by
  induction s generalizing start with
  | nil =>
      intro c hc
      cases hc
  | cons d s ih =>
      rw [readDigitsFrom?] at h
      split at h
      · next value hvalue =>
          split at h
          · next hlt =>
              have hd : isDigitOf base d = true := by simp [isDigitOf, hvalue, hlt]
              exact List.forall_mem_cons.mpr ⟨hd, ih h⟩
          · cases h
      · cases h

theorem range_of_isDigitOf {c : Char} (h : isDigitOf base c = true) :
    (48 ≤ c.toNat ∧ c.toNat ≤ 57) ∨ (65 ≤ c.toNat ∧ c.toNat ≤ 90) ∨
      (97 ≤ c.toNat ∧ c.toNat ≤ 122) := by
  by_cases hnumeral : '0' ≤ c ∧ c ≤ '9'
  · exact .inl hnumeral
  by_cases hlower : 'a' ≤ c ∧ c ≤ 'z'
  · exact .inr (.inr hlower)
  by_cases hupper : 'A' ≤ c ∧ c ≤ 'Z'
  · exact .inr (.inl hupper)
  have hnone : digitValue? c = none := by
    simp only [digitValue?, Bool.and_eq_true, decide_eq_true_eq, if_neg hnumeral, if_neg hlower,
      if_neg hupper]
  rw [isDigitOf, hnone] at h
  cases h

theorem not_blank_of_isDigitOf {c : Char} (h : isDigitOf base c = true) : isBlank c = false := by
  have hrange := range_of_isDigitOf h
  simp [isBlank]
  omega

end Base

end Lifecycle.Text
