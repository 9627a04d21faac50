import Lifecycle.Json.Reading
import Lifecycle.Json.Writing
import Lifecycle.Proofs.Text.Digits
import Mathlib.Data.List.TakeWhile
/-!
# Reading written numbers

A numeral is read to its end in front of anything that cannot go on with it.  An integer that fits
64 bits is read as it was written.  Doubles are read with a rounding at each step, which for a few of
them leads to a neighbour, so that it is a property of a double to be read as it was written.
-/

namespace Lifecycle.Json

open Lifecycle.Number Lifecycle.Text

/-! ## Where numerals end -/

/-- A text that does not go on with what could belong to a numeral. -/
def Ends (rest : List Char) : Prop :=
  ∀ c ∈ rest.head?, isDigitOf 10 c = false ∧ c ≠ '.' ∧ c ≠ 'e' ∧ c ≠ 'E'

theorem ends_nil : Ends [] := by
  intro c hc
  cases hc

theorem ends_cons {c : Char} (h : c = ',' ∨ c = ']' ∨ c = '\x7d') (rest : List Char) :
    Ends (c :: rest) := by
  intro d hd
  obtain rfl : c = d := by simpa using hd
  rcases h with rfl | rfl | rfl <;> decide

theorem digits?_append {s digits left rest : List Char} (h : digits? s = some (digits, left))
    (hrest : Ends rest) : digits? (s ++ rest) = some (digits, left ++ rest) := by
  have hstops : rest.takeWhile (isDigitOf 10) = [] := by
    cases rest with
    | nil => rfl
    | cons c rest => simp [(hrest c rfl).1]
  have htake : (s ++ rest).takeWhile (isDigitOf 10) = s.takeWhile (isDigitOf 10) := by
    rw [List.takeWhile_append, hstops, List.append_nil]
    split
    · next hall => exact ((List.takeWhile_prefix _).eq_of_length hall).symm
    · rfl
  have hdrop : (s ++ rest).drop (s.takeWhile (isDigitOf 10)).length =
      s.drop (s.takeWhile (isDigitOf 10)).length ++ rest :=
    List.drop_append_of_le_length (List.takeWhile_prefix _).length_le
  simp only [digits?, htake, hdrop] at h ⊢
  split at h
  · cases h
  · next hsome =>
      obtain ⟨rfl, rfl⟩ := Prod.mk.inj (Option.some.inj h)
      rw [if_neg hsome]

theorem whole?_append {s whole left rest : List Char} (h : whole? s = some (whole, left))
    (hrest : Ends rest) : whole? (s ++ rest) = some (whole, left ++ rest) := by
  unfold whole? at h
  split at h
  · obtain ⟨rfl, rfl⟩ := Prod.mk.inj (Option.some.inj h)
    rfl
  · next hzero =>
      cases s with
      | nil => cases h
      | cons c s =>
          have hread := digits?_append h hrest
          rw [List.cons_append] at hread ⊢
          rw [whole?, hread]
          rintro t ht
          obtain ⟨rfl, -⟩ := List.cons.inj ht
          exact hzero _ rfl

theorem fraction?_append {s fraction left rest : List Char}
    (h : fraction? s = some (fraction, left)) (hrest : Ends rest) :
    fraction? (s ++ rest) = some (fraction, left ++ rest) := by
  unfold fraction? at h
  split at h
  · exact digits?_append h hrest
  · next hpoint =>
      obtain ⟨rfl, rfl⟩ := Prod.mk.inj (Option.some.inj h)
      cases s with
      | nil =>
          cases rest with
          | nil => rfl
          | cons c rest =>
              obtain ⟨-, hpoint, -, -⟩ := hrest c rfl
              rw [List.nil_append, fraction?]
              rintro t ht
              exact hpoint (List.cons.inj ht).1
      | cons c s =>
          rw [List.cons_append, fraction?]
          rintro t ht
          obtain ⟨rfl, -⟩ := List.cons.inj ht
          exact hpoint _ rfl

def signedExponent (negative : Bool) (s : List Char) : Option (Option Int × List Char) := do
  let (digits, rest) ← digits? s
  let magnitude : Nat ← readDigits? 10 digits
  some (some (if negative then -magnitude else magnitude), rest)

theorem signedExponent_append {negative : Bool} {s left rest : List Char} {e : Option Int}
    (h : signedExponent negative s = some (e, left)) (hrest : Ends rest) :
    signedExponent negative (s ++ rest) = some (e, left ++ rest) := by
  simp only [signedExponent, Option.bind_eq_bind, Option.bind_eq_some_iff] at h
  obtain ⟨⟨digits, after⟩, hdigits, magnitude, hmagnitude, hresult⟩ := h
  obtain ⟨rfl, rfl⟩ := Prod.mk.inj (Option.some.inj hresult)
  have hread := digits?_append hdigits hrest
  simp only [signedExponent, hread, hmagnitude, Option.bind_eq_bind, Option.bind_some]

theorem exponent?_unsigned {c d : Char} (hc : c = 'e' ∨ c = 'E') (hminus : d ≠ '-')
    (hplus : d ≠ '+') (s : List Char) :
    exponent? (c :: d :: s) = signedExponent false (d :: s) := by
  rcases hc with rfl | rfl <;> simp [exponent?, signedExponent, hminus, hplus]

theorem exponent?_other {s : List Char} (h : ∀ c ∈ s.head?, c ≠ 'e' ∧ c ≠ 'E') :
    exponent? s = some (none, s) := by
  unfold exponent?
  split
  · exact absurd rfl (h _ rfl).1
  · exact absurd rfl (h _ rfl).2
  · rfl

theorem exponent?_append {s left rest : List Char} {e : Option Int}
    (h : exponent? s = some (e, left)) (hrest : Ends rest) :
    exponent? (s ++ rest) = some (e, left ++ rest) := by
  cases s with
  | nil =>
      obtain ⟨rfl, rfl⟩ := Prod.mk.inj (Option.some.inj h)
      exact exponent?_other fun c hc => (hrest c hc).2.2
  | cons c s =>
      by_cases hc : c = 'e' ∨ c = 'E'
      · cases s with
        | nil => rcases hc with rfl | rfl <;> cases h
        | cons d s =>
            by_cases hminus : d = '-'
            · subst hminus
              have hread : signedExponent true s = some (e, left) := by
                rcases hc with rfl | rfl <;> exact h
              rcases hc with rfl | rfl <;> exact signedExponent_append hread hrest
            by_cases hplus : d = '+'
            · subst hplus
              have hread : signedExponent false s = some (e, left) := by
                rcases hc with rfl | rfl <;> exact h
              rcases hc with rfl | rfl <;> exact signedExponent_append hread hrest
            rw [exponent?_unsigned hc hminus hplus] at h
            rw [List.cons_append, List.cons_append, exponent?_unsigned hc hminus hplus]
            exact signedExponent_append h hrest
      · have hother : ∀ t, ∀ d ∈ (c :: t).head?, d ≠ 'e' ∧ d ≠ 'E' := by
          intro t d hd
          obtain rfl : c = d := by simpa using hd
          exact not_or.mp hc
        rw [exponent?_other (hother s)] at h
        obtain ⟨rfl, rfl⟩ := Prod.mk.inj (Option.some.inj h)
        exact exponent?_other (hother (s ++ rest))

def signedNumeral (negative : Bool) (s : List Char) : Option (Numeral × List Char) := do
  let (whole, s) ← whole? s
  let (fraction, s) ← fraction? s
  let (exponent?, s) ← exponent? s
  some (⟨negative, whole, fraction, exponent?⟩, s)

theorem signedNumeral_append {negative : Bool} {s left rest : List Char} {n : Numeral}
    (h : signedNumeral negative s = some (n, left)) (hrest : Ends rest) :
    signedNumeral negative (s ++ rest) = some (n, left ++ rest) := by
  simp only [signedNumeral, Option.bind_eq_bind, Option.bind_eq_some_iff] at h
  obtain ⟨⟨whole, s₁⟩, hwhole, ⟨fraction, s₂⟩, hfraction, ⟨e, s₃⟩, hexponent, hresult⟩ := h
  obtain ⟨rfl, rfl⟩ := Prod.mk.inj (Option.some.inj hresult)
  simp only [signedNumeral, whole?_append hwhole hrest, fraction?_append hfraction hrest,
    exponent?_append hexponent hrest, Option.bind_eq_bind, Option.bind_some]

theorem numeral?_minus (s : List Char) : numeral? ('-' :: s) = signedNumeral true s := rfl

theorem numeral?_unsigned {c : Char} (hc : c ≠ '-') (s : List Char) :
    numeral? (c :: s) = signedNumeral false (c :: s) := by
  simp [numeral?, signedNumeral, hc]

theorem numeral?_append {s left rest : List Char} {n : Numeral}
    (h : numeral? s = some (n, left)) (hrest : Ends rest) :
    numeral? (s ++ rest) = some (n, left ++ rest) := by
  cases s with
  | nil => cases h
  | cons c s =>
      by_cases hminus : c = '-'
      · subst hminus
        exact signedNumeral_append h hrest
      · rw [numeral?_unsigned hminus] at h
        rw [List.cons_append, numeral?_unsigned hminus]
        exact signedNumeral_append h hrest

/-! ## Digits of natural numbers -/

theorem toDigits_eq_cons {n : Nat} (h : 0 < n) :
    ∃ c t, Nat.toDigits 10 n = c :: t ∧ c ≠ '0' := by
  induction n using Nat.strongRecOn with
  | ind n ih =>
      by_cases hsmall : n < 10
      · refine ⟨Nat.digitChar n, [], Nat.toDigits_of_lt_base hsmall, ?_⟩
        intro hzero
        have hvalue : some 0 = some n := by
          rw [← digitValue?_natDigitChar (show n < 16 by omega), hzero]
          rfl
        have hn : 0 = n := Option.some.inj hvalue
        omega
      · obtain ⟨c, t, hdigits, hc⟩ := ih (n / 10) (by omega) (by omega)
        refine ⟨c, t ++ [Nat.digitChar (n % 10)], ?_, hc⟩
        rw [toDigits_of_base_le (by decide) (by omega), hdigits, List.cons_append]

theorem whole?_toDigits (n : Nat) : whole? (Nat.toDigits 10 n) = some (Nat.toDigits 10 n, []) := by
  by_cases hzero : n = 0
  · subst hzero
    rfl
  · obtain ⟨c, t, hdigits, hc⟩ := toDigits_eq_cons (show 0 < n by omega)
    have hdigit : ∀ d ∈ c :: t, isDigitOf 10 d = true := fun d hd =>
      isDigitOf_of_mem_toDigits (by decide) (by decide) (hdigits ▸ hd)
    have hall : (c :: t).takeWhile (isDigitOf 10) = c :: t := List.takeWhile_eq_self_iff.mpr hdigit
    rw [hdigits, whole?, digits?, hall]
    · simp
    · rintro r hr
      exact hc (List.cons.inj hr).1

theorem takeWord_append {start word : Nat} {s : List Char} (h : takeWord start s = (word, []))
    (t : List Char) : takeWord start (s ++ t) = takeWord word t := by
  induction s generalizing start with
  | nil =>
      obtain ⟨rfl, -⟩ := Prod.mk.inj h
      rfl
  | cons c s ih =>
      rw [takeWord] at h
      split at h
      · next hfits =>
          rw [List.cons_append, takeWord, if_pos hfits]
          exact ih h
      · cases h

theorem takeWord_toDigits {n : Nat} (h : n < wordBound) :
    takeWord 0 (Nat.toDigits 10 n) = (n, []) := by
  induction n using Nat.strongRecOn with
  | ind n ih =>
      by_cases hsmall : n < 10
      · simp [Nat.toDigits_of_lt_base hsmall, takeWord,
          digitValue?_natDigitChar (show n < 16 by omega), h]
      · have hfront := ih (n / 10) (by omega) (by omega)
        have hlast : n % 10 < 10 := Nat.mod_lt n (by omega)
        have hwhole : 10 * (n / 10) + n % 10 = n := Nat.div_add_mod n 10
        rw [toDigits_of_base_le (by decide) (by omega), takeWord_append hfront]
        simp [takeWord, digitValue?_natDigitChar (show n % 10 < 16 by omega), hwhole, h]

theorem signedNumeral_toDigits (negative : Bool) (n : Nat) :
    signedNumeral negative (Nat.toDigits 10 n) =
      some (⟨negative, Nat.toDigits 10 n, [], none⟩, []) := by
  rw [signedNumeral, whole?_toDigits]
  rfl

/-! ## Numbers -/

/-- A number is read as it was written. -/
def NumberReadsBack (v : Value) : Prop :=
  ∃ n : Numeral, numeral? (write v) = some (n, []) ∧ n.value? = some v

theorem numeral?_toDigits (n : Nat) :
    numeral? (Nat.toDigits 10 n) = some (⟨false, Nat.toDigits 10 n, [], none⟩, []) := by
  have hread := signedNumeral_toDigits false n
  cases hdigits : Nat.toDigits 10 n with
  | nil =>
      rw [hdigits] at hread
      cases hread
  | cons c t =>
      have hc : c ≠ '-' := by
        have hmem : c ∈ Nat.toDigits 10 n := hdigits ▸ List.mem_cons_self
        have hdigit := isDigitOf_of_mem_toDigits (by decide) (by decide) hmem
        rintro rfl
        exact absurd hdigit (by decide)
      rw [numeral?_unsigned hc, ← hdigits, hread]

theorem value?_digits (negative : Bool) {n : Nat} (h : n < wordBound) :
    (⟨negative, Nat.toDigits 10 n, [], none⟩ : Numeral).value? =
      some ((⟨negative, Nat.toDigits 10 n, [], none⟩ : Numeral).ofWord n) := by
  simp [Numeral.value?, takeWord_toDigits h, Numeral.isWhole]

theorem numberReadsBack_int {n : Int} (hlow : -9223372036854775808 ≤ n)
    (hhigh : n < 18446744073709551616) : NumberReadsBack (.int n) := by
  cases n with
  | ofNat n =>
      have hn : n < wordBound := by
        simp only [Int.ofNat_eq_natCast] at hhigh
        unfold wordBound
        omega
      have hwrite : write (.int (Int.ofNat n)) = Nat.toDigits 10 n := by
        show (toString n).toList = Nat.toDigits 10 n
        simp
      refine ⟨⟨false, Nat.toDigits 10 n, [], none⟩, ?_, ?_⟩
      · rw [hwrite, numeral?_toDigits]
      · rw [value?_digits false hn]
        rfl
  | negSucc n =>
      have hn : n + 1 ≤ leastMagnitude := by
        unfold leastMagnitude
        omega
      have hfits : n + 1 < wordBound := Nat.lt_of_le_of_lt hn (by decide)
      have hwrite : write (.int (Int.negSucc n)) = '-' :: Nat.toDigits 10 (n + 1) := by
        show ("-" ++ toString (n + 1)).toList = '-' :: Nat.toDigits 10 (n + 1)
        simp
      refine ⟨⟨true, Nat.toDigits 10 (n + 1), [], none⟩, ?_, ?_⟩
      · rw [hwrite, numeral?_minus, signedNumeral_toDigits]
      · rw [value?_digits true hfits, Numeral.ofWord]
        simp [hn]
        omega

/-- The double nearest to `3e23` is written so, and read as its neighbour. -/
example :
    let x := Binary64.ofDecimal false 3 23
    writeFloat x = "3e+23".toList ∧ scaled? 3 23 ≠ some x := by
  decide +kernel

end Lifecycle.Json
