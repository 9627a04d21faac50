/-!
# Digits

Reading and writing natural numbers in a base up to thirty-six.  Letters count from ten in either
case when read and are in lower case when written.
-/

namespace Lifecycle.Text

def digitValue? (c : Char) : Option Nat :=
  if '0' ≤ c && c ≤ '9' then some (c.toNat - 48)
  else if 'a' ≤ c && c ≤ 'z' then some (c.toNat - 87)
  else if 'A' ≤ c && c ≤ 'Z' then some (c.toNat - 55)
  else none

def isDigitOf (base : Nat) (c : Char) : Bool :=
  match digitValue? c with
  | some value => value < base
  | none => false

/-- The number that a list of digits denotes, read on from `start`; every character has to be a
digit of the base. -/
def readDigitsFrom? (base start : Nat) : List Char → Option Nat
  | [] => some start
  | c :: rest =>
    match digitValue? c with
    | some value =>
      if value < base then readDigitsFrom? base (base * start + value) rest else none
    | none => none

def readDigits? (base : Nat) (s : List Char) : Option Nat :=
  readDigitsFrom? base 0 s

def digitChar (value : Nat) : Char :=
  if value < 10 then Char.ofNat (48 + value) else Char.ofNat (87 + value)

/-- The lowest `width` digits of a number, the most significant first. -/
def fixedDigits (base : Nat) : Nat → Nat → List Char
  | 0, _ => []
  | width + 1, value => fixedDigits base width (value / base) ++ [digitChar (value % base)]

def digitsOf (base value : Nat) : List Char :=
  Nat.toDigits base value

@[simp] theorem length_fixedDigits (base width value : Nat) :
    (fixedDigits base width value).length = width := by
  induction width generalizing value with
  | zero => rfl
  | succ width ih => simp [fixedDigits, ih]

theorem digitValue?_digitChar {value : Nat} (h : value < 36) :
    digitValue? (digitChar value) = some value := by
  have all : ∀ v : Fin 36, digitValue? (digitChar v.val) = some v.val := by decide
  exact all ⟨value, h⟩

theorem readDigitsFrom?_append (base start : Nat) (s t : List Char) :
    readDigitsFrom? base start (s ++ t) =
      (readDigitsFrom? base start s).bind fun value => readDigitsFrom? base value t := by
  induction s generalizing start with
  | nil => rfl
  | cons c rest ih =>
    simp only [List.cons_append, readDigitsFrom?]
    cases digitValue? c with
    | none => rfl
    | some value =>
      dsimp only
      split
      · exact ih _
      · rfl

private theorem readDigitsFrom?_fixedDigits {base : Nat} (hbase : 0 < base) (hle : base ≤ 36)
    (width value start : Nat) :
    readDigitsFrom? base start (fixedDigits base width value) =
      some (start * Nat.pow base width + value % Nat.pow base width) := by
  induction width generalizing value start with
  | zero => simp [fixedDigits, readDigitsFrom?, Nat.mod_one]
  | succ width ih =>
    have hdigit : value % base < base := Nat.mod_lt _ hbase
    rw [fixedDigits, readDigitsFrom?_append, ih]
    simp only [Option.bind_some, readDigitsFrom?]
    rw [digitValue?_digitChar (by omega)]
    simp only [hdigit, if_true, Option.some.injEq]
    have hpow : Nat.pow base (width + 1) = base * Nat.pow base width := Nat.mul_comm _ _
    rw [hpow, Nat.mod_mul, Nat.mul_add, Nat.mul_left_comm]
    omega

/-- Fixed digits read back as the number modulo what they can hold. -/
theorem readDigits?_fixedDigits {base : Nat} (hbase : 0 < base) (hle : base ≤ 36)
    (width value : Nat) :
    readDigits? base (fixedDigits base width value) = some (value % Nat.pow base width) := by
  rw [readDigits?, readDigitsFrom?_fixedDigits hbase hle]
  rw [Nat.zero_mul, Nat.zero_add]

end Lifecycle.Text
