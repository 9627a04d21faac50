/-!
# Double-precision numbers

Numbers with a significand of fifty-three bits, as exact values and not as machine floats, and the
rounding of a decimal to the nearest of them.
-/

namespace Lifecycle.Number

inductive Binary64 where
  | nan
  | infinity (negative : Bool)
  /-- The number `± significand * 2 ^ exponent`; the significand has fifty-three bits, or fewer at
  the least exponent. -/
  | finite (negative : Bool) (significand : Nat) (exponent : Int)
  deriving DecidableEq, Repr

namespace Binary64

def minExponent : Int := -1074

def maxExponent : Int := 971

def significandBound : Nat := 9007199254740992

/-- A power of a base; for a negative exponent it is one. -/
def power (base : Nat) (exponent : Int) : Nat := Nat.pow base exponent.toNat

/-- A quotient rounded to the nearest integer; a half goes to the even neighbour. -/
def roundDiv (num den : Nat) : Nat :=
  let q := num / den
  let r := 2 * (num % den)
  if den < r || (r == den && q % 2 == 1) then q + 1 else q

def decimalQuotient (digits : Nat) (exponent : Int) : Nat × Nat :=
  (digits * power 10 exponent, power 10 (-exponent))

def ofQuotient (negative : Bool) (num den : Nat) : Binary64 :=
  let low : Int := (Nat.log2 num : Int) - (Nat.log2 den : Int) - 53
  let fits := num * power 2 (-(low + 53)) < den * power 2 (low + 53)
  let q := max (if fits then low else low + 1) minExponent
  let m := roundDiv (num * power 2 (-q)) (den * power 2 q)
  let (m, q) := if m = significandBound then (significandBound / 2, q + 1) else (m, q)
  if maxExponent < q then infinity negative else finite negative m q

/-- The double nearest to `± digits * 10 ^ exponent`.  Decimals far beyond the range are decided
by their number of digits. -/
def ofDecimal (negative : Bool) (digits : Nat) (exponent : Int) : Binary64 :=
  let places := ((Nat.toDigits 10 digits).length : Int) + exponent
  if digits = 0 || places < -330 then finite negative 0 minExponent
  else if 310 < places then infinity negative
  else
    let (num, den) := decimalQuotient digits exponent
    ofQuotient negative num den

end Binary64

end Lifecycle.Number
