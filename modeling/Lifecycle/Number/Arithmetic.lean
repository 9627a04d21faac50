import Lifecycle.Number.Binary64
/-!
# Products and quotients of doubles

The exact result of two doubles, rounded to the nearest double.  What has no value is not a number.
-/

namespace Lifecycle.Number.Binary64

def zero (negative : Bool) : Binary64 := finite negative 0 minExponent

def isZero : Binary64 → Bool
  | finite _ significand _ => significand == 0
  | _ => false

def isNegative : Binary64 → Bool
  | nan => false
  | infinity negative => negative
  | finite negative _ _ => negative

def negate : Binary64 → Binary64
  | nan => nan
  | infinity negative => infinity (!negative)
  | finite negative significand exponent => finite (!negative) significand exponent

def ofNat (n : Nat) : Binary64 :=
  if n = 0 then zero false else ofQuotient false n 1

def mul : Binary64 → Binary64 → Binary64
  | nan, _ | _, nan => nan
  | infinity s, y => if y.isZero then nan else infinity (s != y.isNegative)
  | x, infinity t => if x.isZero then nan else infinity (x.isNegative != t)
  | finite s m e, finite t n f =>
    if m * n = 0 then zero (s != t)
    else ofQuotient (s != t) (m * n * power 2 (e + f)) (power 2 (-(e + f)))

def div : Binary64 → Binary64 → Binary64
  | nan, _ | _, nan | infinity _, infinity _ => nan
  | infinity s, y => infinity (s != y.isNegative)
  | x, infinity t => zero (x.isNegative != t)
  | finite s m e, finite t n f =>
    if n = 0 then (if m = 0 then nan else infinity (s != t))
    else if m = 0 then zero (s != t)
    else ofQuotient (s != t) (m * power 2 (e - f)) (n * power 2 (f - e))

def tenPower (k : Nat) : Binary64 := ofNat (Nat.pow 10 k)

@[simp] theorem negate_negate (x : Binary64) : x.negate.negate = x := by
  cases x <;> simp [negate]

end Lifecycle.Number.Binary64
