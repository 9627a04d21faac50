import Lifecycle.Number.Binary64
/-!
# Shortest decimals

The decimal with the fewest digits that lies within the rounding interval of a double, and its
text in positional or scientific notation.
-/

namespace Lifecycle.Number

open Binary64 (power)

/-- A decimal `digits * 10 ^ exponent`. -/
structure Decimal where
  digits : Nat
  exponent : Int
  deriving DecidableEq, Repr

inductive Tie where
  | toEven
  | up
  deriving DecidableEq, Repr

def Decimal.trimZeros (d : Decimal) : Decimal :=
  if _h : d.digits ≠ 0 ∧ d.digits % 10 = 0 then
    Decimal.trimZeros ⟨d.digits / 10, d.exponent + 1⟩
  else d
termination_by d.digits
decreasing_by omega

/-- The rounding interval of a positive double, with its value, over a common denominator. -/
structure RoundingInterval where
  low : Nat
  value : Nat
  high : Nat
  den : Nat
  /-- Whether the ends round to the double too. -/
  closed : Bool

/-- The interval of reals that round to `significand * 2 ^ exponent`.  Below a power of two the
neighbours are half as far apart. -/
def RoundingInterval.of (significand : Nat) (exponent : Int) : RoundingInterval :=
  let scale := power 2 (exponent - 2)
  let below :=
    if significand = Binary64.significandBound / 2 && exponent ≠ Binary64.minExponent then 1 else 2
  { low := (4 * significand - below) * scale
    value := 4 * significand * scale
    high := (4 * significand + 2) * scale
    den := power 2 (2 - exponent)
    closed := significand % 2 == 0 }

namespace RoundingInterval

/-- Whether `point * 10 ^ exponent` lies in the interval. -/
def covers (r : RoundingInterval) (point : Nat) (exponent : Int) : Bool :=
  let num := point * power 10 exponent * r.den
  let unit := power 10 (-exponent)
  if r.closed then r.low * unit ≤ num && num ≤ r.high * unit
  else r.low * unit < num && num < r.high * unit

/-- The greatest point of the grid `10 ^ exponent` that does not exceed the value. -/
def gridBelow (r : RoundingInterval) (exponent : Int) : Nat :=
  (r.value * power 10 (-exponent)) / (r.den * power 10 exponent)

def nearerBelow (r : RoundingInterval) (tie : Tie) (point : Nat) (exponent : Int) : Bool :=
  let twice := 2 * (r.value * power 10 (-exponent))
  let middle := (2 * point + 1) * (r.den * power 10 exponent)
  twice < middle || (twice == middle && tie == .toEven && point % 2 == 0)

/-- The point of the grid `10 ^ exponent` in the interval that is nearest to the value. -/
def onGrid? (r : RoundingInterval) (tie : Tie) (exponent : Int) : Option Decimal :=
  let point := r.gridBelow exponent
  match r.covers point exponent, r.covers (point + 1) exponent with
  | true, true => some ⟨if r.nearerBelow tie point exponent then point else point + 1, exponent⟩
  | true, false => some ⟨point, exponent⟩
  | false, true => some ⟨point + 1, exponent⟩
  | false, false => none

def leadingExponent (r : RoundingInterval) : Int :=
  let estimate : Int :=
    ((Nat.toDigits 10 r.value).length : Int) - ((Nat.toDigits 10 r.den).length : Int)
  if r.den * power 10 estimate ≤ r.value * power 10 (-estimate) then estimate else estimate - 1

/-- The first hit on the grids of `count`, `count + 1`, … digits, `fuel` grids in all. -/
def search (r : RoundingInterval) (tie : Tie) (leading : Int) : Nat → Nat → Decimal
  | 0, count => ⟨r.gridBelow (leading + 1 - count), leading + 1 - count⟩
  | fuel + 1, count =>
    match r.onGrid? tie (leading + 1 - count) with
    | some decimal => decimal
    | none => r.search tie leading fuel (count + 1)

end RoundingInterval

/-- The shortest decimal that rounds to the positive double `significand * 2 ^ exponent`, the
nearest of those. -/
def Decimal.shortest (tie : Tie) (significand : Nat) (exponent : Int) : Decimal :=
  let r := RoundingInterval.of significand exponent
  (r.search tie r.leadingExponent 17 1).trimZeros

structure FloatLayout where
  /-- Which exponents of the first digit are written positionally. -/
  positional : Int → Bool
  /-- Which of two equally near shortest decimals is written. -/
  tie : Tie

namespace FloatLayout

/-- Every number is written positionally, and of two equally near decimals the greater. -/
def plain : FloatLayout := ⟨fun _ => true, .up⟩

/-- Numbers from `10 ^ -5` to below `10 ^ 16` are written positionally, and of two equally near
decimals the even one. -/
def compact : FloatLayout := ⟨fun leading => -6 < leading && leading < 16, .toEven⟩

def decimal (layout : FloatLayout) (d : Decimal) : List Char :=
  let digits := Nat.toDigits 10 d.digits
  let leading := (digits.length : Int) - 1 + d.exponent
  if layout.positional leading then
    if 0 ≤ d.exponent then
      digits ++ List.replicate d.exponent.toNat '0' ++ ['.', '0']
    else if 0 ≤ leading then
      digits.take (leading.toNat + 1) ++ '.' :: digits.drop (leading.toNat + 1)
    else
      '0' :: '.' :: List.replicate (-leading - 1).toNat '0' ++ digits
  else
    let mantissa := match digits with
      | first :: rest@(_ :: _) => first :: '.' :: rest
      | short => short
    mantissa ++ 'e' :: (if leading < 0 then '-' else '+') :: Nat.toDigits 10 leading.natAbs

def text (layout : FloatLayout) : Binary64 → String
  | .nan => "NaN"
  | .infinity negative => if negative then "-inf" else "inf"
  | .finite negative significand exponent =>
    let sign := if negative then ['-'] else []
    let body :=
      if significand = 0 then ['0', '.', '0']
      else layout.decimal (Decimal.shortest layout.tie significand exponent)
    String.ofList (sign ++ body)

end FloatLayout

end Lifecycle.Number
