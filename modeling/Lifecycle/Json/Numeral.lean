import Lifecycle.Number.Arithmetic
import Lifecycle.Text.Cut
import Lifecycle.Text.Digits
import Lifecycle.Value.Basic
/-!
# Numerals of JSON

A number as it is written, and the value it stands for: an integer if it is written as one and fits
64 bits, and a double otherwise.  A double is had from the digits that fit a word of 64 bits, scaled
by a power of ten with a rounding at each step.
-/

namespace Lifecycle.Json

open Lifecycle.Number Lifecycle.Text

structure Numeral where
  negative : Bool
  whole : List Char
  /-- The digits after the point; there are none if there is no point. -/
  fraction : List Char
  exponent? : Option Int
  deriving DecidableEq, Repr

/-! ## Reading -/

def digits? (s : List Char) : Option (List Char × List Char) :=
  let digits := s.takeWhile (isDigitOf 10)
  if digits.isEmpty then none else some (digits, s.drop digits.length)

/-- The digits before the point: a zero alone, or digits that do not begin with one. -/
def whole? : List Char → Option (List Char × List Char)
  | '0' :: rest => some (['0'], rest)
  | s => digits? s

def fraction? : List Char → Option (List Char × List Char)
  | '.' :: rest => digits? rest
  | s => some ([], s)

def exponent? (s : List Char) : Option (Option Int × List Char) :=
  match s with
  | 'e' :: rest | 'E' :: rest => do
    let (negative, rest) := match rest with
      | '-' :: rest => (true, rest)
      | '+' :: rest => (false, rest)
      | _ => (false, rest)
    let (digits, rest) ← digits? rest
    let magnitude : Nat ← readDigits? 10 digits
    some (some (if negative then -magnitude else magnitude), rest)
  | _ => some (none, s)

def numeral? (s : List Char) : Option (Numeral × List Char) := do
  let (negative, s) := match s with
    | '-' :: rest => (true, rest)
    | _ => (false, s)
  let (whole, s) ← whole? s
  let (fraction, s) ← fraction? s
  let (exponent?, s) ← exponent? s
  some (⟨negative, whole, fraction, exponent?⟩, s)

/-! ## Values -/

/-- How many numbers a word of 64 bits can be. -/
def wordBound : Nat := 18446744073709551616

def leastMagnitude : Nat := 9223372036854775808

/-- The number that digits after `start` make up as long as it fits a word, and the digits from the
first one on that no longer fits. -/
def takeWord (start : Nat) : List Char → Nat × List Char
  | [] => (start, [])
  | c :: rest =>
    let next := 10 * start + (digitValue? c).getD 0
    if next < wordBound then takeWord next rest else (start, c :: rest)

def greatestPower : Nat := 308

/-- A double divided by a power of ten, in steps that are doubles. -/
def scaleDown (x : Binary64) (count : Nat) : Binary64 :=
  if _h : count ≤ greatestPower then x.div (Binary64.tenPower count)
  else if x.isZero then x
  else scaleDown (x.div (Binary64.tenPower greatestPower)) (count - greatestPower)
termination_by count
decreasing_by simp only [greatestPower] at *; omega

def scaled? (significand : Nat) (exponent : Int) : Option Binary64 :=
  let x := Binary64.ofNat significand
  if significand = 0 then some x
  else if greatestPower < exponent then none
  else if exponent < 0 then some (scaleDown x (-exponent).toNat)
  else
    match x.mul (Binary64.tenPower exponent.toNat) with
    | .infinity _ => none
    | y => some y

namespace Numeral

def signed (n : Numeral) (x : Binary64) : Value :=
  .float (if n.negative then x.negate else x)

def isWhole (n : Numeral) : Bool := n.fraction.isEmpty && n.exponent?.isNone

/-- The value of a numeral whose digits make up a word: an integer, unless it is below the least one
or a negative zero. -/
def ofWord (n : Numeral) (word : Nat) : Value :=
  if !n.negative then .int word
  else if 0 < word && word ≤ leastMagnitude then .int (-word)
  else n.signed (Binary64.ofNat word)

def value? (n : Numeral) : Option Value :=
  let (word, surplus) := takeWord 0 n.whole
  if n.isWhole && surplus.isEmpty then some (n.ofWord word)
  else
    let (significand, dropped) := takeWord word n.fraction
    let shift : Int := surplus.length - (n.fraction.length - dropped.length : Nat)
    (scaled? significand (n.exponent?.getD 0 + shift)).map n.signed

end Numeral

end Lifecycle.Json
