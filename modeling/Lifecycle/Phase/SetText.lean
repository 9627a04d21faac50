import Lifecycle.Phase.Set
import Lifecycle.Text.Blank
import Lifecycle.Text.Cut
import Lifecycle.Text.Digits
/-!
# Sets of phases as text

A set is written as the flag names of its phases joined by ` | `, with the bits that stand for no
phase in one hexadecimal part at the end.  Reading takes the parts in any order and number.
-/

namespace Lifecycle.PhaseSet

open Lifecycle.Text

inductive TextError where
  | emptyFlag
  /-- A part that begins with `0x` is not a number of sixteen bits. -/
  | badHexFlag
  /-- A part is not the name of a flag. -/
  | unknownFlag
  deriving DecidableEq, Repr

def TextError.message : TextError → String
  | .emptyFlag => "encountered empty flag"
  | .badHexFlag => "invalid hex flag"
  | .unknownFlag => "unrecognized named flag"

def separator : List Char := [' ', '|', ' ']

def hexPart (s : PhaseSet) : List (List Char) :=
  if s.isEmpty then [] else ['0' :: 'x' :: digitsOf 16 s.bits.toNat]

def parts (s : PhaseSet) : List (List Char) :=
  s.phases.map (·.flagName.toList) ++ hexPart s.unknown

def toText (s : PhaseSet) : String :=
  String.ofList (join separator s.parts)

/-- Reads hexadecimal digits after an optional plus sign, as a number of sixteen bits. -/
def ofHex? (s : List Char) : Option PhaseSet :=
  let digits := match s with
    | '+' :: rest => rest
    | _ => s
  if digits = [] then none
  else
    match readDigits? 16 digits with
    | some value => if value < 65536 then some ⟨BitVec.ofNat 16 value⟩ else none
    | none => none

def ofPart (part : List Char) : Except TextError PhaseSet :=
  match part with
  | [] => .error .emptyFlag
  | '0' :: 'x' :: digits =>
    match ofHex? digits with
    | some s => .ok s
    | none => .error .badHexFlag
  | _ =>
    match Phase.ofFlagName? (String.ofList part) with
    | some p => .ok p.toSet
    | none => .error .unknownFlag

/-- The union of the parts read in order, added to `start`; the first part that cannot be read
decides the error. -/
def ofParts (start : PhaseSet) : List (List Char) → Except TextError PhaseSet
  | [] => .ok start
  | part :: rest =>
    match ofPart (trim part) with
    | .ok s => ofParts (start ∪ s) rest
    | .error e => .error e

/-- Reads a set: nothing but blanks is the empty set, and otherwise the parts between bars are
joined. -/
def ofText (s : String) : Except TextError PhaseSet :=
  match trim s.toList with
  | [] => .ok ∅
  | text => ofParts ∅ (pieces (· == '|') text)

/-- The description of a set: its text in parentheses, with `0x0` for the empty set. -/
def describe (s : PhaseSet) : String :=
  "PhaseSet(" ++ (if s.isEmpty then "0x0" else s.toText) ++ ")"

end Lifecycle.PhaseSet
