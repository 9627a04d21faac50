import Lifecycle.Json.Numeral
/-!
# Reading JSON

Values from their JSON text.  Of several members with one key the last is kept, and arrays and
objects nest to a bounded depth.
-/

namespace Lifecycle.Json

open Lifecycle.Text

def depthLimit : Nat := 127

def isSpace (c : Char) : Bool := c == ' ' || c == '\t' || c == '\n' || c == '\r'

def skipSpaces (s : List Char) : List Char := s.dropWhile isSpace

/-! ## Strings -/

def simpleEscape? : Char → Option Char
  | '"' => some '"'
  | '\\' => some '\\'
  | '/' => some '/'
  | 'b' => some (Char.ofNat 8)
  | 'f' => some (Char.ofNat 12)
  | 'n' => some '\n'
  | 'r' => some '\r'
  | 't' => some '\t'
  | _ => none

/-- Whether a unit of sixteen bits is the first of a pair. -/
def isLeading (unit : Nat) : Bool := 0xD800 ≤ unit && unit < 0xDC00

def isTrailing (unit : Nat) : Bool := 0xDC00 ≤ unit && unit < 0xE000

def ofPair (leading trailing : Nat) : Char :=
  Char.ofNat (0x10000 + 0x400 * (leading - 0xD800) + (trailing - 0xDC00))

def stringBody : List Char → Option (List Char × List Char)
  | [] => none
  | '"' :: rest => some ([], rest)
  | '\\' :: 'u' :: a :: b :: c :: d :: rest =>
    (readDigits? 16 [a, b, c, d]).bind fun unit =>
      if isTrailing unit then none
      else if isLeading unit then
        match rest with
        | '\\' :: 'u' :: e :: f :: g :: h :: rest =>
          (readDigits? 16 [e, f, g, h]).bind fun second =>
            if isTrailing second then consChar (ofPair unit second) (stringBody rest) else none
        | _ => none
      else consChar (Char.ofNat unit) (stringBody rest)
  | '\\' :: c :: rest => (simpleEscape? c).bind fun x => consChar x (stringBody rest)
  | c :: rest => if c.toNat < 0x20 then none else consChar c (stringBody rest)

def string? : List Char → Option (String × List Char)
  | '"' :: rest => (stringBody rest).map fun (s, rest) => (String.ofList s, rest)
  | _ => none

/-! ## Values -/

abbrev ValueReader := List Char → Option (Value × List Char)

/-- The elements of an array that is not empty up to its closing bracket, `fuel` of them at
most. -/
def elements? (value? : ValueReader) : Nat → List Char → Option (List Value × List Char)
  | 0, _ => none
  | fuel + 1, s => do
    let (v, rest) ← value? (skipSpaces s)
    match skipSpaces rest with
    | ',' :: rest =>
      let (items, rest) ← elements? value? fuel rest
      some (v :: items, rest)
    | ']' :: rest => some ([v], rest)
    | _ => none

def members? (value? : ValueReader) :
    Nat → List Char → Option (List (String × Value) × List Char)
  | 0, _ => none
  | fuel + 1, s => do
    let (key, rest) ← string? (skipSpaces s)
    match skipSpaces rest with
    | ':' :: rest =>
      let (v, rest) ← value? (skipSpaces rest)
      match skipSpaces rest with
      | ',' :: rest =>
        let (items, rest) ← members? value? fuel rest
        some ((key, v) :: items, rest)
      | '\x7d' :: rest => some ([(key, v)], rest)
      | _ => none
    | _ => none

def scalar? (s : List Char) : Option (Value × List Char) :=
  match s with
  | '"' :: _ => (string? s).map fun (t, rest) => (.text t, rest)
  | 'n' :: 'u' :: 'l' :: 'l' :: rest => some (.null, rest)
  | 't' :: 'r' :: 'u' :: 'e' :: rest => some (.bool true, rest)
  | 'f' :: 'a' :: 'l' :: 's' :: 'e' :: rest => some (.bool false, rest)
  | _ => do
    let (n, rest) ← numeral? s
    let v ← n.value?
    some (v, rest)

/-- A value in which `depth` further brackets may be open at once. -/
def value? : Nat → ValueReader
  | 0, s =>
    match s with
    | '[' :: _ | '\x7b' :: _ => none
    | _ => scalar? s
  | depth + 1, s =>
    match s with
    | '[' :: rest =>
      match skipSpaces rest with
      | ']' :: rest => some (.list [], rest)
      | rest => (elements? (value? depth) (rest.length + 1) rest).map fun (items, rest) =>
          (.list items, rest)
    | '\x7b' :: rest =>
      match skipSpaces rest with
      | '\x7d' :: rest => some (.record [], rest)
      | rest => (members? (value? depth) (rest.length + 1) rest).map fun (members, rest) =>
          (.record (Fields.ofList members), rest)
    | _ => scalar? s

def parse? (s : String) : Option Value := do
  let (v, rest) ← value? depthLimit (skipSpaces s.toList)
  if (skipSpaces rest).isEmpty then some v else none

end Lifecycle.Json
