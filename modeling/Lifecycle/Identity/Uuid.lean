import Lifecycle.Identity.Sha1
import Lifecycle.Text.Cut
import Lifecycle.Text.Digits
/-!
# Universally unique identifiers

128-bit identifiers with their text forms.  An identifier is derived from a name by hashing
(version 5) or drawn from a numbered supply in the form of a random one (version 4).
-/

namespace Lifecycle.Identity

open Lifecycle.Text

structure Uuid where
  bits : BitVec 128
  deriving DecidableEq, Inhabited

namespace Uuid

def natOfBytes (bytes : List UInt8) : Nat :=
  bytes.foldl (fun value byte => 256 * value + byte.toNat) 0

def ofBytes (bytes : List UInt8) : Uuid :=
  ⟨BitVec.ofNat 128 (natOfBytes bytes)⟩

def toBytes (u : Uuid) : List UInt8 :=
  Sha1.bigEndian 16 u.bits.toNat

def version (u : Uuid) : Nat :=
  ((u.bits >>> 76) &&& 0xF).toNat

/-- The bits of the version nibble and of the variant. -/
def markMask : BitVec 128 := 0xF000C000000000000000

/-- An identifier with its version nibble set and its variant bits set to `10`. -/
def stamp (version : BitVec 128) (u : Uuid) : Uuid :=
  ⟨(u.bits &&& ~~~markMask) ||| (version <<< 76) ||| 0x8000000000000000⟩

/-- The version 5 identifier of a name within a name space. -/
def nameBased (space : Uuid) (name : List UInt8) : Uuid :=
  stamp 5 (ofBytes ((Sha1.digest (space.toBytes ++ name)).take 16))

/-- How many identifiers the supply has: the number is carried by the low sixty bits. -/
def supplySize : Nat := 1152921504606846976

def numbered (n : Nat) : Uuid :=
  stamp 4 ⟨BitVec.ofNat 128 (n % supplySize)⟩

/-- The text form: lower-case digits in groups of 8, 4, 4, 4 and 12, joined by hyphens. -/
def toText (u : Uuid) : List Char :=
  let digits := fixedDigits 16 32 u.bits.toNat
  digits.take 8 ++ '-' :: (digits.drop 8).take 4 ++ '-' :: (digits.drop 12).take 4 ++
    '-' :: (digits.drop 16).take 4 ++ '-' :: digits.drop 20

def ofDigits? (s : List Char) : Option Uuid :=
  if s.length = 32 then
    (readDigits? 16 s).map fun value => ⟨BitVec.ofNat 128 value⟩
  else none

def ofHyphenated? (s : List Char) : Option Uuid :=
  let groups := pieces (· == '-') s
  if groups.map List.length = [8, 4, 4, 4, 12] then ofDigits? groups.flatten else none

def resourceMark : List Char := "urn:uuid:".toList

/-- Reads a text form: bare digits, hyphenated groups, groups in braces, or groups after
`urn:uuid:` in letters of either case. -/
def ofText? (s : List Char) : Option Uuid :=
  match s with
  | '\x7b' :: rest => if rest.getLast? = some '\x7d' then ofHyphenated? rest.dropLast else none
  | _ =>
    if (s.take resourceMark.length).map Char.toLower = resourceMark then
      ofHyphenated? (s.drop resourceMark.length)
    else (ofDigits? s).or (ofHyphenated? s)

def toString (u : Uuid) : String :=
  String.ofList u.toText

instance : ToString Uuid :=
  ⟨Uuid.toString⟩

end Uuid

end Lifecycle.Identity
