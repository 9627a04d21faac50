import Lifecycle.Number.Shortest
import Lifecycle.Text.Digits
import Lifecycle.Value.Basic
/-!
# Writing JSON

The JSON text of a value, without spaces.  A number that is not finite is written as null.
-/

namespace Lifecycle.Json

open Lifecycle.Number Lifecycle.Text

def writeChar (c : Char) : List Char :=
  if c = '"' then ['\\', '"']
  else if c = '\\' then ['\\', '\\']
  else if c = '\n' then ['\\', 'n']
  else if c = '\r' then ['\\', 'r']
  else if c = '\t' then ['\\', 't']
  else if c.toNat = 8 then ['\\', 'b']
  else if c.toNat = 12 then ['\\', 'f']
  else if c.toNat < 0x20 then '\\' :: 'u' :: fixedDigits 16 4 c.toNat
  else [c]

def writeString (s : String) : List Char := '"' :: s.toList.flatMap writeChar ++ ['"']

def writeFloat : Binary64 → List Char
  | .finite negative significand exponent =>
    (FloatLayout.compact.text (.finite negative significand exponent)).toList
  | _ => "null".toList

mutual

def write : Value → List Char
  | .null => "null".toList
  | .bool b => (toString b).toList
  | .int n => (toString n).toList
  | .float x => writeFloat x
  | .text s => writeString s
  | .list items => '[' :: writeItems items ++ [']']
  | .record fields => '\x7b' :: writeFields fields ++ ['\x7d']

def writeItems : List Value → List Char
  | [] => []
  | [v] => write v
  | v :: rest => write v ++ ',' :: writeItems rest

def writeFields : List (String × Value) → List Char
  | [] => []
  | [(key, v)] => writeString key ++ ':' :: write v
  | (key, v) :: rest => writeString key ++ ':' :: write v ++ ',' :: writeFields rest

end

def text (v : Value) : String := String.ofList (write v)

end Lifecycle.Json
