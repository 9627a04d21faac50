import Lifecycle.Text.Digits
import Lifecycle.Text.Unprintable
/-!
# Quotations

A text between double quotes as it is shown in descriptions and messages: quotes and backslashes
are escaped, and what cannot be shown is written as a number.
-/

namespace Lifecycle.Text

def quoteChar (c : Char) : List Char :=
  if c = '"' then ['\\', '"']
  else if c = '\\' then ['\\', '\\']
  else if c = '\n' then ['\\', 'n']
  else if c = '\r' then ['\\', 'r']
  else if c = '\t' then ['\\', 't']
  else if c.toNat = 0 then ['\\', '0']
  else if isUnprintable c then
    '\\' :: 'u' :: '\x7b' :: digitsOf 16 c.toNat ++ ['\x7d']
  else [c]

def quoted (s : List Char) : List Char :=
  '"' :: s.flatMap quoteChar ++ ['"']

def quotedString (s : String) : String :=
  String.ofList (quoted s.toList)

end Lifecycle.Text
