import Lifecycle.Toml.Scalar
/-!
# Writing strings

The form in which a string is written in a document: the plainest of the four that can hold it,
with escapes only where no form holds it as it is.
-/

namespace Lifecycle.Toml

open Lifecycle.Text

inductive StringStyle where
  | basic
  | literal
  | multiLineBasic
  | multiLineLiteral
  deriving DecidableEq, Repr

/-- A control character other than a tab and the end of a line. -/
def isControl (c : Char) : Bool :=
  (c.toNat < 0x20 && c != '\t' && c != '\n') || c.toNat == 0x7F

/-- The longest run of a character that stands at the beginning of a text or later in it; `run`
characters stand directly in front of the text. -/
def longestRun (quote : Char) (run : Nat) : List Char → Nat
  | [] => run
  | c :: rest =>
    if c = quote then longestRun quote (run + 1) rest else max run (longestRun quote 0 rest)

namespace StringStyle

def choose (s : List Char) : StringStyle :=
  let control := s.any isControl
  let newline := s.contains '\n'
  let backslash := s.contains '\\'
  if !control && !backslash && !s.contains '"' && !newline then basic
  else if !control && !s.contains '\'' && !newline then literal
  else if !control && !backslash && longestRun '"' 0 s ≤ 2 then multiLineBasic
  else if !control && longestRun '\'' 0 s ≤ 2 then multiLineLiteral
  else if newline then multiLineBasic
  else basic

end StringStyle

def numericEscape (c : Char) : List Char :=
  '\\' :: 'u' :: (fixedDigits 16 4 c.toNat).map Char.toUpper

def escapeChar (multiLine : Bool) (c : Char) : List Char :=
  if c = '\\' then ['\\', '\\']
  else if c = '\n' then (if multiLine then ['\n'] else ['\\', 'n'])
  else if c = '\t' then ['\\', 't']
  else if c = '\r' then ['\\', 'r']
  else if c.toNat = 8 then ['\\', 'b']
  else if c.toNat = 12 then ['\\', 'f']
  else if isControl c then numericEscape c
  else [c]

def writeBasic (s : List Char) : List Char :=
  s.flatMap fun c => if c = '"' then ['\\', '"'] else escapeChar false c

/-- The inside of a multi-line basic string; `run` quotes stand directly in front of it, and the
third in a row is escaped. -/
def writeMultiLineBasic (run : Nat) : List Char → List Char
  | [] => []
  | c :: rest =>
    if c = '"' then
      if run = 2 then '\\' :: '"' :: writeMultiLineBasic 0 rest
      else '"' :: writeMultiLineBasic (run + 1) rest
    else escapeChar true c ++ writeMultiLineBasic 0 rest

def writeString (s : List Char) : List Char :=
  let opening := if s.contains '\n' then ['\n'] else []
  match StringStyle.choose s with
  | .basic => '"' :: writeBasic s ++ ['"']
  | .literal => '\'' :: s ++ ['\'']
  | .multiLineBasic =>
    '"' :: '"' :: '"' :: opening ++ writeMultiLineBasic 0 s ++ ['"', '"', '"']
  | .multiLineLiteral =>
    '\'' :: '\'' :: '\'' :: opening ++ s ++ ['\'', '\'', '\'']

def writeItemLines : List (List Char) → List Char
  | [] => []
  | s :: rest => [' ', ' ', ' ', ' '] ++ writeString s ++ [',', '\n'] ++ writeItemLines rest

/-- An array of strings; several items stand on lines of their own. -/
def writeStrings : List (List Char) → List Char
  | [] => ['[', ']']
  | [s] => '[' :: writeString s ++ [']']
  | items => '[' :: '\n' :: writeItemLines items ++ [']']

end Lifecycle.Toml
