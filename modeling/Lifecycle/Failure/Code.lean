import Lifecycle.Text.Cut
/-!
# Error codes

Errors carry a code in upper snake case that begins with the mark of the layer it comes from.
Codes are checked against this convention, and the first fault found is reported.
-/

namespace Lifecycle.ErrorCode

open Lifecycle.Text

def isCodeChar (c : Char) : Bool :=
  ('A' ≤ c && c ≤ 'Z') || ('0' ≤ c && c ≤ '9') || c == '_'

/-- Upper snake case: capital letters and digits, with single underscores inside only. -/
def isUpperSnake (s : List Char) : Bool :=
  !s.isEmpty && s.head? != some '_' && s.getLast? != some '_' && !occursIn ['_', '_'] s &&
    s.all isCodeChar

inductive Fault where
  | empty
  | badStart (code mark : String)
  | badForm (code : String)
  deriving DecidableEq, Repr

def Fault.message : Fault → String
  | .empty => "Error code must not be empty"
  | .badStart code mark => s!"Error code '{code}' must start with prefix '{mark}'"
  | .badForm code => s!"Error code '{code}' must be UPPER_SNAKE_CASE"

/-- Checks a code: that it is not empty, that it begins with `mark`, and its form, in that
order. -/
def check (mark code : String) : Except Fault Unit :=
  if code.toList = [] then .error .empty
  else if mark.toList.isPrefixOf code.toList = false then .error (.badStart code mark)
  else if isUpperSnake code.toList = false then .error (.badForm code)
  else .ok ()

/-- Checks codes in order; the first faulty one is reported. -/
def checkAll (mark : String) : List String → Except Fault Unit
  | [] => .ok ()
  | code :: rest =>
    match check mark code with
    | .ok () => checkAll mark rest
    | .error fault => .error fault

end Lifecycle.ErrorCode
