import Lifecycle.Value.Reading
/-!
# Documents

The values of a TOML document, and the document as a format to read typed data from.  Tables
remember how they came to be, for that decides what may still be added to them.
-/

namespace Lifecycle.Toml

open Lifecycle.Number

inductive TableKind where
  /-- Written between braces. -/
  | inline
  /-- Named on the way by a dotted key between braces. -/
  | inlineDotted
  /-- Opened by a header of its own. -/
  | explicit
  /-- Named on the way by a header. -/
  | implied
  /-- Named on the way by a dotted key. -/
  | dotted
  deriving DecidableEq, Repr

inductive Value where
  | text (s : String)
  | int (n : Int)
  | float (x : Binary64)
  | bool (b : Bool)
  /-- A date, a time or both. -/
  | dateTime
  | array (items : List Value)
  | table (kind : TableKind) (entries : List (String × Value))
  /-- The tables opened by headers in double brackets. -/
  | tables (items : List (List (String × Value)))

/-- The entries of a table, in the order in which they were first given. -/
abbrev Entries := List (String × Value)

namespace Value

/-- How a value is named where it was not expected; a date or time counts as a map. -/
def found : Value → Found
  | text s => .text s
  | int n => .int n
  | float x => .float x
  | bool b => .bool b
  | dateTime => .map
  | array _ => .sequence
  | table _ _ => .map
  | tables _ => .sequence

def kindName : Value → String
  | text _ => "string"
  | int _ => "integer"
  | float _ => "float"
  | bool _ => "boolean"
  | dateTime => "datetime"
  | array _ => "array"
  | table .inline _ | table .inlineDotted _ => "inline table"
  | table _ _ => "table"
  | tables _ => "array of tables"

def toText (expected : String) : Value → Except ReadError String
  | text s => .ok s
  | v => .error (.wrongType v.found expected)

def toList : Value → Except ReadError (List Value)
  | array items => .ok items
  | tables items => .ok (items.map (table .explicit))
  | v => .error (.wrongType v.found "a sequence")

/-- The members of a structured value, which is a table or an array.  A date or time counts as a
table without any entry of interest. -/
def toMembers (expected : String) : Value → Except ReadError (Members Value)
  | table _ entries => .ok (.named entries)
  | dateTime => .ok (.named [])
  | array items => .ok (.ordered items)
  | tables items => .ok (.ordered (items.map (table .explicit)))
  | v => .error (.wrongType v.found expected)

/-- A known name: its text, or a table with the name for its only key and an empty table or array at
it. -/
def toVariant (known : List String) : Value → Except ReadError String
  | text s => if known.contains s then .ok s else .error (.unknownVariant s known)
  | table _ [] => .error (.notOneEntry false)
  | table _ [(name, contents)] =>
    if known.contains name then
      match contents with
      | table _ [] | array [] => .ok name
      | table _ _ | array _ => .error .notEmptyTable
      | tables _ => .error .notEmptyArray
      | v => .error (.notTable v.kindName)
    else .error (.unknownVariant name known)
  | table _ _ => .error (.notOneEntry true)
  | _ => .error .notTextOrTable

def format : Format Value where
  text := toText "a string"
  elements := toList
  members := toMembers
  variant := toVariant
  strict := false

def errorMessage (e : ReadError) : String := e.message .plain

end Value

end Lifecycle.Toml
