import Lifecycle.Value.Basic
import Lifecycle.Value.Reading
/-!
# Values as a format

Reading typed data from values: texts, lists, records and names, each with the error that tells
what was found in its place.
-/

namespace Lifecycle.Value

open Lifecycle.Number

def found : Value → Found
  | null => .null
  | bool b => .bool b
  | int n => .int n
  | float x => .float x
  | text s => .text s
  | list _ => .sequence
  | record _ => .map

def toText (expected : String) : Value → Except ReadError String
  | text s => .ok s
  | v => .error (.wrongType v.found expected)

def toList : Value → Except ReadError (List Value)
  | list items => .ok items
  | v => .error (.wrongType v.found "a sequence")

def toFields : Value → Except ReadError Fields
  | record fields => .ok fields
  | v => .error (.wrongType v.found "a map")

def toMembers (expected : String) : Value → Except ReadError (Members Value)
  | record fields => .ok (.named fields)
  | list items => .ok (.ordered items)
  | v => .error (.wrongType v.found expected)

/-- A known name: its text, or a record with the name for its only key and no contents. -/
def toVariant (known : List String) : Value → Except ReadError String
  | text s => if known.contains s then .ok s else .error (.unknownVariant s known)
  | record [(name, contents)] =>
    if known.contains name then
      match contents with
      | null => .ok name
      | v => .error (.wrongType v.found "unit")
    else .error (.unknownVariant name known)
  | record _ => .error (.wrongValue .map "map with a single key")
  | v => .error (.wrongType v.found "string or map")

def format : Format Value where
  text := toText "a string"
  elements := toList
  members := toMembers
  variant := toVariant
  strict := true

def errorMessage (e : ReadError) : String := e.message .compact

end Lifecycle.Value
