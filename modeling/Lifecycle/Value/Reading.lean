import Lifecycle.Number.Shortest
import Lifecycle.Phase.SetText
import Lifecycle.Text.Quoted
/-!
# Reading typed data

What readers of typed data share over the formats the data come in: the ways in which reading
fails, their texts, and what a format has to offer.
-/

namespace Lifecycle

open Lifecycle.Number Lifecycle.Text

inductive Found where
  | null
  | bool (b : Bool)
  | int (n : Int)
  | float (x : Binary64)
  | text (s : String)
  | sequence
  | map
  deriving DecidableEq, Repr

def Found.describe (layout : FloatLayout) : Found → String
  | .null => "null"
  | .bool b => "boolean `" ++ toString b ++ "`"
  | .int n => "integer `" ++ toString n ++ "`"
  | .float x => "floating point `" ++ layout.text x ++ "`"
  | .text s => "string " ++ quotedString s
  | .sequence => "sequence"
  | .map => "map"

inductive ReadError where
  /-- Something of another kind was found. -/
  | wrongType (found : Found) (expected : String)
  /-- Something of the right kind was found that cannot be used. -/
  | wrongValue (found : Found) (expected : String)
  /-- A sequence has the wrong number of elements. -/
  | wrongLength (length : Nat) (expected : String)
  /-- A field without a default is absent. -/
  | missingField (name : String)
  /-- A name is not among the known ones. -/
  | unknownVariant (name : String) (known : List String)
  | badFlags (cause : PhaseSet.TextError)
  | badTypeName (s : String)
  | badUuid
  /-- Neither a text nor a table was found for a name. -/
  | notTextOrTable
  /-- A table without entries, or with several, was found for a name. -/
  | notOneEntry (several : Bool)
  /-- A table or an array that should have no entries has some. -/
  | notEmptyTable
  /-- There are tables in an array that should have none. -/
  | notEmptyArray
  /-- Something that is no table was found after a name. -/
  | notTable (kind : String)
  deriving DecidableEq, Repr

namespace ReadError

def marked (s : String) : String := "`" ++ s ++ "`"

def expectedNames : List String → String
  | [] => "there are no variants"
  | [a] => "expected " ++ marked a
  | [a, b] => "expected " ++ marked a ++ " or " ++ marked b
  | names => "expected one of " ++ ", ".intercalate (names.map marked)

/-- The text of the error, with numbers laid out as the format has them. -/
def message (layout : FloatLayout) : ReadError → String
  | wrongType found expected =>
    "invalid type: " ++ found.describe layout ++ ", expected " ++ expected
  | wrongValue found expected =>
    "invalid value: " ++ found.describe layout ++ ", expected " ++ expected
  | wrongLength length expected => s!"invalid length {length}, expected {expected}"
  | missingField name => "missing field " ++ marked name
  | unknownVariant name known => "unknown variant " ++ marked name ++ ", " ++ expectedNames known
  | badFlags cause => cause.message
  | badTypeName s => s!"invalid extension type '{s}': expected 'namespace::name'"
  | badUuid => "malformed UUID"
  | notTextOrTable => "wanted string or table"
  | notOneEntry several =>
    "wanted exactly 1 element, " ++ (if several then "more than 1 element" else "found 0 elements")
  | notEmptyTable => "expected empty table"
  | notEmptyArray => "expected empty array"
  | notTable kind => "expected table, found " ++ kind

end ReadError

/-- The members of a structured value: named ones, or ones in the declared order. -/
inductive Members (δ : Type) where
  | named (fields : List (String × δ))
  | ordered (items : List δ)

/-- What a format offers for reading typed data from its values. -/
structure Format (δ : Type) where
  text : δ → Except ReadError String
  elements : δ → Except ReadError (List δ)
  /-- The members of a value of the structured type `expected`. -/
  members : (expected : String) → δ → Except ReadError (Members δ)
  /-- Which of the known names without contents a value is. -/
  variant : (known : List String) → δ → Except ReadError String
  /-- Whether surplus members given in order are refused. -/
  strict : Bool

namespace Format

variable {δ : Type}

def oneOf {α : Type} (f : Format δ) (all : List α) (name : α → String) (d : δ) :
    Except ReadError α := do
  let s ← f.variant (all.map name) d
  match all.find? (name · == s) with
  | some a => return a
  | none => throw (.unknownVariant s (all.map name))

def texts (f : Format δ) (d : δ) : Except ReadError (List String) := do
  (← f.elements d).mapM f.text

/-- The members of a structured value with the given declared names, each with its name, and what
has to be reported once they have been read. -/
def fields (f : Format δ) (expected : String) (names : List String) (d : δ) :
    Except ReadError (List (String × δ) × Option ReadError) := do
  match ← f.members expected d with
  | .named fields => return (fields, none)
  | .ordered items =>
    let surplus := f.strict && names.length < items.length
    return (names.zip items,
      if surplus then some (.wrongLength items.length "fewer elements in array") else none)

end Format

end Lifecycle
