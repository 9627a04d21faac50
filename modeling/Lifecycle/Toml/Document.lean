import Lifecycle.Toml.Statement
/-!
# Assembling documents

The statements of a document make up one tree of tables.  A table can be opened once, a key can be
given once, and what one form of a table has closed no other form reopens.
-/

namespace Lifecycle.Toml

/-- What a header opens, and the values given up to the next header. -/
structure Section where
  key : Key
  /-- Whether the header opens a further table of an array of tables. -/
  isElement : Bool
  assigns : List (Key × Value)

def sectionsOf : List Statement → List (Key × Value) × List Section
  | [] => ([], [])
  | .assign key v :: rest =>
    let (assigns, sections) := sectionsOf rest
    ((key, v) :: assigns, sections)
  | .openTable key :: rest =>
    let (assigns, sections) := sectionsOf rest
    ([], ⟨key, false, assigns⟩ :: sections)
  | .openElement key :: rest =>
    let (assigns, sections) := sectionsOf rest
    ([], ⟨key, true, assigns⟩ :: sections)

def replaceAt (key : String) (v : Value) (entries : Entries) : Entries :=
  entries.map fun (k, old) => if k = key then (k, v) else (k, old)

/-- Changes the table that `path` leads to from a table with the given kind and entries.  Missing
tables on the way are made; the way leads through the last element of an array of tables, and
never through another value.  A dotted key does not lead through a table with its own header. -/
def changeAt (isDotted : Bool) (change : TableKind → Entries → Option Entries)
    (path : List String) (kind : TableKind) (entries : Entries) : Option Entries :=
  match path with
  | [] => change kind entries
  | part :: path =>
    match entries.lookup part with
    | none =>
      let made := if isDotted then TableKind.dotted else TableKind.implied
      (changeAt isDotted change path made []).map fun inner =>
        entries ++ [(part, .table made inner)]
    | some (.tables items) =>
      match items.getLast? with
      | none => none
      | some element =>
        (changeAt isDotted change path .explicit element).map fun inner =>
          replaceAt part (.tables (items.dropLast ++ [inner])) entries
    | some (.table kind inner) =>
      if kind = .inline || kind = .inlineDotted || (isDotted && kind = .explicit) then none
      else
        (changeAt isDotted change path kind inner).map fun inner =>
          replaceAt part (.table kind inner) entries
    | some _ => none

/-- Gives a value to a key of a table.  Under a dotted key the table has to have come to be by
dotted keys. -/
def assign (entries : Entries) (key : Key) (v : Value) : Option Entries :=
  let give (kind : TableKind) (entries : Entries) : Option Entries :=
    if (kind == .dotted) == key.path.isEmpty then none
    else if (entries.lookup key.last).isSome then none
    else some (entries ++ [(key.last, v)])
  changeAt true give key.path .explicit entries

def assignAll (entries : Entries) (assigns : List (Key × Value)) : Option Entries :=
  assigns.foldlM (fun entries (key, v) => assign entries key v) entries

/-- Adds a section to the tree.  A table that was only named on the way by headers may be opened;
it moves to the end of its parent. -/
def addSection (root : Entries) (s : Section) : Option Entries :=
  let place (_ : TableKind) (entries : Entries) : Option Entries :=
    match s.isElement, entries.lookup s.key.last with
    | true, none => (assignAll [] s.assigns).map fun element =>
        entries ++ [(s.key.last, .tables [element])]
    | true, some (.tables items) => (assignAll [] s.assigns).map fun element =>
        replaceAt s.key.last (.tables (items ++ [element])) entries
    | false, none => (assignAll [] s.assigns).map fun inner =>
        entries ++ [(s.key.last, .table .explicit inner)]
    | false, some (.table .implied inner) => (assignAll inner s.assigns).map fun inner =>
        entries.filter (·.1 != s.key.last) ++ [(s.key.last, .table .explicit inner)]
    | _, _ => none
  changeAt false place s.key.path .explicit root

def assemble (statements : List Statement) : Option Entries := do
  let (assigns, sections) := sectionsOf statements
  let root ← assignAll [] assigns
  sections.foldlM addSection root

def dropByteOrderMark : List Char → List Char
  | c :: rest => if c.toNat = 0xFEFF then rest else c :: rest
  | [] => []

/-- Reads a document: the root table, or nothing if the text is not a document. -/
def parse? (s : List Char) : Option Value := do
  let text := dropByteOrderMark s
  let statements ← statements? (text.length + 1) text
  (assemble statements).map (.table .explicit)

end Lifecycle.Toml
