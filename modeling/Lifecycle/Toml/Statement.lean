import Lifecycle.Toml.Scalar
/-!
# Statements of documents

The lines of a document as statements: a value given to a key, or the header that opens a table.
Values nest to a bounded depth, and so do the tables that one dotted key leads through.
-/

namespace Lifecycle.Toml

/-- One more than the number of brackets that may be open at once, and of parts a key may have. -/
def depthLimit : Nat := 80

/-! ## Blank space -/

/-- The text after spaces, ends of lines and comments; `inComment` within a comment. -/
def skipLines (inComment : Bool) : List Char → List Char
  | [] => []
  | '\n' :: rest => skipLines false rest
  | '\r' :: '\n' :: rest => skipLines false rest
  | c :: rest =>
    if inComment then
      if isCommentChar c then skipLines true rest else c :: rest
    else if isSpace c then skipLines false rest
    else if c = '#' then skipLines true rest
    else c :: rest

def lineEnd? (s : List Char) : Option (List Char) :=
  let rest := match skipSpaces s with
    | '#' :: comment => comment.dropWhile isCommentChar
    | other => other
  if rest.isEmpty then some []
  else if atNewline rest then some (dropNewline rest)
  else none

/-! ## Keys -/

def isBareKeyChar (c : Char) : Bool := c.isAlphanum || c == '-' || c == '_'

def keyPart? (s : List Char) : Option (String × List Char) :=
  match s with
  | '"' :: rest => (basicBody rest).map fun (k, rest) => (String.ofList k, rest)
  | '\'' :: rest => (literalBody rest).map fun (k, rest) => (String.ofList k, rest)
  | _ =>
    let bare := s.takeWhile isBareKeyChar
    if bare.isEmpty then none else some (String.ofList bare, s.drop bare.length)

/-- The parts of a key that are joined by dots, `fuel` of them at most, and the text after the
spaces behind them. -/
def keyParts? : Nat → List Char → Option (List String × List Char)
  | 0, _ => none
  | fuel + 1, s => do
    let (part, rest) ← keyPart? (skipSpaces s)
    match skipSpaces rest with
    | '.' :: rest =>
      let (parts, rest) ← keyParts? fuel rest
      some (part :: parts, rest)
    | rest => some ([part], rest)

/-- A key, as the tables it leads through and the last part. -/
structure Key where
  path : List String
  last : String
  deriving DecidableEq, Repr

def Key.ofParts? (parts : List String) : Option Key :=
  parts.getLast?.map fun last => ⟨parts.dropLast, last⟩

def key? (s : List Char) : Option (Key × List Char) := do
  let (parts, rest) ← keyParts? (depthLimit - 1) s
  let key ← Key.ofParts? parts
  some (key, rest)

/-! ## Values -/

/-- Adds a value between braces, under a dotted key if `path` is not empty. -/
def insertInline (path : List String) (last : String) (v : Value) (entries : Entries) :
    Option Entries :=
  match path with
  | [] => if (entries.lookup last).isSome then none else some (entries ++ [(last, v)])
  | part :: path =>
    match entries.lookup part with
    | none =>
      (insertInline path last v []).map fun inner =>
        entries ++ [(part, .table .inlineDotted inner)]
    | some (.table .inlineDotted inner) =>
      (insertInline path last v inner).map fun inner =>
        entries.map fun (k, old) => if k = part then (k, .table .inlineDotted inner) else (k, old)
    | some _ => none

abbrev ValueReader := List Char → Option (Value × List Char)

def arrayItems? (value? : ValueReader) : Nat → List Char → Option (List Value × List Char)
  | 0, _ => none
  | fuel + 1, s =>
    match skipLines false s with
    | ']' :: rest => some ([], rest)
    | s => do
      let (v, rest) ← value? s
      match skipLines false rest with
      | ',' :: rest =>
        let (items, rest) ← arrayItems? value? fuel rest
        some (v :: items, rest)
      | ']' :: rest => some ([v], rest)
      | _ => none

def assignment? (value? : ValueReader) (s : List Char) :
    Option ((Key × Value) × List Char) := do
  let (key, rest) ← key? s
  match rest with
  | '=' :: rest =>
    let (v, rest) ← value? (skipSpaces rest)
    some ((key, v), skipSpaces rest)
  | _ => none

def inlineItems? (value? : ValueReader) :
    Nat → List Char → Option (List (Key × Value) × List Char)
  | 0, _ => none
  | fuel + 1, s => do
    let (item, rest) ← assignment? value? s
    match rest with
    | ',' :: rest =>
      let (items, rest) ← inlineItems? value? fuel rest
      some (item :: items, rest)
    | '\x7d' :: rest => some ([item], rest)
    | _ => none

def inlineEntries? (items : List (Key × Value)) : Option Entries :=
  items.foldlM (fun entries (key, v) => insertInline key.path key.last v entries) []

/-- A value in which `depth` further brackets may be open at once. -/
def value? : Nat → ValueReader
  | 0, s =>
    match s with
    | '[' :: _ | '\x7b' :: _ => none
    | _ => scalar? s
  | depth + 1, s =>
    match s with
    | '[' :: rest => do
      let (items, rest) ← arrayItems? (value? depth) (rest.length + 1) rest
      some (.array items, rest)
    | '\x7b' :: rest =>
      match skipSpaces rest with
      | '\x7d' :: rest => some (.table .inline [], rest)
      | rest => do
        let (items, rest) ← inlineItems? (value? depth) (rest.length + 1) rest
        let entries ← inlineEntries? items
        some (.table .inline entries, rest)
    | _ => scalar? s

/-! ## Lines -/

inductive Statement where
  | assign (key : Key) (v : Value)
  | openTable (key : Key)
  /-- A further table of an array of tables is opened. -/
  | openElement (key : Key)

def statement? (s : List Char) : Option (Statement × List Char) :=
  match s with
  | '[' :: '[' :: rest => do
    let (key, rest) ← key? rest
    match rest with
    | ']' :: ']' :: rest => (lineEnd? rest).map fun rest => (.openElement key, rest)
    | _ => none
  | '[' :: rest => do
    let (key, rest) ← key? rest
    match rest with
    | ']' :: rest => (lineEnd? rest).map fun rest => (.openTable key, rest)
    | _ => none
  | _ => do
    let ((key, v), rest) ← assignment? (value? (depthLimit - 1)) s
    (lineEnd? rest).map fun rest => (.assign key v, rest)

/-- The statements of a document, from `fuel` lines at most. -/
def statements? : Nat → List Char → Option (List Statement)
  | 0, s => if s.isEmpty then some [] else none
  | fuel + 1, s =>
    match skipSpaces s with
    | [] => some []
    | '#' :: rest => (lineEnd? ('#' :: rest)).bind fun rest => statements? fuel rest
    | s =>
      if atNewline s then statements? fuel (dropNewline s)
      else do
        let (statement, rest) ← statement? s
        let statements ← statements? fuel rest
        some (statement :: statements)

end Lifecycle.Toml
