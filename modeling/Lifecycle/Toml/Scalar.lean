import Lifecycle.Text.Cut
import Lifecycle.Text.Digits
import Lifecycle.Toml.Value
/-!
# Scalars of documents

Strings in their four forms, numbers, and dates and times.  Each reader takes the text from the
scalar on and gives the scalar with the text after it.
-/

namespace Lifecycle.Toml

open Lifecycle.Number Lifecycle.Text

def isSpace (c : Char) : Bool := c == ' ' || c == '\t'

def skipSpaces (s : List Char) : List Char := s.dropWhile isSpace

def isBeyondAscii (c : Char) : Bool := 0x80 ≤ c.toNat

def isCommentChar (c : Char) : Bool :=
  c == '\t' || (0x20 ≤ c.toNat && c.toNat ≤ 0x7E) || isBeyondAscii c

def isBasicChar (c : Char) : Bool := isCommentChar c && c != '"' && c != '\\'

def isLiteralChar (c : Char) : Bool := isCommentChar c && c != '\''

def atNewline : List Char → Bool
  | '\n' :: _ => true
  | '\r' :: '\n' :: _ => true
  | _ => false

def dropNewline : List Char → List Char
  | '\n' :: rest => rest
  | '\r' :: '\n' :: rest => rest
  | s => s

/-! ## Strings -/

def simpleEscape? : Char → Option Char
  | 'b' => some (Char.ofNat 8)
  | 't' => some '\t'
  | 'n' => some '\n'
  | 'f' => some (Char.ofNat 12)
  | 'r' => some '\r'
  | '"' => some '"'
  | '\\' => some '\\'
  | _ => none

def codePoint? (digits : List Char) : Option Char := do
  let value ← readDigits? 16 digits
  if value.isValidChar then some (Char.ofNat value) else none

def basicBody : List Char → Option (List Char × List Char)
  | [] => none
  | '"' :: rest => some ([], rest)
  | '\\' :: 'u' :: a :: b :: c :: d :: rest =>
    (codePoint? [a, b, c, d]).bind fun x => consChar x (basicBody rest)
  | '\\' :: 'U' :: a :: b :: c :: d :: e :: f :: g :: h :: rest =>
    (codePoint? [a, b, c, d, e, f, g, h]).bind fun x => consChar x (basicBody rest)
  | '\\' :: c :: rest => (simpleEscape? c).bind fun x => consChar x (basicBody rest)
  | c :: rest => if isBasicChar c then consChar c (basicBody rest) else none

/-- The inside of a multi-line basic string, up to its closing quotes.  While `skipping`, after a
backslash at the end of a line, blank space is passed over. -/
def multiLineBasicBody (skipping : Bool) : List Char → Option (List Char × List Char)
  | [] => none
  | '"' :: '"' :: '"' :: '"' :: '"' :: rest => some (['"', '"'], rest)
  | '"' :: '"' :: '"' :: '"' :: rest => some (['"'], rest)
  | '"' :: '"' :: '"' :: rest => some ([], rest)
  | '"' :: rest => consChar '"' (multiLineBasicBody false rest)
  | '\n' :: rest =>
    if skipping then multiLineBasicBody true rest
    else consChar '\n' (multiLineBasicBody false rest)
  | '\r' :: '\n' :: rest =>
    if skipping then multiLineBasicBody true rest
    else consChar '\n' (multiLineBasicBody false rest)
  | '\\' :: 'u' :: a :: b :: c :: d :: rest =>
    (codePoint? [a, b, c, d]).bind fun x => consChar x (multiLineBasicBody false rest)
  | '\\' :: 'U' :: a :: b :: c :: d :: e :: f :: g :: h :: rest =>
    (codePoint? [a, b, c, d, e, f, g, h]).bind fun x =>
      consChar x (multiLineBasicBody false rest)
  | '\\' :: c :: rest =>
    if atNewline (skipSpaces (c :: rest)) then multiLineBasicBody true (c :: rest)
    else (simpleEscape? c).bind fun x => consChar x (multiLineBasicBody false rest)
  | c :: rest =>
    if skipping && isSpace c then multiLineBasicBody true rest
    else if isBasicChar c then consChar c (multiLineBasicBody false rest)
    else none

def literalBody : List Char → Option (List Char × List Char)
  | [] => none
  | '\'' :: rest => some ([], rest)
  | c :: rest => if isLiteralChar c then consChar c (literalBody rest) else none

def multiLineLiteralBody : List Char → Option (List Char × List Char)
  | [] => none
  | '\'' :: '\'' :: '\'' :: '\'' :: '\'' :: rest => some (['\'', '\''], rest)
  | '\'' :: '\'' :: '\'' :: '\'' :: rest => some (['\''], rest)
  | '\'' :: '\'' :: '\'' :: rest => some ([], rest)
  | '\'' :: rest => consChar '\'' (multiLineLiteralBody rest)
  | '\n' :: rest => consChar '\n' (multiLineLiteralBody rest)
  | '\r' :: '\n' :: rest => consChar '\n' (multiLineLiteralBody rest)
  | c :: rest => if isLiteralChar c then consChar c (multiLineLiteralBody rest) else none

def string? : List Char → Option (List Char × List Char)
  | '"' :: '"' :: '"' :: rest => multiLineBasicBody false (dropNewline rest)
  | '\'' :: '\'' :: '\'' :: rest => multiLineLiteralBody (dropNewline rest)
  | '"' :: rest => basicBody rest
  | '\'' :: rest => literalBody rest
  | _ => none

/-! ## Numbers -/

def moreDigits (base : Nat) : List Char → Option (List Char × List Char)
  | [] => some ([], [])
  | '_' :: c :: rest => if isDigitOf base c then consChar c (moreDigits base rest) else none
  | c :: rest =>
    if isDigitOf base c then consChar c (moreDigits base rest)
    else if c = '_' then none
    else some ([], c :: rest)

/-- At least one digit of a base, with single underscores between digits. -/
def digits? (base : Nat) : List Char → Option (List Char × List Char)
  | c :: rest => if isDigitOf base c then consChar c (moreDigits base rest) else none
  | [] => none

/-- Whether a text begins with a minus sign, and the text after a sign. -/
def sign : List Char → Bool × List Char
  | '-' :: rest => (true, rest)
  | '+' :: rest => (false, rest)
  | s => (false, s)

/-- Decimal digits without needless zeros in front. -/
def wholePart? : List Char → Option (List Char × List Char)
  | '0' :: rest => some (['0'], rest)
  | s => digits? 10 s

def integerBound : Int := 9223372036854775808

def integer? (negative : Bool) (base : Nat) (digits : List Char) : Option Value := do
  let magnitude : Nat ← readDigits? base digits
  let n : Int := if negative then -magnitude else magnitude
  if -integerBound ≤ n ∧ n < integerBound then some (.int n) else none

/-- A number with a fraction or an exponent; one too large for a double is refused, unless it is
negative. -/
def float? (negative : Bool) (whole fraction : List Char) (exponent : Int) : Option Value := do
  let magnitude ← readDigits? 10 (whole ++ fraction)
  match Binary64.ofDecimal negative magnitude (exponent - fraction.length) with
  | .infinity false => none
  | x => some (.float x)

def exponent? : List Char → Option (Int × List Char)
  | 'e' :: rest | 'E' :: rest => do
    let (negative, rest) := sign rest
    let (digits, rest) ← digits? 10 rest
    let magnitude : Nat ← readDigits? 10 digits
    some (if negative then -magnitude else magnitude, rest)
  | s => some (0, s)

def atExponent : List Char → Bool
  | 'e' :: _ | 'E' :: _ => true
  | _ => false

def decimal? (s : List Char) : Option (Value × List Char) := do
  let (negative, unsigned) := sign s
  match unsigned with
  | 'i' :: 'n' :: 'f' :: rest => some (.float (.infinity negative), rest)
  | 'n' :: 'a' :: 'n' :: rest => some (.float .nan, rest)
  | _ =>
    let (whole, rest) ← wholePart? unsigned
    match rest with
    | '.' :: rest =>
      let (fraction, rest) ← digits? 10 rest
      let (exponent, rest) ← exponent? rest
      let x ← float? negative whole fraction exponent
      some (x, rest)
    | _ =>
      if atExponent rest then
        let (exponent, rest) ← exponent? rest
        let x ← float? negative whole [] exponent
        some (x, rest)
      else
        let n ← integer? negative 10 whole
        some (n, rest)

def based? (base : Nat) (s : List Char) : Option (Value × List Char) := do
  let (digits, rest) ← digits? base s
  let n ← integer? false base digits
  some (n, rest)

def number? : List Char → Option (Value × List Char)
  | '0' :: 'x' :: rest => based? 16 rest
  | '0' :: 'o' :: rest => based? 8 rest
  | '0' :: 'b' :: rest => based? 2 rest
  | s => decimal? s

/-! ## Dates and times -/

def field? (width low high : Nat) (s : List Char) : Option (Nat × List Char) := do
  let digits := s.take width
  if digits.length = width then
    let value ← readDigits? 10 digits
    if low ≤ value ∧ value ≤ high then some (value, s.drop width) else none
  else none

def after? (c : Char) : List Char → Option (List Char)
  | d :: rest => if d = c then some rest else none
  | [] => none

def isLeapYear (year : Nat) : Bool := year % 4 == 0 && (year % 100 != 0 || year % 400 == 0)

def daysInMonth (year month : Nat) : Nat :=
  if month = 2 then (if isLeapYear year then 29 else 28)
  else if month = 4 || month = 6 || month = 9 || month = 11 then 30
  else 31

def date? (s : List Char) : Option (List Char) := do
  let (year, s) ← field? 4 0 9999 s
  let s ← after? '-' s
  let (month, s) ← field? 2 1 12 s
  let s ← after? '-' s
  let (_, s) ← field? 2 1 (daysInMonth year month) s
  some s

/-- The text after a time of day; a sixtieth second is let pass. -/
def time? (s : List Char) : Option (List Char) := do
  let (_, s) ← field? 2 0 23 s
  let s ← after? ':' s
  let (_, s) ← field? 2 0 59 s
  let s ← after? ':' s
  let (_, s) ← field? 2 0 60 s
  match s with
  | '.' :: rest =>
    let fraction := rest.takeWhile (isDigitOf 10)
    if fraction.isEmpty then none else some (rest.drop fraction.length)
  | _ => some s

def offset? : List Char → Option (List Char)
  | 'Z' :: rest | 'z' :: rest => some rest
  | '+' :: rest | '-' :: rest => do
    let (_, s) ← field? 2 0 23 rest
    let s ← after? ':' s
    let (_, s) ← field? 2 0 59 s
    some s
  | s => some s

def timeAfterDate? : List Char → Option (List Char)
  | 'T' :: rest | 't' :: rest => (time? rest).bind offset?
  | ' ' :: rest =>
    match time? rest with
    | some s => offset? s
    | none => some (' ' :: rest)
  | s => some s

def atDate (s : List Char) : Bool :=
  (s.take 4).length == 4 && (s.take 4).all (isDigitOf 10) && (s.drop 4).head? == some '-'

def atTime (s : List Char) : Bool :=
  (s.take 2).length == 2 && (s.take 2).all (isDigitOf 10) && (s.drop 2).head? == some ':'

def scalar? (s : List Char) : Option (Value × List Char) :=
  match s with
  | '"' :: _ | '\'' :: _ => (string? s).map fun (t, rest) => (.text (String.ofList t), rest)
  | 't' :: 'r' :: 'u' :: 'e' :: rest => some (.bool true, rest)
  | 'f' :: 'a' :: 'l' :: 's' :: 'e' :: rest => some (.bool false, rest)
  | _ =>
    if atDate s then ((date? s).bind timeAfterDate?).map fun rest => (.dateTime, rest)
    else if atTime s then (time? s).map fun rest => (.dateTime, rest)
    else number? s

end Lifecycle.Toml
