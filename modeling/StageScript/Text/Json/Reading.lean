import StageScript.Text.Json

/-!
Reading JSON. As with other notations, a reader takes characters from the front of a text and
answers what it read with what is left.
-/

namespace StageScript.Text.Json

def isBlank (c : Char) : Bool := c == ' ' || c == '\t' || c == '\n' || c == '\r'

def skipBlanks (text : List Char) : List Char := text.dropWhile isBlank

/-! ## Strings -/

/-- Four hexadecimal digits. -/
def unit? (text : List Char) : Option (Nat × List Char) :=
  let digits := text.take 4
  if digits.length = 4 then (Hex.number? digits).map fun unit => (unit, text.drop 4) else none

/-- The character whose code follows `\u`. A code beyond sixteen bits is written as two of them,
from ranges that hold no characters. -/
def codePoint? (text : List Char) : Option (Char × List Char) := do
  let (unit, rest) ← unit? text
  if unit < 0xD800 ∨ 0xDFFF < unit then some (Char.ofNat unit, rest)
  else
    match rest with
    | '\\' :: 'u' :: rest => do
      let (low, rest) ← unit? rest
      if unit < 0xDC00 ∧ 0xDC00 ≤ low ∧ low ≤ 0xDFFF then
        some (Char.ofNat (0x10000 + 0x400 * (unit - 0xD800) + (low - 0xDC00)), rest)
      else none
    | _ => none

/-- What follows a backslash. -/
def escaped? : List Char → Option (Char × List Char)
  | '"' :: rest => some ('"', rest)
  | '\\' :: rest => some ('\\', rest)
  | '/' :: rest => some ('/', rest)
  | 'b' :: rest => some ('\x08', rest)
  | 'f' :: rest => some ('\x0c', rest)
  | 'n' :: rest => some ('\n', rest)
  | 'r' :: rest => some ('\r', rest)
  | 't' :: rest => some ('\t', rest)
  | 'u' :: rest => codePoint? rest
  | _ => none

/-- The characters of a string after its opening quote. -/
def content? (text : List Char) : (fuel : Nat) → Option (List Char × List Char)
  | 0 => none
  | fuel + 1 =>
    match text with
    | [] => none
    | '"' :: rest => some ([], rest)
    | c :: rest => do
      let (c, rest) ← if c = '\\' then escaped? rest else if c < ' ' then none else some (c, rest)
      let (more, rest) ← content? rest fuel
      some (c :: more, rest)

def string? : List Char → Option (String × List Char)
  | '"' :: rest => (content? rest (rest.length + 1)).map fun (content, rest) =>
    (String.ofList content, rest)
  | _ => none

/-! ## Numbers -/

def digits? (text : List Char) : Option (List Char × List Char) :=
  let digits := text.takeWhile Char.isDigit
  if digits.isEmpty then none else some (digits, text.dropWhile Char.isDigit)

/-- The digits before a point. A zero in front stands alone. -/
def whole? : List Char → Option (List Char × List Char)
  | '0' :: rest => some (['0'], rest)
  | text => digits? text

/-- What is left after a point and digits, if there is a point. -/
def skipFraction? : List Char → Option (List Char)
  | '.' :: rest => (digits? rest).map (·.2)
  | text => some text

def skipSign : List Char → List Char
  | '+' :: rest | '-' :: rest => rest
  | text => text

def skipExponent? : List Char → Option (List Char)
  | 'e' :: rest | 'E' :: rest => (digits? (skipSign rest)).map (·.2)
  | text => some text

/-- A number. It is an integer if it has neither a point nor an exponent, but there is no integer
below zero without a value. -/
def number? (text : List Char) : Option (Document × List Char) := do
  let (negative, body) := match text with
    | '-' :: rest => (true, rest)
    | _ => (false, text)
  let (whole, tail) ← whole? body
  let rest ← skipExponent? (← skipFraction? tail)
  let value : Int := Nat.ofDigitChars 10 whole 0
  if rest.length < tail.length ∨ (negative ∧ value = 0) then
    some (.float (String.ofList (text.take (text.length - rest.length))), rest)
  else some (.integer (if negative then -value else value), rest)

/-! ## Documents -/

/-- A value that is no list, table or string. -/
def scalar? (text : List Char) : Option (Document × List Char) :=
  match "null".toList.isPrefixOf? text, "true".toList.isPrefixOf? text,
    "false".toList.isPrefixOf? text with
  | some rest, _, _ => some (.null, rest)
  | _, some rest, _ => some (.boolean true, rest)
  | _, _, some rest => some (.boolean false, rest)
  | none, none, none => number? text

/-- Puts an entry in front of a table, unless a later one has its key. -/
def addEntry (key : String) (value : Document) (entries : List (String × Document)) :
    List (String × Document) :=
  if entries.any (·.1 == key) then entries else (key, value) :: entries

mutual

/-- A value, with fuel for at least as many readers as its text has characters. -/
def value? (fuel : Nat) (text : List Char) : Option (Document × List Char) :=
  match fuel with
  | 0 => none
  | fuel + 1 =>
    match skipBlanks text with
    | '"' :: rest => (string? ('"' :: rest)).map fun (content, rest) => (.string content, rest)
    | '[' :: rest =>
      match skipBlanks rest with
      | ']' :: rest => some (.list [], rest)
      | rest => (items? fuel rest).map fun (items, rest) => (.list items, rest)
    | '\x7b' :: rest =>
      match skipBlanks rest with
      | '\x7d' :: rest => some (.table [], rest)
      | rest => (entries? fuel rest).map fun (entries, rest) => (.table entries, rest)
    | rest => scalar? rest

/-- The items of a list up to its closing bracket, at least one. -/
def items? (fuel : Nat) (text : List Char) : Option (List Document × List Char) :=
  match fuel with
  | 0 => none
  | fuel + 1 => do
    let (item, rest) ← value? fuel text
    match skipBlanks rest with
    | ',' :: rest => do
      let (items, rest) ← items? fuel rest
      some (item :: items, rest)
    | ']' :: rest => some ([item], rest)
    | _ => none

/-- The entries of a table up to its closing brace, at least one. -/
def entries? (fuel : Nat) (text : List Char) : Option (List (String × Document) × List Char) :=
  match fuel with
  | 0 => none
  | fuel + 1 => do
    let (key, rest) ← string? (skipBlanks text)
    match skipBlanks rest with
    | ':' :: rest => do
      let (value, rest) ← value? fuel rest
      match skipBlanks rest with
      | ',' :: rest => do
        let (entries, rest) ← entries? fuel rest
        some (addEntry key value entries, rest)
      | '\x7d' :: rest => some ([(key, value)], rest)
      | _ => none
    | _ => none

end

/-- The document that a text describes. -/
def parse? (text : String) : Option Document := do
  let chars := text.toList
  let (document, rest) ← value? (2 * chars.length + 2) chars
  if (skipBlanks rest).isEmpty then some document else none

end StageScript.Text.Json
