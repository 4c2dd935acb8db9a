/-!
The words of TOML: blanks, comments, line ends, keys and strings. A reader takes characters
from the front of a text and answers what it read with what is left.
-/

namespace StageScript.Toml

def isBlank (c : Char) : Bool := c == ' ' || c == '\t'

def skipBlanks (text : List Char) : List Char := text.dropWhile isBlank

/-- Characters that may stand in a comment. -/
def isPlain (c : Char) : Bool := c == '\t' || ('\x20' ≤ c && c != '\x7f')

/-- Takes a line feed, alone or after a carriage return. -/
def lineFeed? : List Char → Option (List Char)
  | '\n' :: rest => some rest
  | '\r' :: '\n' :: rest => some rest
  | _ => none

def skipComment : List Char → List Char
  | '#' :: rest => rest.dropWhile isPlain
  | text => text

/-- Takes the end of a line or of the text, after blanks and a comment. -/
def lineEnd? (text : List Char) : Option (List Char) :=
  match skipComment (skipBlanks text) with
  | [] => some []
  | rest => lineFeed? rest

/-- Takes blanks, comments and line ends, as may stand between the items of an array. -/
def skipLines (text : List Char) : (fuel : Nat) → List Char
  | 0 => text
  | fuel + 1 =>
    let rest := skipBlanks text
    match lineFeed? (skipComment rest) with
    | some rest => skipLines rest fuel
    | none => rest

def isBare (c : Char) : Bool := c.isAlphanum || c == '-' || c == '_'

def hexValue (digits : List Char) : Option Nat :=
  digits.foldlM (fun value c =>
    if c.isDigit then some (value * 16 + (c.toNat - '0'.toNat))
    else if 'a' ≤ c ∧ c ≤ 'f' then some (value * 16 + (c.toNat - 'a'.toNat + 10))
    else if 'A' ≤ c ∧ c ≤ 'F' then some (value * 16 + (c.toNat - 'A'.toNat + 10))
    else none) 0

/-- The character with a code given by a number of hexadecimal digits. -/
def codePoint? (count : Nat) (text : List Char) : Option (Char × List Char) := do
  let digits := text.take count
  if digits.length < count then none
  let code ← hexValue digits
  if code < 0xD800 ∨ (0xDFFF < code ∧ code < 0x110000) then
    some (Char.ofNat code, text.drop count)
  else none

/-- What follows a backslash. -/
def escape? : List Char → Option (Char × List Char)
  | 'b' :: rest => some ('\x08', rest)
  | 't' :: rest => some ('\t', rest)
  | 'n' :: rest => some ('\n', rest)
  | 'f' :: rest => some ('\x0c', rest)
  | 'r' :: rest => some ('\r', rest)
  | '"' :: rest => some ('"', rest)
  | '\\' :: rest => some ('\\', rest)
  | 'u' :: rest => codePoint? 4 rest
  | 'U' :: rest => codePoint? 8 rest
  | _ => none

/-- A string on one line, after its opening quote; `escapes` tells the two kinds apart. -/
def lineString? (quote : Char) (escapes : Bool) (text : List Char) : (fuel : Nat) →
    Option (List Char × List Char)
  | 0 => none
  | fuel + 1 =>
    match text with
    | [] => none
    | c :: rest =>
      if c = quote then some ([], rest)
      else if c = '\\' ∧ escapes then do
        let (read, rest) ← escape? rest
        let (more, rest) ← lineString? quote escapes rest fuel
        some (read :: more, rest)
      else if isPlain c then do
        let (more, rest) ← lineString? quote escapes rest fuel
        some (c :: more, rest)
      else none

/-- Takes blanks and line ends. -/
def skipBlankLines (text : List Char) : (fuel : Nat) → List Char
  | 0 => text
  | fuel + 1 =>
    let rest := skipBlanks text
    match lineFeed? rest with
    | some rest => skipBlankLines rest fuel
    | none => rest

/-- Takes the blanks and line ends after a backslash at the end of a line. -/
def foldedLines? (text : List Char) : Option (List Char) :=
  (lineFeed? (skipBlanks text)).map fun rest => skipBlankLines rest rest.length

/-- A string over several lines, after its opening quotes. Up to two quotes may stand before
the three that close it. -/
def textString? (quote : Char) (escapes : Bool) (text : List Char) : (fuel : Nat) →
    Option (List Char × List Char)
  | 0 => none
  | fuel + 1 =>
    match text with
    | [] => none
    | c :: rest =>
      if c = quote then
        let run := (text.takeWhile (· == quote)).length
        if run < 3 then do
          let (more, rest) ← textString? quote escapes (text.drop run) fuel
          some (List.replicate run quote ++ more, rest)
        else if run ≤ 5 then some (List.replicate (run - 3) quote, text.drop run)
        else none
      else if c = '\\' ∧ escapes then
        match foldedLines? rest with
        | some rest => textString? quote escapes rest fuel
        | none => do
          let (read, rest) ← escape? rest
          let (more, rest) ← textString? quote escapes rest fuel
          some (read :: more, rest)
      else
        match lineFeed? text with
        | some rest => do
          let (more, rest) ← textString? quote escapes rest fuel
          some ('\n' :: more, rest)
        | none =>
          if isPlain c then do
            let (more, rest) ← textString? quote escapes rest fuel
            some (c :: more, rest)
          else none

def opensText (quote : Char) (text : List Char) : Bool :=
  text.take 3 == [quote, quote, quote]

/-- A string of any kind, from its opening quotes on. -/
def string? (text : List Char) : Option (String × List Char) := do
  let quote ← text.head?
  let escapes := quote == '"'
  let (content, rest) ←
    if opensText quote text then
      let body := text.drop 3
      textString? quote escapes ((lineFeed? body).getD body) text.length
    else lineString? quote escapes text.tail text.length
  some (String.ofList content, rest)

/-- One part of a key. -/
def simpleKey? (text : List Char) : Option (String × List Char) :=
  match text with
  | '"' :: _ | '\'' :: _ =>
    if opensText (text.headD ' ') text then none else string? text
  | _ =>
    let name := text.takeWhile isBare
    if name.isEmpty then none else some (String.ofList name, text.dropWhile isBare)

/-- The parts of a key, with dots and blanks between them. -/
def keyParts? (text : List Char) : (fuel : Nat) → Option (List String × List Char)
  | 0 => none
  | fuel + 1 => do
    let (part, rest) ← simpleKey? (skipBlanks text)
    match skipBlanks rest with
    | '.' :: rest => do
      let (parts, rest) ← keyParts? rest fuel
      some (part :: parts, rest)
    | rest => some ([part], rest)

/-- Keys have fewer parts than this, and arrays and inline tables are nested less deeply. -/
def depthLimit : Nat := 80

def key? (text : List Char) : Option (List String × List Char) :=
  (keyParts? text text.length).filter fun (parts, _) => parts.length < depthLimit

end StageScript.Toml
