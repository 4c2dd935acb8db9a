import StageScript.Document
import StageScript.Toml.Lexical

/-!
Numbers, dates and times of TOML. Integers have 64 bits with a sign; a positive float has to
be finite in double precision.
-/

namespace StageScript.Toml

/-- Digits with single underscores between them, and without the underscores. -/
def digitGroups? (isDigit : Char → Bool) : List Char → Option (List Char)
  | [] => none
  | [c] => if isDigit c then some [c] else none
  | c :: '_' :: rest => if isDigit c then (digitGroups? isDigit rest).map (c :: ·) else none
  | c :: rest => if isDigit c then (digitGroups? isDigit rest).map (c :: ·) else none

def valueIn (base : Nat) (digits : List Char) : Nat :=
  digits.foldl (fun value c => value * base + ((hexValue [c]).getD 0)) 0

def isOctal (c : Char) : Bool := '0' ≤ c && c ≤ '7'

def isBinary (c : Char) : Bool := c == '0' || c == '1'

def isHex (c : Char) : Bool := (hexValue [c]).isSome

/-- Decimal digits without a zero in front of others. -/
def decimal? (text : List Char) : Option (List Char) :=
  match text with
  | ['0'] => some ['0']
  | '0' :: _ => none
  | _ => digitGroups? Char.isDigit text

def splitSign : List Char → Bool × List Char
  | '-' :: rest => (true, rest)
  | '+' :: rest => (false, rest)
  | text => (false, text)

/-- Integers are signed 64-bit numbers. -/
def inRange (value : Int) : Bool := -0x8000000000000000 ≤ value && value < 0x8000000000000000

def integer? (text : List Char) : Option Int := do
  let value : Int ←
    match text with
    | '0' :: 'x' :: digits => (digitGroups? isHex digits).map (valueIn 16 ·)
    | '0' :: 'o' :: digits => (digitGroups? isOctal digits).map (valueIn 8 ·)
    | '0' :: 'b' :: digits => (digitGroups? isBinary digits).map (valueIn 2 ·)
    | _ =>
      let (negative, digits) := splitSign text
      (decimal? digits).map fun digits =>
        if negative then -(valueIn 10 digits : Int) else valueIn 10 digits
  if inRange value then some value else none

/-- The least number that double precision rounds to infinity. -/
def overflowBound : Nat := (1 <<< 1024) - (1 <<< 970)

/-- Whether a number given by its digits and a power of ten is too large for double precision. -/
def overflows (digits : Nat) (power : Int) : Bool :=
  if digits = 0 then false
  else
    let places : Int := (Nat.toDigits 10 digits).length + power
    if places < 300 then false
    else if 320 < places then true
    else if 0 ≤ power then overflowBound ≤ digits * Nat.pow 10 power.toNat
    else overflowBound * Nat.pow 10 (-power).toNat ≤ digits

/-- The exponent of a float, zero when the text has none. -/
def exponent? : List Char → Option Int
  | [] => some 0
  | c :: rest =>
    if c = 'e' ∨ c = 'E' then
      let (negative, digits) := splitSign rest
      (digitGroups? Char.isDigit digits).map fun digits =>
        if negative then -(valueIn 10 digits : Int) else valueIn 10 digits
    else none

def isExponentMark (c : Char) : Bool := c == 'e' || c == 'E'

/-- Whether a text is a float: it has a fraction or an exponent, or is infinite or no number. -/
def isFloat (text : List Char) : Bool :=
  let (negative, body) := splitSign text
  if body == "inf".toList || body == "nan".toList then true
  else
    let mantissa := body.takeWhile fun c => !isExponentMark c
    let tail := body.dropWhile fun c => !isExponentMark c
    let whole := mantissa.takeWhile (· != '.')
    let fraction := mantissa.dropWhile (· != '.')
    if fraction.isEmpty && tail.isEmpty then false
    else
      let parts := do
        let whole ← decimal? whole
        let fraction ← match fraction with
          | [] => some []
          | _ :: digits => digitGroups? Char.isDigit digits
        let power ← exponent? tail
        some (valueIn 10 (whole ++ fraction), power - (fraction.length : Int))
      match parts with
      | some (digits, power) => negative || !overflows digits power
      | none => false

/-- A number of exactly the given count of digits within bounds. -/
def field? (count least most : Nat) (text : List Char) : Option (Nat × List Char) :=
  let digits := text.take count
  if digits.length = count ∧ digits.all Char.isDigit then
    let value := valueIn 10 digits
    if least ≤ value ∧ value ≤ most then some (value, text.drop count) else none
  else none

def mark? (c : Char) : List Char → Option (List Char)
  | head :: rest => if head = c then some rest else none
  | [] => none

def daysIn (year month : Nat) : Nat :=
  if month = 2 then
    if year % 4 = 0 ∧ (year % 100 ≠ 0 ∨ year % 400 = 0) then 29 else 28
  else if month = 4 ∨ month = 6 ∨ month = 9 ∨ month = 11 then 30
  else 31

def date? (text : List Char) : Option (List Char) := do
  let (year, text) ← field? 4 0 9999 text
  let (month, text) ← field? 2 1 12 (← mark? '-' text)
  let (_, text) ← field? 2 1 (daysIn year month) (← mark? '-' text)
  some text

def time? (text : List Char) : Option (List Char) := do
  let (_, text) ← field? 2 0 23 text
  let (_, text) ← field? 2 0 59 (← mark? ':' text)
  let (_, text) ← field? 2 0 60 (← mark? ':' text)
  match text with
  | '.' :: rest =>
    if (rest.takeWhile Char.isDigit).isEmpty then none else some (rest.dropWhile Char.isDigit)
  | _ => some text

def zone? : List Char → Option (List Char)
  | 'Z' :: rest | 'z' :: rest => some rest
  | '+' :: rest | '-' :: rest => do
    let (_, rest) ← field? 2 0 23 rest
    let (_, rest) ← field? 2 0 59 (← mark? ':' rest)
    some rest
  | text => some text

/-- Whether a text is a date, a time, or a date and a time with or without a zone. -/
def isMoment (text : List Char) : Bool :=
  match date? text with
  | some [] => true
  | some (separator :: rest) =>
    (separator == 'T' || separator == 't' || separator == ' ') && (time? rest).bind zone? == some []
  | none => time? text == some []

/-- The end of a value that is not a string. -/
def endsScalar (c : Char) : Bool :=
  isBlank c || c == '\n' || c == '\r' || c == ',' || c == ']' || c == '\x7d' || c == '#'

/-- Whether a blank stands between a date and a time. -/
def joinsTime (word rest : List Char) : Bool :=
  date? word == some [] &&
    match rest with
    | ' ' :: a :: b :: ':' :: _ => a.isDigit && b.isDigit
    | _ => false

def scalarWord (text : List Char) : List Char × List Char :=
  let word := text.takeWhile fun c => !endsScalar c
  let rest := text.dropWhile fun c => !endsScalar c
  if joinsTime word rest then
    (word ++ ' ' :: rest.tail.takeWhile fun c => !endsScalar c,
      rest.tail.dropWhile fun c => !endsScalar c)
  else (word, rest)

def scalar? (text : List Char) : Option (Document × List Char) := do
  let (word, rest) := scalarWord text
  if word == "true".toList then some (.boolean true, rest)
  else if word == "false".toList then some (.boolean false, rest)
  else if isMoment word then some (.moment (String.ofList word), rest)
  else if isFloat word then some (.float (String.ofList word), rest)
  else
    let value ← integer? word
    some (.integer value, rest)

end StageScript.Toml
