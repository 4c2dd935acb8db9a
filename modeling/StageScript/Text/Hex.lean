/-!
Numbers in base sixteen. Upper-case digits are used for addresses, offsets and opcodes in
messages and listings; two lower-case digits per byte are used for raw byte strings.
-/

namespace StageScript.Text.Hex

/-- The digits of a number, upper case and without leading zeros. -/
def digits (number : Nat) : List Char :=
  (Nat.toDigits 16 number).map Char.toUpper

/-- The digits of a number, with zeros in front up to a least width. -/
def padded (width number : Nat) : String :=
  String.ofList ((digits number).leftpad width '0')

/-- The digits of a number after `0x`, with zeros in front up to a least width. -/
def tagged (width number : Nat) : String :=
  "0x" ++ padded width number

def nibble (number : Nat) : Char :=
  Nat.digitChar (number % 16)

def ofBytes (bytes : Array UInt8) : String :=
  String.ofList (bytes.toList.flatMap fun byte => [nibble (byte.toNat / 16), nibble byte.toNat])

def nibbleValue? (digit : Char) : Option Nat :=
  if '0' ≤ digit ∧ digit ≤ '9' then some (digit.toNat - '0'.toNat)
  else if 'a' ≤ digit ∧ digit ≤ 'f' then some (digit.toNat - 'a'.toNat + 10)
  else if 'A' ≤ digit ∧ digit ≤ 'F' then some (digit.toNat - 'A'.toNat + 10)
  else none

/-- The value of a text of hexadecimal digits, absent when another character occurs. -/
def number? (digits : List Char) : Option Nat :=
  digits.foldlM (fun value digit => (nibbleValue? digit).map (value * 16 + ·)) 0

def pairs? (bytes : Array UInt8) : List Char → Option (Array UInt8)
  | [] => some bytes
  | [_] => none
  | high :: low :: rest => do
    let upper ← nibbleValue? high
    let lower ← nibbleValue? low
    pairs? (bytes.push (UInt8.ofNat (upper * 16 + lower))) rest

/-- The bytes written by pairs of digits, absent for an odd count or another character. -/
def toBytes? (text : String) : Option (Array UInt8) :=
  pairs? #[] text.toList

end StageScript.Text.Hex
