import StageScript.Bytes
import StageScript.Text.Hex

/-!
Expansion of MIO0 blocks. A block starts with a header of sixteen bytes: the mark `MIO0`, the
expanded length, and the places of the copy stream and the literal stream. Layout bits follow,
most significant first in words of four bytes; each selects the next token of the block, a set
bit a literal byte and a clear one a copy of bytes that are already expanded.
-/

namespace StageScript.Mio0

def headerSize : Nat := 16

/-- The bytes `MIO0`. -/
def mark : List UInt8 := [0x4D, 0x49, 0x4F, 0x30]

/-- What is wrong with a block. -/
inductive Corruption where
  | missingHeader
  | wordMissing (place : Nat)
  | literalMissing
  | copyMissing
  | distanceTooLong (distance expanded : Nat)
  deriving DecidableEq, Repr

def Corruption.message : Corruption → String
  | .missingHeader => "missing MIO0 header"
  | .wordMissing place => s!"header truncated at {Text.Hex.tagged 0 place}"
  | .literalMissing => "literal stream truncated"
  | .copyMissing => "back-reference stream truncated"
  | .distanceTooLong distance expanded =>
    s!"back-reference distance {distance} exceeds {expanded} decoded bytes"

inductive Failure where
  | corrupt (corruption : Corruption)
  | tooLong (length limit : Nat)
  deriving DecidableEq, Repr

inductive Token where
  | literal (byte : UInt8)
  | copy (distance count : Nat)
  deriving DecidableEq, Repr

/-- A number of the given width in bytes, absent when it reaches past the end. -/
def number? (input : Bytes) (place width : Nat) : Option Nat :=
  if place + width ≤ input.size then
    some (ByteOrder.big.decode (input.extract place (place + width)).toList)
  else none

def word (input : Bytes) (place : Nat) : Except Corruption Nat :=
  match number? input place 4 with
  | some value => .ok value
  | none => .error (.wordMissing place)

structure Header where
  length : Nat
  copies : Nat
  literals : Nat
  deriving DecidableEq, Repr

def readHeader (input : Bytes) : Except Corruption Header := do
  if input.size < headerSize ∨ (input.extract 0 4).toList ≠ mark then throw .missingHeader
  return ⟨← word input 4, ← word input 8, ← word input 12⟩

/-- The layout bit of the token with the given number. -/
def layoutBit (input : Bytes) (token : Nat) : Except Corruption Bool := do
  let bits ← word input (headerSize + token / 32 * 4)
  return bits.testBit (31 - token % 32)

/-- The token that follows after as many literals and copies as are given. -/
def token (input : Bytes) (header : Header) (literals copies : Nat) : Except Corruption Token := do
  if ← layoutBit input (literals + copies) then
    match input[header.literals + literals]? with
    | some byte => return .literal byte
    | none => throw .literalMissing
  else
    match number? input (header.copies + 2 * copies) 2 with
    | some pair => return .copy (pair % 4096 + 1) (pair / 4096 + 3)
    | none => throw .copyMissing

/-- Appends bytes that lie a distance back, one at a time, up to the length of the block; a
count above the distance repeats what it has just appended. -/
def copyBack (length distance : Nat) (positive : 0 < distance) :
    (count : Nat) → (out : Bytes) → distance ≤ out.size → Bytes
  | 0, out, _ => out
  | count + 1, out, inside =>
    if out.size < length then
      let byte := out[out.size - distance]
      copyBack length distance positive count (out.push byte) (by
        rw [Array.size_push]
        omega)
    else out

theorem size_copyBack (length distance : Nat) (positive : 0 < distance) (count : Nat)
    (out : Bytes) (inside : distance ≤ out.size) :
    (copyBack length distance positive count out inside).size =
      max out.size (min length (out.size + count)) := by
  induction count generalizing out with
  | zero => simp only [copyBack]; omega
  | succ count ih =>
    simp only [copyBack]
    split
    · rw [ih, Array.size_push]
      omega
    · omega

def expandFrom (input : Bytes) (header : Header) (literals copies : Nat) (out : Bytes) :
    Except Corruption Bytes :=
  if _more : out.size < header.length then
    match token input header literals copies with
    | .error corruption => .error corruption
    | .ok (.literal byte) => expandFrom input header (literals + 1) copies (out.push byte)
    | .ok (.copy distance count) =>
      if reach : 0 < distance ∧ distance ≤ out.size ∧ 0 < count then
        expandFrom input header literals (copies + 1)
          (copyBack header.length distance reach.1 count out reach.2.1)
      else .error (.distanceTooLong distance out.size)
  else .ok out
termination_by header.length - out.size
decreasing_by
  · simp only [Array.size_push]
    omega
  · rw [size_copyBack]
    omega

/-- Expands a block, unless it says that it is longer than the limit. -/
def expand (input : Bytes) (limit : Nat) : Except Failure Bytes :=
  match readHeader input with
  | .error corruption => .error (.corrupt corruption)
  | .ok header =>
    if limit < header.length then .error (.tooLong header.length limit)
    else
      match expandFrom input header 0 0 (Array.emptyWithCapacity 0) with
      | .error corruption => .error (.corrupt corruption)
      | .ok out => .ok out

end StageScript.Mio0
