import StageScript.Bytes
import StageScript.Text.Hex

/-!
Script pointers. A pointer names a buffer and a byte offset inside it, and stays meaningful
only as long as that buffer is live.
-/

namespace StageScript

/-- Buffers are numbered in the order in which they were made. -/
abbrev BufferId := Nat

structure Pointer where
  buffer : BufferId
  offset : Nat
  deriving DecidableEq, Repr, Inhabited

namespace Pointer

def startOf (buffer : BufferId) : Pointer := ⟨buffer, 0⟩

def advance (pointer : Pointer) (bytes : Nat) : Pointer :=
  { pointer with offset := pointer.offset + bytes }

/-- The pointer further on, absent when its offset needs more than 32 bits. -/
def advance? (pointer : Pointer) (bytes : Nat) : Option Pointer :=
  if pointer.offset + bytes < limit32 then some (pointer.advance bytes) else none

def text (pointer : Pointer) : String :=
  s!"buf{pointer.buffer}+{Text.Hex.tagged 4 pointer.offset}"

end Pointer

end StageScript
