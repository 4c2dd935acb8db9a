import StageScript.Bytes
import StageScript.Opcode

/-!
How commands are laid out in bytes. Operand offsets and the size byte of a command are always
those of the narrow layout; a wide layout has pointers of eight bytes and doubles everything
past the first word.
-/

namespace StageScript

inductive PointerWidth where
  | narrow
  | wide
  deriving DecidableEq, Repr, Inhabited

namespace PointerWidth

def bytes : PointerWidth → Nat
  | .narrow => 4
  | .wide => 8

def scale : PointerWidth → Nat
  | .narrow => 1
  | .wide => 2

def text : PointerWidth → String
  | .narrow => "narrow"
  | .wide => "wide"

def ofText? : String → Option PointerWidth
  | "narrow" => some .narrow
  | "wide" => some .wide
  | _ => none

end PointerWidth

namespace ByteOrder

def text : ByteOrder → String
  | .little => "little"
  | .big => "big"

def title : ByteOrder → String
  | .little => "Little"
  | .big => "Big"

def ofText? : String → Option ByteOrder
  | "little" => some .little
  | "big" => some .big
  | _ => none

end ByteOrder

structure Layout where
  pointerWidth : PointerWidth
  extensionOrder : ByteOrder
  deriving DecidableEq, Repr

namespace Layout

/-- Narrow pointers, and extension operands least significant byte first. -/
def standard : Layout := ⟨.narrow, .little⟩

instance : Inhabited Layout := ⟨standard⟩

/-- The place of an operand: whole words before it are scaled, the offset in its word is kept.
Offsets are 64-bit words, and scaling drops what no longer fits. -/
def place (layout : Layout) (offset : Nat) : Nat :=
  offset % 4 + offset / 4 * 4 * layout.pointerWidth.scale % limit64

/-- The length of a command with the given size byte. -/
def commandBytes (layout : Layout) (size : UInt8) : Nat :=
  size.toNat * layout.pointerWidth.scale

def orderOf (layout : Layout) (code : UInt8) : ByteOrder :=
  if Opcode.codeIsExtension code then layout.extensionOrder else .little

theorem place_of_lt (layout : Layout) (offset : Nat) (small : 2 * offset < limit64) :
    layout.place offset = offset % 4 + offset / 4 * 4 * layout.pointerWidth.scale := by
  unfold place
  unfold limit64 at small ⊢
  cases layout.pointerWidth <;> simp only [PointerWidth.scale] <;> omega

end Layout

end StageScript
