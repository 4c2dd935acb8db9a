import StageScript.Layout

/-!
Operands as they are written: a narrow offset and a typed value. A destination of a jump is
either an address or a label, whose address is known only when the script is complete.
-/

namespace StageScript.Assembly

structure Label where
  index : Nat
  deriving DecidableEq, Repr, Inhabited

inductive Target where
  | address (address : Address)
  | label (label : Label)
  deriving DecidableEq, Repr

inductive Value where
  | u8 (value : UInt8)
  | u16 (value : UInt16)
  | i16 (value : Int16)
  | u32 (value : UInt32)
  | i32 (value : Int32)
  | pointer (value : UInt64)
  | target (target : Target)
  deriving DecidableEq, Repr

structure Field where
  offset : Nat
  value : Value
  deriving DecidableEq, Repr

/-- The bytes of a pointer; a narrow one keeps the low four. -/
def pointerBytes (layout : Layout) (order : ByteOrder) (value : Nat) : List UInt8 :=
  order.encode layout.pointerWidth.bytes value

/-- The bytes of a value, absent for a label. -/
def Value.bytes? (layout : Layout) (order : ByteOrder) : Value → Option (List UInt8)
  | .u8 value => some [value]
  | .u16 value => some (order.encode 2 value.toNat)
  | .i16 value => some (order.encode 2 value.toUInt16.toNat)
  | .u32 value => some (order.encode 4 value.toNat)
  | .i32 value => some (order.encode 4 value.toUInt32.toNat)
  | .pointer value => some (pointerBytes layout order value.toNat)
  | .target (.address address) => some (pointerBytes layout order address.raw.toNat)
  | .target (.label _) => none

end StageScript.Assembly
