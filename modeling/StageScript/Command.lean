import StageScript.Comparison
import StageScript.Layout
import StageScript.Pointer

/-!
Decoding one command. A decoded command holds exactly its own bytes, so an operand can never be
read from the command that follows it. Operands are named by their narrow offset.
-/

namespace StageScript

/-- Why a command, or one of its operands, cannot be read. -/
inductive ReadFault where
  | outsideBuffer (pointer : Pointer)
  | zeroSize (pointer : Pointer) (code : UInt8)
  | overrun (pointer : Pointer) (code : UInt8) (bytes : Nat)
  | operandOutside (pointer : Pointer) (code : UInt8) (offset width : Nat)
  /-- The operand ends where no 64-bit offset leads. -/
  | operandUnreachable (pointer : Pointer) (offset width : Nat)
  | invalidComparison (pointer : Pointer) (comparison : UInt8)
  | notAnAddress (pointer : Pointer) (value : Nat)
  deriving DecidableEq, Repr

def ReadFault.title : ReadFault → String
  | .outsideBuffer _ => "CursorOutOfBounds"
  | .zeroSize .. => "ZeroSizedCommand"
  | .overrun .. => "CommandOverrun"
  | .operandOutside .. => "OperandOutOfBounds"
  | .operandUnreachable .. => "OperandUnreachable"
  | .invalidComparison .. => "InvalidComparison"
  | .notAnAddress .. => "AddressOverflow"

def ReadFault.message : ReadFault → String
  | .outsideBuffer pointer => s!"command pointer {pointer.text} lies outside its buffer"
  | .zeroSize pointer code =>
    s!"command {Text.Hex.tagged 2 code.toNat} at {pointer.text} has a zero size field"
  | .overrun pointer code bytes =>
    s!"command {Text.Hex.tagged 2 code.toNat} at {pointer.text} needs {bytes} " ++
      "bytes past the end of its buffer"
  | .operandOutside pointer code offset width =>
    s!"operand at offset {offset} ({width} bytes) lies outside " ++
      s!"command {Text.Hex.tagged 2 code.toNat} at {pointer.text}"
  | .operandUnreachable pointer offset width =>
    s!"operand at offset {offset} ({width} bytes) of the command at {pointer.text} is out of reach"
  | .invalidComparison pointer comparison =>
    s!"invalid comparison operator {comparison.toNat} at {pointer.text}"
  | .notAnAddress pointer value =>
    s!"pointer field {Text.Hex.tagged 0 value} at {pointer.text} is not a segmented address"

structure Command where
  pointer : Pointer
  code : UInt8
  size : UInt8
  /-- The bytes from the opcode to the end of the command. -/
  body : Bytes
  layout : Layout
  deriving DecidableEq, Repr

namespace Command

/-- The opcode byte under a pointer, whatever follows it. -/
def codeAt (bytes : Bytes) (pointer : Pointer) : Except ReadFault UInt8 :=
  match bytes[pointer.offset]? with
  | some code => .ok code
  | none => .error (.outsideBuffer pointer)

def decode (layout : Layout) (bytes : Bytes) (pointer : Pointer) : Except ReadFault Command :=
  match bytes[pointer.offset]? with
  | none => .error (.outsideBuffer pointer)
  | some code =>
    match bytes[pointer.offset + 1]? with
    | none => .error (.overrun pointer code 2)
    | some size =>
      let length := layout.commandBytes size
      if size = 0 then .error (.zeroSize pointer code)
      else if bytes.size < pointer.offset + length then .error (.overrun pointer code length)
      else
        .ok ⟨pointer, code, size, bytes.extract pointer.offset (pointer.offset + length), layout⟩

def opcode? (command : Command) : Option Opcode := Opcode.ofCode? command.code

/-- The length of the command in bytes. -/
def length (command : Command) : Nat := command.body.size

/-- The pointer to the command that follows. -/
def next (command : Command) : Pointer := command.pointer.advance command.length

def order (command : Command) : ByteOrder := command.layout.orderOf command.code

/-- An operand of the given width in bytes, as an unsigned number. -/
def operand (command : Command) (offset width : Nat) : Except ReadFault Nat :=
  let place := command.layout.place offset
  if limit64 ≤ place + width then .error (.operandUnreachable command.pointer offset width)
  else if command.length < place + width then
    .error (.operandOutside command.pointer command.code offset width)
  else
    .ok (command.order.decode (command.body.extract place (place + width)).toList)

def u8 (command : Command) (offset : Nat) : Except ReadFault UInt8 :=
  UInt8.ofNat <$> command.operand offset 1

def i8 (command : Command) (offset : Nat) : Except ReadFault Int8 :=
  UInt8.toInt8 <$> command.u8 offset

def u16 (command : Command) (offset : Nat) : Except ReadFault UInt16 :=
  UInt16.ofNat <$> command.operand offset 2

def i16 (command : Command) (offset : Nat) : Except ReadFault Int16 :=
  UInt16.toInt16 <$> command.u16 offset

def u32 (command : Command) (offset : Nat) : Except ReadFault UInt32 :=
  UInt32.ofNat <$> command.operand offset 4

def i32 (command : Command) (offset : Nat) : Except ReadFault Int32 :=
  UInt32.toInt32 <$> command.u32 offset

/-- A pointer-sized operand. -/
def pointerValue (command : Command) (offset : Nat) : Except ReadFault Nat :=
  command.operand offset command.layout.pointerWidth.bytes

/-- A pointer-sized operand that has to hold a segmented address. -/
def address (command : Command) (offset : Nat) : Except ReadFault Address := do
  let value ← command.pointerValue offset
  if value < limit32 then return ⟨UInt32.ofNat value⟩
  else throw (.notAnAddress command.pointer value)

/-- A decoded command has at least one byte and ends inside its buffer. -/
theorem length_of_decode {layout : Layout} {bytes : Bytes} {pointer : Pointer} {command : Command}
    (decoded : decode layout bytes pointer = .ok command) :
    0 < command.length ∧ pointer.offset + command.length ≤ bytes.size := by
  unfold decode at decoded
  split at decoded
  next => simp at decoded
  next code _ =>
    split at decoded
    next => simp at decoded
    next size _ =>
      simp only at decoded
      split at decoded
      next => simp at decoded
      next nonzero =>
        split at decoded
        next => simp at decoded
        next fits =>
          simp only [Except.ok.injEq] at decoded
          subst decoded
          have positive : size.toNat ≠ 0 := fun same => nonzero (UInt8.toNat_inj.mp same)
          have scaled : 0 < layout.commandBytes size := by
            unfold Layout.commandBytes PointerWidth.scale
            cases layout.pointerWidth <;> simp <;> omega
          simp only [length, Array.size_extract]
          omega

end Command

end StageScript
