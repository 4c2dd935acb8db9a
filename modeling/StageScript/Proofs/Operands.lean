import StageScript.Instruction
import StageScript.Machine.Control

/-!
Operands and the extension byte order. Where a command ends, and which commands a skip passes over,
has nothing to do with the order; and what a command says has nothing to do with it either, unless its
code is that of an extension.
-/

namespace StageScript

def Layout.withOrder (order : ByteOrder) (layout : Layout) : Layout :=
  { layout with extensionOrder := order }

namespace Command

variable {layout : Layout} {bytes : Bytes} {pointer : Pointer} {command : Command}

/-- The same command, its operands read in another order if it is an extension. -/
def withOrder (order : ByteOrder) (command : Command) : Command :=
  { command with layout := command.layout.withOrder order }

theorem decode_withOrder (order : ByteOrder) (layout : Layout) (bytes : Bytes) (pointer : Pointer) :
    decode (layout.withOrder order) bytes pointer =
      (decode layout bytes pointer).map (withOrder order) := by
  unfold decode
  cases bytes[pointer.offset]? with
  | none => rfl
  | some code =>
    cases bytes[pointer.offset + 1]? with
    | none => rfl
    | some size =>
      simp only [apply_ite (Except.map (withOrder order))]
      rfl

section Plain

variable (plain : ¬ Opcode.codeIsExtension command.code) (order : ByteOrder)
include plain

theorem operand_withOrder (offset width : Nat) :
    (command.withOrder order).operand offset width = command.operand offset width := by
  have little : (command.withOrder order).order = command.order :=
    (if_neg plain).trans (if_neg plain).symm
  unfold operand
  rw [little]
  rfl

theorem u8_withOrder (offset : Nat) : (command.withOrder order).u8 offset = command.u8 offset :=
  congrArg (UInt8.ofNat <$> ·) (operand_withOrder plain order offset 1)

theorem u16_withOrder (offset : Nat) : (command.withOrder order).u16 offset = command.u16 offset :=
  congrArg (UInt16.ofNat <$> ·) (operand_withOrder plain order offset 2)

theorem i16_withOrder (offset : Nat) : (command.withOrder order).i16 offset = command.i16 offset :=
  congrArg (UInt16.toInt16 <$> ·) (u16_withOrder plain order offset)

theorem u32_withOrder (offset : Nat) : (command.withOrder order).u32 offset = command.u32 offset :=
  congrArg (UInt32.ofNat <$> ·) (operand_withOrder plain order offset 4)

theorem i32_withOrder (offset : Nat) : (command.withOrder order).i32 offset = command.i32 offset :=
  congrArg (UInt32.toInt32 <$> ·) (u32_withOrder plain order offset)

theorem address_withOrder (offset : Nat) :
    (command.withOrder order).address offset = command.address offset := by
  have read : (command.withOrder order).pointerValue offset = command.pointerValue offset :=
    operand_withOrder plain order offset _
  rw [address, address, read]
  rfl

theorem number_withOrder (offset : Nat) :
    (command.withOrder order).number offset = command.number offset :=
  congrArg (Address.raw <$> ·) (address_withOrder plain order offset)

theorem vec3_withOrder (offset : Nat) :
    (command.withOrder order).vec3 offset = command.vec3 offset := by
  simp only [vec3, i16_withOrder plain]

theorem segmentLoad_withOrder : (command.withOrder order).segmentLoad = command.segmentLoad := by
  simp only [segmentLoad, i16_withOrder plain, number_withOrder plain]

theorem condition_withOrder : (command.withOrder order).condition = command.condition := by
  simp only [condition, u8_withOrder plain, i32_withOrder plain]
  rfl

theorem warpNode_withOrder : (command.withOrder order).warpNode = command.warpNode := by
  simp only [warpNode, u8_withOrder plain]

/-- Whatever opcode a command is taken for, its own code decides which order its operands have. -/
theorem read_withOrder (opcode : Opcode) :
    Instruction.read opcode (command.withOrder order) = Instruction.read opcode command := by
  cases opcode <;>
    simp only [Instruction.read, u8_withOrder plain, u16_withOrder plain, i16_withOrder plain,
      u32_withOrder plain, address_withOrder plain, number_withOrder plain, vec3_withOrder plain,
      segmentLoad_withOrder plain, condition_withOrder plain, warpNode_withOrder plain]

end Plain

end Command

namespace Machine

variable {layout : Layout} {bytes : Bytes} {passedOver : Option Opcode → Bool}

theorem pastFirst_eq (pointer : Pointer) :
    pastFirst layout bytes passedOver pointer = match Command.decode layout bytes pointer with
      | .error fault => .error fault
      | .ok command =>
        if passedOver command.opcode? then
          pastFirst layout bytes passedOver (pointer.advance command.length)
        else .ok (pointer.advance command.length) := by
  rw [pastFirst]
  split
  next found => rw [found]
  next found => rw [found]

theorem pastFirst_withOrder (order : ByteOrder) (pointer : Pointer) :
    pastFirst (layout.withOrder order) bytes passedOver pointer =
      pastFirst layout bytes passedOver pointer := by
  fun_induction pastFirst layout bytes passedOver pointer with
  | case1 pointer fault found =>
    rw [pastFirst_eq, Command.decode_withOrder, found]
    rfl
  | case2 pointer command found passed ih =>
    rw [pastFirst_eq, Command.decode_withOrder, found]
    exact (if_pos passed).trans ih
  | case3 pointer command found stops =>
    rw [pastFirst_eq, Command.decode_withOrder, found]
    exact if_neg stops

end Machine

end StageScript
