import StageScript.Command
import StageScript.Level
import StageScript.Presentation

/-!
Instructions: what a command says once its operands are read. Reading is separate from running,
so a command whose operands cannot be read has no effect. Two operands are read late: the
target of a conditional jump only when it is taken, and the second token of a placement only
when the first stands for a model; both are kept here as the outcome of their reading.
-/

namespace StageScript

/-- A range of the content image and the segment it is loaded into. -/
structure SegmentLoad where
  segment : Int16
  start : UInt32
  stop : UInt32
  deriving DecidableEq, Repr, Inhabited

/-- A comparison of the register with a literal. -/
structure Condition where
  comparison : Comparison
  literal : Int32
  deriving DecidableEq, Repr, Inhabited

def Condition.holds (condition : Condition) (register : Int32) : Bool :=
  condition.comparison.holds register condition.literal

inductive Instruction where
  | execute (load : SegmentLoad) (entry : Address)
  | exitAndExecute (load : SegmentLoad) (entry : Address)
  | exit
  | sleep (frames : Int16)
  | sleepBeforeExit (frames : Int16)
  | jump (target : Address)
  | jumpLink (target : Address)
  | ret
  | loopBeginCount (count : Int16)
  | loopRepeat
  | loopBegin
  | loopUntil (condition : Condition)
  | jumpIf (condition : Condition) (target : Except ReadFault Address)
  | jumpLinkIf (condition : Condition) (target : Except ReadFault Address)
  | skipIf (condition : Condition)
  | skip
  | nop
  | call (argument : Int16) (function : UInt32)
  | callLoop (argument : Int16) (function : UInt32)
  | setRegister (value : Int16)
  | pushPool
  | popPool
  | loadFixed (dest : Address) (start stop : UInt32)
  | loadRaw (load : SegmentLoad)
  | loadCompressed (load : SegmentLoad)
  | initLevel
  | clearLevel
  | allocLevelPool
  | freeLevelPool
  | beginArea (index : UInt8) (geometry : Address)
  | endArea
  | loadModelFromDl (model : UInt16) (displayList : Address) (layer : UInt16)
  | loadModelFromGeo (model : UInt16) (geometry : Address)
  | loadModelScaled (model : UInt16) (displayList : Address) (scaleBits : UInt32)
  | placeObject (spawn : Spawn)
  | initPlayer (player : Player)
  | createWarpNode (node : WarpNode)
  | createPaintingWarpNode (node : WarpNode)
  | createInstantWarp (index : UInt8) (warp : InstantWarp)
  | loadArea (index : UInt8)
  | unloadArea
  | setPlayerStartPos (spawn : PlayerSpawn)
  | unloadPlayerArea
  | updateObjects
  | setTerrainData (data : Address)
  | setRooms (data : Address)
  | showDialog (index dialog : UInt8)
  | setTerrainType (terrain : Int16)
  | present (request : Request)
  | setMusic (music : Music)
  | setMacroObjects (data : Address)
  | createWhirlpool (index : UInt8) (whirlpool : Whirlpool)
  | getOrSet (mode var : UInt8)
  | placeObjectExt (model : UInt8) (position angle : Vec3) (behaviorArg : UInt32)
      (behaviorToken : UInt32) (acts : UInt8)
  | placeObjectExt2 (position angle : Vec3) (behaviorArg : UInt32) (modelToken : UInt32)
      (behaviorToken : Except ReadFault UInt32) (acts : UInt8)
  | loadModelFromGeoExt (model : UInt16) (geometryToken : UInt32)
  | callExt (argument : Int16) (functionToken : UInt32)
  | callLoopExt (argument : Int16) (functionToken : UInt32)

namespace Command

/-- A pointer-sized operand that has to fit in 32 bits. -/
def number (command : Command) (offset : Nat) : Except ReadFault UInt32 :=
  Address.raw <$> command.address offset

def vec3 (command : Command) (offset : Nat) : Except ReadFault Vec3 := do
  return ⟨← command.i16 offset, ← command.i16 (offset + 2), ← command.i16 (offset + 4)⟩

def segmentLoad (command : Command) : Except ReadFault SegmentLoad := do
  return ⟨← command.i16 2, ← command.number 4, ← command.number 8⟩

/-- The number of the comparison is judged before the literal is read. -/
def condition (command : Command) : Except ReadFault Condition := do
  let code ← command.u8 2
  match Comparison.ofCode code with
  | .error _ => throw (.invalidComparison command.pointer code)
  | .ok comparison => return ⟨comparison, ← command.i32 4⟩

def warpNode (command : Command) : Except ReadFault WarpNode := do
  return ⟨← command.u8 2, ← command.u8 3, ← command.u8 4, ← command.u8 5, ← command.u8 6⟩

end Command

/-- Reads the operands that commands of an opcode have. -/
def Instruction.read (opcode : Opcode) (command : Command) : Except ReadFault Instruction :=
  match opcode with
  | .execute => do return .execute (← command.segmentLoad) (← command.address 12)
  | .exitAndExecute => do return .exitAndExecute (← command.segmentLoad) (← command.address 12)
  | .exit => .ok .exit
  | .sleep => do return .sleep (← command.i16 2)
  | .sleepBeforeExit => do return .sleepBeforeExit (← command.i16 2)
  | .jump => do return .jump (← command.address 4)
  | .jumpLink => do return .jumpLink (← command.address 4)
  | .ret => .ok .ret
  | .loopBeginCount => do return .loopBeginCount (← command.i16 2)
  | .loopRepeat => .ok .loopRepeat
  | .loopBegin => .ok .loopBegin
  | .loopUntil => do return .loopUntil (← command.condition)
  | .jumpIf => do return .jumpIf (← command.condition) (command.address 8)
  | .jumpLinkIf => do return .jumpLinkIf (← command.condition) (command.address 8)
  | .skipIf => do return .skipIf (← command.condition)
  | .skip => .ok .skip
  | .skipNop => .ok .nop
  | .call => do return .call (← command.i16 2) (← command.number 4)
  | .callLoop => do return .callLoop (← command.i16 2) (← command.number 4)
  | .setRegister => do return .setRegister (← command.i16 2)
  | .pushPool => .ok .pushPool
  | .popPool => .ok .popPool
  | .loadFixed => do
    return .loadFixed (← command.address 4) (← command.number 8) (← command.number 12)
  | .loadRaw => do return .loadRaw (← command.segmentLoad)
  | .loadCompressed => do return .loadCompressed (← command.segmentLoad)
  | .initLevel => .ok .initLevel
  | .clearLevel => .ok .clearLevel
  | .allocLevelPool => .ok .allocLevelPool
  | .freeLevelPool => .ok .freeLevelPool
  | .beginArea => do return .beginArea (← command.u8 2) (← command.address 4)
  | .endArea => .ok .endArea
  | .loadModelFromDl => do
    return .loadModelFromDl (← command.u16 2) (← command.address 4) (← command.u16 8)
  | .loadModelFromGeo => do return .loadModelFromGeo (← command.u16 2) (← command.address 4)
  | .loadModelScaled => do
    return .loadModelScaled (← command.u16 2) (← command.address 4) (← command.u32 8)
  | .placeObject => do
    let acts ← command.u8 2
    let model ← command.u8 3
    let position ← command.vec3 4
    let angle ← command.vec3 10
    let behaviorArg ← command.u32 16
    let behavior ← command.address 20
    return .placeObject ⟨model.toUInt16, position, angle, behaviorArg, .address behavior, acts⟩
  | .initPlayer => do
    return .initPlayer ⟨← command.u8 3, ← command.u32 4, ← command.address 8⟩
  | .createWarpNode => do return .createWarpNode (← command.warpNode)
  | .createPaintingWarpNode => do return .createPaintingWarpNode (← command.warpNode)
  | .createInstantWarp => do
    return .createInstantWarp (← command.u8 2) ⟨← command.u8 3, ← command.vec3 4⟩
  | .loadArea => do return .loadArea (← command.u8 2)
  | .unloadArea => .ok .unloadArea
  | .setPlayerStartPos => do
    return .setPlayerStartPos ⟨← command.u8 2, ← command.i16 4, ← command.vec3 6⟩
  | .unloadPlayerArea => .ok .unloadPlayerArea
  | .updateObjects => .ok .updateObjects
  | .setTerrainData => do return .setTerrainData (← command.address 4)
  | .setRooms => do return .setRooms (← command.address 4)
  | .showDialog => do return .showDialog (← command.u8 2) (← command.u8 3)
  | .setTerrainType => do return .setTerrainType (← command.i16 2)
  | .nop => .ok .nop
  | .transition => do
    let kind ← command.u8 2
    let time ← command.u8 3
    let color : Color := ⟨← command.u8 4, ← command.u8 5, ← command.u8 6⟩
    return .present (.transition kind time color)
  | .blackout => do return .present (.blackout ((← command.u8 2) != 0))
  | .gamma => do return .present (.gamma ((← command.u8 2) != 0))
  | .setMusic => do return .setMusic ⟨← command.i16 2, ← command.i16 4⟩
  | .setMenuMusic => do return .present (.menuMusic (← command.i16 2))
  | .stopMusic => do return .present (.stopMusic (← command.i16 2))
  | .setMacroObjects => do return .setMacroObjects (← command.address 4)
  | .createWhirlpool => do
    return .createWhirlpool (← command.u8 2)
      ⟨← command.u8 3, ← command.vec3 4, ← command.i16 10⟩
  | .getOrSet => do return .getOrSet (← command.u8 2) (← command.u8 3)
  | .placeObjectExt => do
    let acts ← command.u8 2
    let model ← command.u8 3
    let position ← command.vec3 4
    let angle ← command.vec3 10
    let behaviorArg ← command.u32 16
    let behaviorToken ← command.u32 20
    return .placeObjectExt model position angle behaviorArg behaviorToken acts
  | .placeObjectExt2 => do
    let acts ← command.u8 2
    let position ← command.vec3 4
    let angle ← command.vec3 10
    let behaviorArg ← command.u32 16
    let modelToken ← command.u32 20
    return .placeObjectExt2 position angle behaviorArg modelToken (command.u32 24) acts
  | .loadModelFromGeoExt => do
    return .loadModelFromGeoExt (← command.u16 2) (← command.u32 4)
  | .callExt => do return .callExt (← command.i16 2) (← command.u32 4)
  | .callLoopExt => do return .callLoopExt (← command.i16 2) (← command.u32 4)

end StageScript
