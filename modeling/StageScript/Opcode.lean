import StageScript.Address

/-!
The commands a script can hold. An opcode is stored as one byte; its mnemonic appears in
listings and diagnostics, its title in reports about the dispatch table, and its size is the
length of the command in a narrow layout, which is also what its size byte holds.
-/

namespace StageScript

inductive Opcode where
  | execute
  | exitAndExecute
  | exit
  | sleep
  | sleepBeforeExit
  | jump
  | jumpLink
  | ret
  | loopBeginCount
  | loopRepeat
  | loopBegin
  | loopUntil
  | jumpIf
  | jumpLinkIf
  | skipIf
  | skip
  | skipNop
  | call
  | callLoop
  | setRegister
  | pushPool
  | popPool
  | loadFixed
  | loadRaw
  | loadCompressed
  | initLevel
  | clearLevel
  | allocLevelPool
  | freeLevelPool
  | beginArea
  | endArea
  | loadModelFromDl
  | loadModelFromGeo
  | loadModelScaled
  | placeObject
  | initPlayer
  | createWarpNode
  | createPaintingWarpNode
  | createInstantWarp
  | loadArea
  | unloadArea
  | setPlayerStartPos
  | unloadPlayerArea
  | updateObjects
  | setTerrainData
  | setRooms
  | showDialog
  | setTerrainType
  | nop
  | transition
  | blackout
  | gamma
  | setMusic
  | setMenuMusic
  | stopMusic
  | setMacroObjects
  | createWhirlpool
  | getOrSet
  | placeObjectExt
  | placeObjectExt2
  | loadModelFromGeoExt
  | callExt
  | callLoopExt
  deriving DecidableEq, Repr, Inhabited

namespace Opcode

/-- Every opcode, in the order of its code. -/
def all : Array Opcode := #[
  .execute, .exitAndExecute, .exit, .sleep, .sleepBeforeExit, .jump, .jumpLink, .ret,
  .loopBeginCount, .loopRepeat, .loopBegin, .loopUntil, .jumpIf, .jumpLinkIf, .skipIf, .skip,
  .skipNop, .call, .callLoop, .setRegister, .pushPool, .popPool, .loadFixed, .loadRaw,
  .loadCompressed, .initLevel, .clearLevel, .allocLevelPool, .freeLevelPool, .beginArea,
  .endArea, .loadModelFromDl, .loadModelFromGeo, .loadModelScaled, .placeObject, .initPlayer,
  .createWarpNode, .createPaintingWarpNode, .createInstantWarp, .loadArea, .unloadArea,
  .setPlayerStartPos, .unloadPlayerArea, .updateObjects, .setTerrainData, .setRooms, .showDialog,
  .setTerrainType, .nop, .transition, .blackout, .gamma, .setMusic, .setMenuMusic, .stopMusic,
  .setMacroObjects, .createWhirlpool, .getOrSet, .placeObjectExt, .placeObjectExt2,
  .loadModelFromGeoExt, .callExt, .callLoopExt]

/-- How many opcodes there are; a byte at or above this number is no command. -/
def count : Nat := 63

def index (opcode : Opcode) : Nat := opcode.ctorIdx

def code (opcode : Opcode) : UInt8 := UInt8.ofNat opcode.index

def ofCode? (code : UInt8) : Option Opcode := all[code.toNat]?

def ofCode (code : UInt8) : Except FormatError Opcode :=
  match ofCode? code with
  | some opcode => .ok opcode
  | none => .error (.unknownOpcode code)

def mnemonic : Opcode → String
  | .execute => "EXECUTE"
  | .exitAndExecute => "EXIT_AND_EXECUTE"
  | .exit => "EXIT"
  | .sleep => "SLEEP"
  | .sleepBeforeExit => "SLEEP_BEFORE_EXIT"
  | .jump => "JUMP"
  | .jumpLink => "JUMP_LINK"
  | .ret => "RETURN"
  | .loopBeginCount => "LOOP_BEGIN_COUNT"
  | .loopRepeat => "LOOP_REPEAT"
  | .loopBegin => "LOOP_BEGIN"
  | .loopUntil => "LOOP_UNTIL"
  | .jumpIf => "JUMP_IF"
  | .jumpLinkIf => "JUMP_LINK_IF"
  | .skipIf => "SKIP_IF"
  | .skip => "SKIP"
  | .skipNop => "SKIP_NOP"
  | .call => "CALL"
  | .callLoop => "CALL_LOOP"
  | .setRegister => "SET_REG"
  | .pushPool => "PUSH_POOL"
  | .popPool => "POP_POOL"
  | .loadFixed => "LOAD_FIXED"
  | .loadRaw => "LOAD_RAW"
  | .loadCompressed => "LOAD_MIO0"
  | .initLevel => "INIT_LEVEL"
  | .clearLevel => "CLEAR_LEVEL"
  | .allocLevelPool => "ALLOC_LEVEL_POOL"
  | .freeLevelPool => "FREE_LEVEL_POOL"
  | .beginArea => "AREA"
  | .endArea => "END_AREA"
  | .loadModelFromDl => "LOAD_MODEL_FROM_DL"
  | .loadModelFromGeo => "LOAD_MODEL_FROM_GEO"
  | .loadModelScaled => "LOAD_MODEL_SCALED"
  | .placeObject => "OBJECT_WITH_ACTS"
  | .initPlayer => "INIT_PLAYER"
  | .createWarpNode => "WARP_NODE"
  | .createPaintingWarpNode => "PAINTING_WARP_NODE"
  | .createInstantWarp => "INSTANT_WARP"
  | .loadArea => "LOAD_AREA"
  | .unloadArea => "UNLOAD_AREA"
  | .setPlayerStartPos => "PLAYER_POS"
  | .unloadPlayerArea => "UNLOAD_PLAYER_AREA"
  | .updateObjects => "UPDATE_OBJECTS"
  | .setTerrainData => "TERRAIN"
  | .setRooms => "ROOMS"
  | .showDialog => "SHOW_DIALOG"
  | .setTerrainType => "TERRAIN_TYPE"
  | .nop => "NOP"
  | .transition => "TRANSITION"
  | .blackout => "BLACKOUT"
  | .gamma => "GAMMA"
  | .setMusic => "SET_BACKGROUND_MUSIC"
  | .setMenuMusic => "SET_MENU_MUSIC"
  | .stopMusic => "STOP_MUSIC"
  | .setMacroObjects => "MACRO_OBJECTS"
  | .createWhirlpool => "WHIRLPOOL"
  | .getOrSet => "GET_OR_SET"
  | .placeObjectExt => "OBJECT_WITH_ACTS_EXT"
  | .placeObjectExt2 => "OBJECT_WITH_ACTS_EXT2"
  | .loadModelFromGeoExt => "LOAD_MODEL_FROM_GEO_EXT"
  | .callExt => "CALL_EXT"
  | .callLoopExt => "CALL_LOOP_EXT"

def title : Opcode → String
  | .execute => "Execute"
  | .exitAndExecute => "ExitAndExecute"
  | .exit => "Exit"
  | .sleep => "Sleep"
  | .sleepBeforeExit => "SleepBeforeExit"
  | .jump => "Jump"
  | .jumpLink => "JumpLink"
  | .ret => "Return"
  | .loopBeginCount => "LoopBeginCount"
  | .loopRepeat => "LoopRepeat"
  | .loopBegin => "LoopBegin"
  | .loopUntil => "LoopUntil"
  | .jumpIf => "JumpIf"
  | .jumpLinkIf => "JumpLinkIf"
  | .skipIf => "SkipIf"
  | .skip => "Skip"
  | .skipNop => "SkipNop"
  | .call => "Call"
  | .callLoop => "CallLoop"
  | .setRegister => "SetRegister"
  | .pushPool => "PushPool"
  | .popPool => "PopPool"
  | .loadFixed => "LoadFixed"
  | .loadRaw => "LoadRaw"
  | .loadCompressed => "LoadCompressed"
  | .initLevel => "InitLevel"
  | .clearLevel => "ClearLevel"
  | .allocLevelPool => "AllocLevelPool"
  | .freeLevelPool => "FreeLevelPool"
  | .beginArea => "BeginArea"
  | .endArea => "EndArea"
  | .loadModelFromDl => "LoadModelFromDl"
  | .loadModelFromGeo => "LoadModelFromGeo"
  | .loadModelScaled => "LoadModelScaled"
  | .placeObject => "PlaceObject"
  | .initPlayer => "InitPlayer"
  | .createWarpNode => "CreateWarpNode"
  | .createPaintingWarpNode => "CreatePaintingWarpNode"
  | .createInstantWarp => "CreateInstantWarp"
  | .loadArea => "LoadArea"
  | .unloadArea => "UnloadArea"
  | .setPlayerStartPos => "SetPlayerStartPos"
  | .unloadPlayerArea => "UnloadPlayerArea"
  | .updateObjects => "UpdateObjects"
  | .setTerrainData => "SetTerrainData"
  | .setRooms => "SetRooms"
  | .showDialog => "ShowDialog"
  | .setTerrainType => "SetTerrainType"
  | .nop => "Nop"
  | .transition => "Transition"
  | .blackout => "Blackout"
  | .gamma => "Gamma"
  | .setMusic => "SetMusic"
  | .setMenuMusic => "SetMenuMusic"
  | .stopMusic => "StopMusic"
  | .setMacroObjects => "SetMacroObjects"
  | .createWhirlpool => "CreateWhirlpool"
  | .getOrSet => "GetOrSet"
  | .placeObjectExt => "PlaceObjectExt"
  | .placeObjectExt2 => "PlaceObjectExt2"
  | .loadModelFromGeoExt => "LoadModelFromGeoExt"
  | .callExt => "CallExt"
  | .callLoopExt => "CallLoopExt"

def size : Opcode → UInt8
  | .execute | .exitAndExecute | .loadFixed => 16
  | .jump | .jumpLink | .loopUntil | .skipIf | .call | .callLoop | .beginArea | .loadModelFromGeo
  | .createWarpNode | .createPaintingWarpNode | .setTerrainData | .setRooms | .transition |
  .setMusic | .setMacroObjects | .loadModelFromGeoExt | .callExt | .callLoopExt => 8
  | .jumpIf | .jumpLinkIf | .loadRaw | .loadCompressed | .loadModelFromDl | .loadModelScaled |
  .initPlayer | .createInstantWarp | .setPlayerStartPos | .createWhirlpool => 12
  | .placeObject | .placeObjectExt => 24
  | .placeObjectExt2 => 28
  | _ => 4

def firstExtension : UInt8 := 0x3A

def lastExtension : UInt8 := 0x3E

/-- Extension commands name package content by token; their operands follow the layout's own
byte order. -/
def codeIsExtension (code : UInt8) : Bool := firstExtension ≤ code && code ≤ lastExtension

def isExtension (opcode : Opcode) : Bool := codeIsExtension opcode.code

theorem size_all : all.size = count := rfl

theorem ofCode?_code (opcode : Opcode) : ofCode? opcode.code = some opcode := by
  cases opcode <;> rfl

theorem ofCode?_eq_none_iff (code : UInt8) : ofCode? code = none ↔ count ≤ code.toNat := by
  simp [ofCode?, size_all]

end Opcode

end StageScript
