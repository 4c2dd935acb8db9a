import StageScript.Assembly.Field
import StageScript.Comparison
import StageScript.Level.Area
import StageScript.Presentation

/-!
The statements that scripts are built from. Each statement is one command of canonical size,
given by its opcode and its operands.
-/

namespace StageScript.Assembly

/-- What the commands that place an object have in common. -/
structure Placement where
  acts : UInt8
  model : UInt8
  position : Vec3
  angle : Vec3
  behaviorArg : UInt32
  deriving DecidableEq, Repr, Inhabited

inductive Statement where
  | execute (segment : UInt8) (start stop : UInt32) (entry : Target)
  | exitAndExecute (segment : UInt8) (start stop : UInt32) (entry : Target)
  | exit
  | sleep (frames : Int16)
  | sleepBeforeExit (frames : Int16)
  | jump (target : Target)
  | jumpLink (target : Target)
  | ret
  | loopBeginCount (count : Int16)
  | loopRepeat
  | loopBegin
  | loopUntil (comparison : Comparison) (literal : Int32)
  | jumpIf (comparison : Comparison) (literal : Int32) (target : Target)
  | jumpLinkIf (comparison : Comparison) (literal : Int32) (target : Target)
  | skipIf (comparison : Comparison) (literal : Int32)
  | skip
  | skipNop
  | call (argument : Int16) (function : UInt32)
  | callLoop (argument : Int16) (function : UInt32)
  | setRegister (value : Int16)
  | pushPool
  | popPool
  | loadFixed (dest : Address) (start stop : UInt32)
  | loadRaw (segment : UInt8) (start stop : UInt32)
  | loadCompressed (segment : UInt8) (start stop : UInt32)
  | initLevel
  | clearLevel
  | allocLevelPool
  | freeLevelPool
  | beginArea (area : UInt8) (geometry : Address)
  | endArea
  | loadModelFromGeo (model : UInt16) (geometry : Address)
  | loadModelFromDl (model : UInt16) (displayList : Address) (layer : UInt16)
  | placeObject (placement : Placement) (behavior : Address)
  | placeObjectExt (placement : Placement) (behaviorToken : UInt32)
  | placeObjectExt2 (placement : Placement) (modelToken behaviorToken : UInt32)
  | initPlayer (model : UInt8) (behaviorArg : UInt32) (behavior : Address)
  | createWarpNode (node : WarpNode)
  | createPaintingWarpNode (node : WarpNode)
  | createInstantWarp (index : UInt8) (warp : InstantWarp)
  | loadArea (area : UInt8)
  | unloadArea
  | setPlayerStartPos (area : UInt8) (yaw : Int16) (position : Vec3)
  | setTerrainData (data : Address)
  | showDialog (index dialog : UInt8)
  | setTerrainType (terrain : Int16)
  | nop
  | transition (kind time : UInt8) (color : Color)
  | setMusic (music : Music)
  | createWhirlpool (index : UInt8) (whirlpool : Whirlpool)
  | getOrSet (mode var : UInt8)
  | loadModelFromGeoExt (model : UInt16) (geometryToken : UInt32)
  | callExt (argument : Int16) (functionToken : UInt32)
  | callLoopExt (argument : Int16) (functionToken : UInt32)
  deriving DecidableEq, Repr

def addressField (offset : Nat) (address : Address) : Field :=
  ⟨offset, .pointer address.raw.toUInt64⟩

def numberField (offset : Nat) (number : UInt32) : Field :=
  ⟨offset, .pointer number.toUInt64⟩

def vectorFields (offset : Nat) (vector : Vec3) : List Field :=
  [⟨offset, .i16 vector.x⟩, ⟨offset + 2, .i16 vector.y⟩, ⟨offset + 4, .i16 vector.z⟩]

def segmentFields (segment : UInt8) (start stop : UInt32) : List Field :=
  [⟨2, .i16 segment.toUInt16.toInt16⟩, numberField 4 start, numberField 8 stop]

def conditionFields (comparison : Comparison) (literal : Int32) : List Field :=
  [⟨2, .u8 comparison.code⟩, ⟨4, .i32 literal⟩]

def callFields (argument : Int16) (function : UInt32) : List Field :=
  [⟨2, .i16 argument⟩, numberField 4 function]

def placementFields (placement : Placement) : List Field :=
  ⟨2, .u8 placement.acts⟩ :: vectorFields 4 placement.position ++
    vectorFields 10 placement.angle ++ [⟨16, .u32 placement.behaviorArg⟩]

def warpFields (node : WarpNode) : List Field :=
  [⟨2, .u8 node.id⟩, ⟨3, .u8 node.destLevel⟩, ⟨4, .u8 node.destArea⟩, ⟨5, .u8 node.destNode⟩,
    ⟨6, .u8 node.flags⟩]

namespace Statement

def opcode : Statement → Opcode
  | .execute .. => .execute
  | .exitAndExecute .. => .exitAndExecute
  | .exit => .exit
  | .sleep .. => .sleep
  | .sleepBeforeExit .. => .sleepBeforeExit
  | .jump .. => .jump
  | .jumpLink .. => .jumpLink
  | .ret => .ret
  | .loopBeginCount .. => .loopBeginCount
  | .loopRepeat => .loopRepeat
  | .loopBegin => .loopBegin
  | .loopUntil .. => .loopUntil
  | .jumpIf .. => .jumpIf
  | .jumpLinkIf .. => .jumpLinkIf
  | .skipIf .. => .skipIf
  | .skip => .skip
  | .skipNop => .skipNop
  | .call .. => .call
  | .callLoop .. => .callLoop
  | .setRegister .. => .setRegister
  | .pushPool => .pushPool
  | .popPool => .popPool
  | .loadFixed .. => .loadFixed
  | .loadRaw .. => .loadRaw
  | .loadCompressed .. => .loadCompressed
  | .initLevel => .initLevel
  | .clearLevel => .clearLevel
  | .allocLevelPool => .allocLevelPool
  | .freeLevelPool => .freeLevelPool
  | .beginArea .. => .beginArea
  | .endArea => .endArea
  | .loadModelFromGeo .. => .loadModelFromGeo
  | .loadModelFromDl .. => .loadModelFromDl
  | .placeObject .. => .placeObject
  | .placeObjectExt .. => .placeObjectExt
  | .placeObjectExt2 .. => .placeObjectExt2
  | .initPlayer .. => .initPlayer
  | .createWarpNode .. => .createWarpNode
  | .createPaintingWarpNode .. => .createPaintingWarpNode
  | .createInstantWarp .. => .createInstantWarp
  | .loadArea .. => .loadArea
  | .unloadArea => .unloadArea
  | .setPlayerStartPos .. => .setPlayerStartPos
  | .setTerrainData .. => .setTerrainData
  | .showDialog .. => .showDialog
  | .setTerrainType .. => .setTerrainType
  | .nop => .nop
  | .transition .. => .transition
  | .setMusic .. => .setMusic
  | .createWhirlpool .. => .createWhirlpool
  | .getOrSet .. => .getOrSet
  | .loadModelFromGeoExt .. => .loadModelFromGeoExt
  | .callExt .. => .callExt
  | .callLoopExt .. => .callLoopExt

def fields : Statement → List Field
  | .execute segment start stop entry | .exitAndExecute segment start stop entry =>
    segmentFields segment start stop ++ [⟨12, .target entry⟩]
  | .sleep frames | .sleepBeforeExit frames => [⟨2, .i16 frames⟩]
  | .jump target | .jumpLink target => [⟨4, .target target⟩]
  | .loopBeginCount count => [⟨2, .i16 count⟩]
  | .loopUntil comparison literal | .skipIf comparison literal =>
    conditionFields comparison literal
  | .jumpIf comparison literal target | .jumpLinkIf comparison literal target =>
    conditionFields comparison literal ++ [⟨8, .target target⟩]
  | .call argument function | .callLoop argument function => callFields argument function
  | .setRegister value => [⟨2, .i16 value⟩]
  | .loadFixed dest start stop =>
    [addressField 4 dest, numberField 8 start, numberField 12 stop]
  | .loadRaw segment start stop | .loadCompressed segment start stop =>
    segmentFields segment start stop
  | .beginArea area geometry => [⟨2, .u8 area⟩, addressField 4 geometry]
  | .loadModelFromGeo model geometry => [⟨2, .u16 model⟩, addressField 4 geometry]
  | .loadModelFromDl model displayList layer =>
    [⟨2, .u16 model⟩, addressField 4 displayList, ⟨8, .u16 layer⟩]
  | .placeObject placement behavior =>
    placementFields placement ++ [⟨3, .u8 placement.model⟩, addressField 20 behavior]
  | .placeObjectExt placement behaviorToken =>
    placementFields placement ++ [⟨3, .u8 placement.model⟩, ⟨20, .u32 behaviorToken⟩]
  | .placeObjectExt2 placement modelToken behaviorToken =>
    placementFields placement ++ [⟨20, .u32 modelToken⟩, ⟨24, .u32 behaviorToken⟩]
  | .initPlayer model behaviorArg behavior =>
    [⟨3, .u8 model⟩, ⟨4, .u32 behaviorArg⟩, addressField 8 behavior]
  | .createWarpNode node | .createPaintingWarpNode node => warpFields node
  | .createInstantWarp index warp =>
    ⟨2, .u8 index⟩ :: ⟨3, .u8 warp.destArea⟩ :: vectorFields 4 warp.displacement
  | .loadArea area => [⟨2, .u8 area⟩]
  | .setPlayerStartPos area yaw position =>
    ⟨2, .u8 area⟩ :: ⟨4, .i16 yaw⟩ :: vectorFields 6 position
  | .setTerrainData data => [addressField 4 data]
  | .showDialog index dialog => [⟨2, .u8 index⟩, ⟨3, .u8 dialog⟩]
  | .setTerrainType terrain => [⟨2, .i16 terrain⟩]
  | .transition kind time color =>
    [⟨2, .u8 kind⟩, ⟨3, .u8 time⟩, ⟨4, .u8 color.red⟩, ⟨5, .u8 color.green⟩, ⟨6, .u8 color.blue⟩]
  | .setMusic music => [⟨2, .i16 music.settings⟩, ⟨4, .i16 music.sequence⟩]
  | .createWhirlpool index whirlpool =>
    ⟨2, .u8 index⟩ :: ⟨3, .u8 whirlpool.condition⟩ :: vectorFields 4 whirlpool.position ++
      [⟨10, .i16 whirlpool.strength⟩]
  | .getOrSet mode var => [⟨2, .u8 mode⟩, ⟨3, .u8 var⟩]
  | .loadModelFromGeoExt model geometryToken => [⟨2, .u16 model⟩, ⟨4, .u32 geometryToken⟩]
  | .callExt argument functionToken | .callLoopExt argument functionToken =>
    [⟨2, .i16 argument⟩, ⟨4, .u32 functionToken⟩]
  | .exit | .ret | .loopRepeat | .loopBegin | .skip | .skipNop | .pushPool | .popPool
  | .initLevel | .clearLevel | .allocLevelPool | .freeLevelPool | .endArea | .unloadArea
  | .nop => []

end Statement

end StageScript.Assembly
