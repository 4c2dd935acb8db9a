import StageScript.Address
import StageScript.Arena

/-!
Areas and the entries of their tables: warps, spawns and whirlpools. A table is either a list
in the order of arrival or a row of numbered slots.
-/

namespace StageScript

structure Vec3 where
  x : Int16
  y : Int16
  z : Int16
  deriving DecidableEq, Repr, Inhabited

structure WarpNode where
  id : UInt8
  destLevel : UInt8
  destArea : UInt8
  destNode : UInt8
  flags : UInt8
  deriving DecidableEq, Repr, Inhabited

structure InstantWarp where
  destArea : UInt8
  displacement : Vec3
  deriving DecidableEq, Repr, Inhabited

/-- The behavior of an object, given by a script directly or by a package through a token. -/
inductive Behavior where
  | address (address : Address)
  | named (name : String) (address : Address)
  deriving DecidableEq, Repr, Inhabited

structure Spawn where
  model : UInt16
  position : Vec3
  angle : Vec3
  behaviorArg : UInt32
  behavior : Behavior
  acts : UInt8
  deriving DecidableEq, Repr, Inhabited

structure Whirlpool where
  condition : UInt8
  position : Vec3
  strength : Int16
  deriving DecidableEq, Repr, Inhabited

structure Music where
  settings : Int16
  sequence : Int16
  deriving DecidableEq, Repr, Inhabited

/-- The scene node of an area and that of its camera, when the geometry has one. -/
structure SceneRoot where
  node : Handle
  camera : Option Handle
  deriving DecidableEq, Repr, Inhabited

/-- How many bytes of the level pool an entry of each kind is charged. -/
def WarpNode.cost : Nat := 5
def InstantWarp.cost : Nat := 8
def Whirlpool.cost : Nat := 10
def Spawn.cost : Nat := 56

def paintingSlots : Nat := 45
def instantWarpSlots : Nat := 4
def whirlpoolSlots : Nat := 2
def dialogSlots : Nat := 2

structure Area where
  index : UInt8
  geometry : Address
  root : SceneRoot
  warpNodes : Array WarpNode
  paintingWarps : Vector (Option WarpNode) paintingSlots
  instantWarps : Vector (Option InstantWarp) instantWarpSlots
  spawns : Array Spawn
  terrain : Option Address
  rooms : Option Address
  macroObjects : Option Address
  terrainType : Int16
  dialog : Vector UInt8 dialogSlots
  music : Option Music
  whirlpools : Vector (Option Whirlpool) whirlpoolSlots

namespace Area

def fresh (index : UInt8) (geometry : Address) (root : SceneRoot) : Area where
  index := index
  geometry := geometry
  root := root
  warpNodes := #[]
  paintingWarps := Vector.replicate _ none
  instantWarps := Vector.replicate _ none
  spawns := #[]
  terrain := none
  rooms := none
  macroObjects := none
  terrainType := 0
  dialog := Vector.replicate _ 0
  music := none
  whirlpools := Vector.replicate _ none

/-- The first warp node with the given number. -/
def warpNode? (area : Area) (id : UInt8) : Option WarpNode :=
  area.warpNodes.find? (·.id == id)

end Area

end StageScript
