import StageScript.Level.Area
import StageScript.Level.Pool
import StageScript.Level.Variable

/-!
The level that scripts build: eight area slots, at most one of which is being filled and at
most one of which is loaded, the player, the script variables, and the pool that entries are
charged to.
-/

namespace StageScript

def areaCount : Nat := 8

structure PlayerSpawn where
  area : UInt8
  yaw : Int16
  position : Vec3
  deriving DecidableEq, Repr, Inhabited

structure Player where
  model : UInt8
  behaviorArg : UInt32
  behavior : Address
  deriving DecidableEq, Repr, Inhabited

structure Level where
  areas : Vector (Option Area) areaCount
  /-- The area that is being filled. -/
  current : Option UInt8
  loaded : Option UInt8
  pool : Pool
  playerSpawn : Option PlayerSpawn
  player : Option Player
  vars : Variables

namespace Level

def ofPool (bytes : Nat) : Level where
  areas := Vector.replicate _ none
  current := none
  loaded := none
  pool := .ofCapacity bytes
  playerSpawn := none
  player := none
  vars := .initial

instance : Inhabited Level := ⟨ofPool 0⟩

def area? (level : Level) (index : UInt8) : Option Area := level.areas[index.toNat]?.join

/-- The occupied slots in ascending order. -/
def occupied (level : Level) : List Area := level.areas.toList.filterMap id

def currentArea? (level : Level) : Option Area := level.current.bind level.area?

def setArea (level : Level) (index : UInt8) (area : Area) : Level :=
  { level with areas := level.areas.setIfInBounds index.toNat (some area) }

/-- Puts an area into the slot of the one that is being filled. -/
def setCurrent (level : Level) (area : Area) : Level :=
  { level with
    areas := match level.current with
      | some index => level.areas.setIfInBounds index.toNat (some area)
      | none => level.areas }

/-- Puts an area into its slot and starts filling it. -/
def beginArea (level : Level) (area : Area) : Level :=
  if area.index.toNat < areaCount then
    { level.setArea area.index area with current := some area.index }
  else level

/-- Forgets every area and empties the pool, which keeps its size. -/
def clearAreas (level : Level) : Level :=
  { level with
    areas := Vector.replicate _ none
    current := none
    loaded := none
    pool := .ofCapacity level.pool.capacity }

end Level

end StageScript
