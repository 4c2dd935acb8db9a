import Std.Data.TreeMap
import StageScript.Level.Area

/-!
The scene: a node for each area root, camera, object and player, and the models that objects
are drawn with. Nodes live in an arena that is released as a whole.
-/

namespace StageScript

inductive NodeKind where
  | areaRoot (area : UInt8)
  | camera
  | object (model : UInt16)
  | player (model : UInt8)
  deriving DecidableEq, Repr

def NodeKind.text : NodeKind → String
  | .areaRoot area => s!"AreaRoot \x7b area: {area.toNat} \x7d"
  | .camera => "Camera"
  | .object model => s!"Object \x7b model: {model.toNat} \x7d"
  | .player model => s!"Player \x7b model: {model.toNat} \x7d"

structure Node where
  kind : NodeKind
  parent : Option Handle
  deriving DecidableEq, Repr

inductive ModelSource where
  | geometry (address : Address)
  | displayList (address : Address) (layer : UInt16)
  /-- The scale is kept as the bits of a single-precision number. -/
  | scaled (address : Address) (scaleBits : UInt32)
  deriving DecidableEq, Repr

inductive SceneError where
  | unknownGeometry (address : Address)
  | modelOutOfRange (model : UInt16)
  deriving DecidableEq, Repr

def SceneError.title : SceneError → String
  | .unknownGeometry _ => "UnknownGeometry"
  | .modelOutOfRange _ => "ModelOutOfRange"

def SceneError.message : SceneError → String
  | .unknownGeometry address => s!"no geometry layout at {address.text}"
  | .modelOutOfRange model => s!"model slot {model.toNat} is out of range"

def modelSlots : Nat := 256

structure SceneObject where
  node : Handle
  area : UInt8
  spawn : Spawn
  deriving DecidableEq, Repr

structure Scene where
  nodes : Arena Node
  /-- For each known geometry, whether it has a camera. -/
  geometries : Std.TreeMap UInt32 Bool
  models : Std.TreeMap UInt16 ModelSource
  objects : Array SceneObject
  player : Option Handle
  loaded : Option UInt8
  updates : Nat

namespace Scene

def empty : Scene where
  nodes := .empty
  geometries := ∅
  models := ∅
  objects := #[]
  player := none
  loaded := none
  updates := 0

instance : Inhabited Scene := ⟨empty⟩

def defineGeometry (scene : Scene) (address : Address) (hasCamera : Bool) : Scene :=
  { scene with geometries := scene.geometries.insert address.raw hasCamera }

def initLevel (scene : Scene) : Scene := { scene with loaded := none, updates := 0 }

/-- Drops every object and node; the loaded area and the models stay. -/
def clearObjects (scene : Scene) : Scene :=
  { scene with objects := #[], player := none, nodes := scene.nodes.clear }

def addNode (scene : Scene) (node : Node) : Handle × Scene :=
  let (handle, nodes) := scene.nodes.allocate node
  (handle, { scene with nodes })

def buildArea (scene : Scene) (area : UInt8) (geometry : Address) :
    Except SceneError (SceneRoot × Scene) :=
  match scene.geometries[geometry.raw]? with
  | none => .error (.unknownGeometry geometry)
  | some hasCamera =>
    let (node, scene) := scene.addNode ⟨.areaRoot area, none⟩
    if hasCamera then
      let (camera, scene) := scene.addNode ⟨.camera, some node⟩
      .ok (⟨node, some camera⟩, scene)
    else .ok (⟨node, none⟩, scene)

def loadModel (scene : Scene) (model : UInt16) (source : ModelSource) : Except SceneError Scene :=
  if modelSlots ≤ model.toNat then .error (.modelOutOfRange model)
  else .ok { scene with models := scene.models.insert model source }

def initPlayer (scene : Scene) (model : UInt8) : Scene :=
  let (player, scene) := scene.addNode ⟨.player model, none⟩
  { scene with player := some player }

def addObject (area : UInt8) (scene : Scene) (spawn : Spawn) : Scene :=
  let (node, scene) := scene.addNode ⟨.object spawn.model, none⟩
  { scene with objects := scene.objects.push ⟨node, area, spawn⟩ }

/-- Makes one object for each spawn, in order. -/
def loadArea (scene : Scene) (area : UInt8) (spawns : Array Spawn) : Scene :=
  spawns.foldl (addObject area) { scene with loaded := some area }

def unloadArea (scene : Scene) (area : UInt8) : Scene :=
  { scene with
    objects := scene.objects.filter (·.area != area)
    loaded := if scene.loaded = some area then none else scene.loaded }

def unloadPlayerArea (scene : Scene) : Scene := { scene with player := none }

def updateObjects (scene : Scene) : Scene := { scene with updates := scene.updates + 1 }

end Scene

end StageScript
