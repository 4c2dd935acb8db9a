import StageScript.Machine.Loading

/-!
Commands that build a level: its pool, its areas and their tables, models and objects. A
command that cannot do its work reports one reason and changes nothing.
-/

namespace StageScript.Machine

variable {E : Embedding}

/-- Changes the area that is being filled. -/
def editArea (opcode : Opcode) (change : Area → Area) (machine : Machine E) :
    Except Diagnostic (Machine E) :=
  match machine.level.currentArea? with
  | none => .error (.noActiveArea opcode)
  | some area =>
    .ok { machine with level := machine.level.setCurrent (change area) }

/-- Adds an entry to the area that is being filled, at the expense of the level pool. -/
def addEntry (opcode : Opcode) (cost : Nat) (link : Area → Area) (machine : Machine E) :
    Except Diagnostic (Machine E) :=
  match machine.level.currentArea? with
  | none => .error (.noActiveArea opcode)
  | some area =>
    match machine.level.pool.allocate cost with
    | .error exhausted =>
      .error (.poolExhausted opcode exhausted.requested exhausted.available)
    | .ok pool =>
      .ok { machine with level := { machine.level.setCurrent (link area) with pool } }

/-- Goes on only when a slot number is below the number of slots. -/
def inSlot (opcode : Opcode) (index : UInt8) (slots : Nat)
    (change : index.toNat < slots → Except Diagnostic (Machine E)) :
    Except Diagnostic (Machine E) :=
  if inside : index.toNat < slots then change inside else .error (.slotOutOfRange opcode index)

def addSpawn (opcode : Opcode) (spawn : Spawn) (machine : Machine E) :
    Except Diagnostic (Machine E) :=
  machine.addEntry opcode Spawn.cost fun area => { area with spawns := area.spawns.push spawn }

/-- Adds a spawn when its mask selects the current act. -/
def placeSpawn (opcode : Opcode) (spawn : Spawn) (machine : Machine E) :
    Except Diagnostic (Machine E) :=
  if machine.level.vars.actMatches spawn.acts then machine.addSpawn opcode spawn
  else .ok machine

def initLevel (machine : Machine E) : Outcome E :=
  { machine with
    scene := machine.scene.initLevel
    level := machine.level.clearAreas
    memory := machine.memory.pushState }.next

def clearLevel (machine : Machine E) : Outcome E :=
  let cleared := { machine with
    scene := machine.scene.clearObjects
    level := machine.level.clearAreas }
  (cleared.popCheckpoint .clearLevel).next

/-- Gives the level a new pool, no larger than what the memory has left. -/
def allocLevelPool (machine : Machine E) : Outcome E :=
  let capacity := min machine.config.levelPoolBytes machine.memory.available
  { machine with level := { machine.level with pool := .ofCapacity capacity } }.next

def freeLevelPool (machine : Machine E) : Outcome E :=
  { machine with level := { machine.level with pool := machine.level.pool.freeze } }.next

def beginArea (index : UInt8) (geometry : Address) (machine : Machine E) : Outcome E :=
  if areaCount ≤ index.toNat then (machine.report (.invalidAreaIndex .beginArea index)).next
  else
    match machine.scene.buildArea index geometry with
    | .error error => (machine.report (.areaBeginFailed index error.message)).next
    | .ok (root, scene) =>
      let built := { machine with
        scene
        level := machine.level.beginArea (.fresh index geometry root) }
      if root.camera.isNone then (built.report (.missingCamera index)).next else built.next

def endArea (machine : Machine E) : Outcome E :=
  machine.attempt <|
    match machine.level.current with
    | none => .error (.noActiveArea .endArea)
    | some _ => .ok { machine with level := { machine.level with current := none } }

def loadModel (opcode : Opcode) (model : UInt16) (source : ModelSource) (machine : Machine E) :
    Except Diagnostic (Machine E) :=
  match machine.scene.loadModel model source with
  | .error error => .error (.contentLoadFailed opcode error.message)
  | .ok scene => .ok { machine with scene }

def initPlayer (player : Player) (machine : Machine E) : Outcome E :=
  { machine with
    scene := machine.scene.initPlayer player.model
    level := { machine.level with player := some player } }.next

def createWarpNode (node : WarpNode) (machine : Machine E) : Outcome E :=
  machine.attempt <|
    machine.addEntry .createWarpNode WarpNode.cost fun area =>
      { area with warpNodes := area.warpNodes.push node }

def createPaintingWarpNode (node : WarpNode) (machine : Machine E) : Outcome E :=
  machine.attempt <|
    inSlot .createPaintingWarpNode node.id paintingSlots fun inside =>
      machine.addEntry .createPaintingWarpNode WarpNode.cost fun area =>
        { area with paintingWarps := area.paintingWarps.set node.id.toNat (some node) }

def createInstantWarp (index : UInt8) (warp : InstantWarp) (machine : Machine E) : Outcome E :=
  machine.attempt <|
    inSlot .createInstantWarp index instantWarpSlots fun inside =>
      machine.addEntry .createInstantWarp InstantWarp.cost fun area =>
        { area with instantWarps := area.instantWarps.set index.toNat (some warp) }

def createWhirlpool (index : UInt8) (whirlpool : Whirlpool) (machine : Machine E) : Outcome E :=
  machine.attempt <|
    inSlot .createWhirlpool index whirlpoolSlots fun inside =>
      machine.addEntry .createWhirlpool Whirlpool.cost fun area =>
        { area with whirlpools := area.whirlpools.set index.toNat (some whirlpool) }

def showDialog (index dialog : UInt8) (machine : Machine E) : Outcome E :=
  machine.attempt <|
    inSlot .showDialog index dialogSlots fun inside =>
      machine.editArea .showDialog fun area =>
        { area with dialog := area.dialog.set index.toNat dialog }

/-- Makes the objects of an area and tells the scripts which area is loaded. -/
def loadArea (index : UInt8) (machine : Machine E) : Outcome E :=
  machine.attempt <|
    match machine.level.area? index with
    | none => .error (.invalidAreaIndex .loadArea index)
    | some area =>
      .ok { machine with
        scene := machine.scene.loadArea index area.spawns
        level := { machine.level with
          loaded := some index
          vars := machine.level.vars.set .areaIndex index.toUInt32.toInt32 } }

def unloadArea (machine : Machine E) : Outcome E :=
  match machine.level.loaded with
  | none => machine.next
  | some index =>
    { machine with
      scene := machine.scene.unloadArea index
      level := { machine.level with loaded := none } }.next

/-- Mode zero stores the register in a variable, mode one loads it from there. -/
def getOrSet (mode var : UInt8) (machine : Machine E) : Outcome E :=
  machine.attempt <|
    match Variable.ofIndex? var with
    | none => .error (.unknownVariable mode var)
    | some chosen =>
      if mode = 0 then
        .ok { machine with
          level := { machine.level with
            vars := machine.level.vars.set chosen machine.context.register } }
      else if mode = 1 then .ok (machine.setRegister (machine.level.vars.get chosen))
      else .error (.unknownVariable mode var)

def present (request : Request) (machine : Machine E) : Outcome E :=
  { machine with presentation := machine.presentation.push request }.next

end StageScript.Machine
