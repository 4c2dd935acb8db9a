import StageScript.Machine.Extension

/-!
The meaning of every instruction. `following` is the pointer to the command after the one that
is run.
-/

namespace StageScript.Machine

variable {E : Embedding}

def exec (instruction : Instruction) (following : Pointer) (machine : Machine E) : Outcome E :=
  match instruction with
  | .execute load entry => machine.execute load entry following
  | .exitAndExecute load entry => machine.exitAndExecute load entry
  | .exit => machine.exit
  | .sleep frames => machine.sleep frames
  | .sleepBeforeExit frames => machine.sleepBeforeExit frames
  | .jump target => machine.jump target
  | .jumpLink target => machine.jumpLink target following
  | .ret => machine.ret
  | .loopBeginCount count => machine.push (.loop following count.toInt32) .next
  | .loopRepeat => machine.loopRepeat
  | .loopBegin => machine.push (.loop following 0) .next
  | .loopUntil condition => machine.loopUntil condition
  | .jumpIf condition target => machine.whenHolds condition target jump
  | .jumpLinkIf condition target =>
    machine.whenHolds condition target fun address => jumpLink address following
  | .skipIf condition => machine.skipIf condition following
  | .skip => machine.skipPast isSkipNop following
  | .nop => machine.next
  | .call argument function => machine.call argument function
  | .callLoop argument function => machine.callLoop argument function
  | .setRegister value => (machine.setRegister value.toInt32).next
  | .pushPool => machine.pushCheckpoint.next
  | .popPool => (machine.popCheckpoint .popPool).next
  | .loadFixed dest start stop => machine.loadFixed dest start stop
  | .loadRaw load => machine.loadContent .loadRaw load .raw
  | .loadCompressed load => machine.loadContent .loadCompressed load .mio0
  | .initLevel => machine.initLevel
  | .clearLevel => machine.clearLevel
  | .allocLevelPool => machine.allocLevelPool
  | .freeLevelPool => machine.freeLevelPool
  | .beginArea index geometry => machine.beginArea index geometry
  | .endArea => machine.endArea
  | .loadModelFromDl model displayList layer =>
    machine.attempt (machine.loadModel .loadModelFromDl model (.displayList displayList layer))
  | .loadModelFromGeo model geometry =>
    machine.attempt (machine.loadModel .loadModelFromGeo model (.geometry geometry))
  | .loadModelScaled model displayList scaleBits =>
    machine.attempt (machine.loadModel .loadModelScaled model (.scaled displayList scaleBits))
  | .placeObject spawn => machine.attempt (machine.placeSpawn .placeObject spawn)
  | .initPlayer player => machine.initPlayer player
  | .createWarpNode node => machine.createWarpNode node
  | .createPaintingWarpNode node => machine.createPaintingWarpNode node
  | .createInstantWarp index warp => machine.createInstantWarp index warp
  | .loadArea index => machine.loadArea index
  | .unloadArea => machine.unloadArea
  | .setPlayerStartPos spawn =>
    { machine with level := { machine.level with playerSpawn := some spawn } }.next
  | .unloadPlayerArea => { machine with scene := machine.scene.unloadPlayerArea }.next
  | .updateObjects => { machine with scene := machine.scene.updateObjects }.next
  | .setTerrainData data =>
    machine.attempt (machine.editArea .setTerrainData ({ · with terrain := some data }))
  | .setRooms data => machine.attempt (machine.editArea .setRooms ({ · with rooms := some data }))
  | .showDialog index dialog => machine.showDialog index dialog
  | .setTerrainType terrain =>
    machine.attempt (machine.editArea .setTerrainType ({ · with terrainType := terrain }))
  | .present request => machine.present request
  | .setMusic music =>
    machine.attempt (machine.editArea .setMusic ({ · with music := some music }))
  | .setMacroObjects data =>
    machine.attempt (machine.editArea .setMacroObjects ({ · with macroObjects := some data }))
  | .createWhirlpool index whirlpool => machine.createWhirlpool index whirlpool
  | .getOrSet mode var => machine.getOrSet mode var
  | .placeObjectExt model position angle behaviorArg behaviorToken acts =>
    machine.placeObjectExt model position angle behaviorArg behaviorToken acts
  | .placeObjectExt2 position angle behaviorArg modelToken behaviorToken acts =>
    machine.placeObjectExt2 position angle behaviorArg modelToken behaviorToken acts
  | .loadModelFromGeoExt model geometryToken => machine.loadModelFromGeoExt model geometryToken
  | .callExt argument functionToken => machine.callExt argument functionToken
  | .callLoopExt argument functionToken => machine.callLoopExt argument functionToken

end StageScript.Machine
