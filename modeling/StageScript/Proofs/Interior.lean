import StageScript.Machine.Run

/-!
Commands that stay inside a script's own business. Most commands read and change the level, the
scene, the tokens and the counters of the script alone; they do the same whatever memory, stack,
overrides and command layout there are around them. Most commands lead nowhere else either: control
goes on behind them or stays.
-/

namespace StageScript

/-- What commands have around them: the layout they are decoded in, where code and content lie,
where control came from, and what leads it elsewhere. -/
structure Surroundings where
  layout : Layout
  memory : Memory
  stack : Stack
  overrides : Registry
  cursor : Option Pointer

/-- A command that has to do with nothing around it. -/
def Instruction.isInterior : Instruction → Bool
  | .execute .. | .exitAndExecute .. | .exit | .jump _ | .jumpLink _ | .ret | .loopBeginCount _
  | .loopRepeat | .loopBegin | .loopUntil _ | .jumpIf .. | .jumpLinkIf .. | .skipIf _ | .skip
  | .call .. | .callLoop .. | .pushPool | .popPool | .loadFixed .. | .loadRaw _
  | .loadCompressed _ | .initLevel | .clearLevel | .allocLevelPool => false
  | _ => true

namespace Machine

variable {E : Embedding}

def surroundings (machine : Machine E) : Surroundings where
  layout := machine.config.layout
  memory := machine.memory
  stack := machine.stack
  overrides := machine.overrides
  cursor := machine.context.cursor

def within (around : Surroundings) (machine : Machine E) : Machine E :=
  { machine with
    config := { machine.config with layout := around.layout }
    memory := around.memory
    stack := around.stack
    overrides := around.overrides
    context := { machine.context with cursor := around.cursor } }

theorem within_surroundings (machine : Machine E) : machine.within machine.surroundings = machine :=
  rfl

end Machine

def Outcome.within {E : Embedding} (around : Surroundings) (outcome : Outcome E) : Outcome E :=
  ⟨outcome.machine.within around, outcome.flow⟩

namespace Machine

variable {E : Embedding} {machine : Machine E} {around : Surroundings}

theorem attempt_within {changed change : Except Diagnostic (Machine E)}
    (same : changed = change.map (within around)) :
    (machine.within around).attempt changed = (machine.attempt change).within around := by
  rw [same]
  cases change <;> rfl

theorem sleep_within (frames : Int16) :
    (machine.within around).sleep frames = (machine.sleep frames).within around := by
  simp only [sleep, apply_ite (Outcome.within around)]
  rfl

theorem sleepBeforeExit_within (frames : Int16) :
    (machine.within around).sleepBeforeExit frames =
      (machine.sleepBeforeExit frames).within around := by
  simp only [sleepBeforeExit, apply_ite (Outcome.within around)]
  rfl

theorem holdWhileZero_within (value : Int32) (machine : Machine E) :
    (machine.within around).holdWhileZero value = (machine.holdWhileZero value).within around := by
  simp only [holdWhileZero, apply_ite (Outcome.within around)]
  rfl

theorem beginArea_within (index : UInt8) (geometry : Address) :
    (machine.within around).beginArea index geometry =
      (machine.beginArea index geometry).within around := by
  simp only [beginArea, apply_ite (Outcome.within around), within]
  cases machine.scene.buildArea index geometry with
  | error error => rfl
  | ok built =>
    simp only [apply_ite (Outcome.within around)]
    rfl

theorem editArea_within (opcode : Opcode) (change : Area → Area) :
    (machine.within around).editArea opcode change =
      (machine.editArea opcode change).map (within around) := by
  simp only [editArea, within]
  cases machine.level.currentArea? <;> rfl

theorem addEntry_within (opcode : Opcode) (cost : Nat) (link : Area → Area) :
    (machine.within around).addEntry opcode cost link =
      (machine.addEntry opcode cost link).map (within around) := by
  simp only [addEntry, within]
  cases machine.level.currentArea? with
  | none => rfl
  | some area =>
    simp only
    cases machine.level.pool.allocate cost <;> rfl

theorem inSlot_within {opcode : Opcode} {index : UInt8} {slots : Nat}
    {changed change : index.toNat < slots → Except Diagnostic (Machine E)}
    (same : ∀ inside, changed inside = (change inside).map (within around)) :
    inSlot opcode index slots changed =
      (inSlot opcode index slots change).map (within around) := by
  unfold inSlot
  split
  next inside => exact same inside
  next => rfl

theorem placeSpawn_within (opcode : Opcode) (spawn : Spawn) :
    (machine.within around).placeSpawn opcode spawn =
      (machine.placeSpawn opcode spawn).map (within around) := by
  simp only [placeSpawn, addSpawn, addEntry_within, apply_ite (Except.map _)]
  rfl

theorem loadModel_within (opcode : Opcode) (model : UInt16) (source : ModelSource) :
    (machine.within around).loadModel opcode model source =
      (machine.loadModel opcode model source).map (within around) := by
  simp only [loadModel, within]
  cases machine.scene.loadModel model source <;> rfl

theorem bind_within {α : Type} {read : Except Diagnostic α}
    {changed change : α → Except Diagnostic (Machine E)}
    (same : ∀ value, changed value = (change value).map (within around)) :
    (read >>= changed) = (read >>= change).map (within around) := by
  cases read with
  | error => rfl
  | ok value => exact same value

theorem endArea_within : (machine.within around).endArea = machine.endArea.within around := by
  refine attempt_within ?_
  simp only [within]
  cases machine.level.current <;> rfl

theorem loadArea_within (index : UInt8) :
    (machine.within around).loadArea index = (machine.loadArea index).within around := by
  refine attempt_within ?_
  simp only [within]
  cases machine.level.area? index <;> rfl

theorem unloadArea_within :
    (machine.within around).unloadArea = machine.unloadArea.within around := by
  simp only [unloadArea, within]
  cases machine.level.loaded <;> rfl

theorem getOrSet_within (mode var : UInt8) :
    (machine.within around).getOrSet mode var = (machine.getOrSet mode var).within around := by
  refine attempt_within ?_
  cases Variable.ofIndex? var with
  | none => rfl
  | some chosen =>
    simp only [apply_ite (Except.map _)]
    rfl

theorem placeObjectExt2_within (position angle : Vec3) (behaviorArg modelToken : UInt32)
    (behaviorToken : Except ReadFault UInt32) (acts : UInt8) :
    (machine.within around).placeObjectExt2 position angle behaviorArg modelToken behaviorToken
        acts =
      (machine.placeObjectExt2 position angle behaviorArg modelToken behaviorToken acts).within
        around := by
  have read : (machine.within around).tokenModel .placeObjectExt2 modelToken =
      machine.tokenModel .placeObjectExt2 modelToken := rfl
  simp only [placeObjectExt2, read]
  cases machine.tokenModel .placeObjectExt2 modelToken with
  | error diagnostic => rfl
  | ok model =>
    cases behaviorToken with
    | error fault => rfl
    | ok token => exact attempt_within (bind_within fun _ => placeSpawn_within _ _)

theorem callToken_within (opcode : Opcode) (argument : Int16) (token : UInt32) :
    (machine.within around).callToken opcode argument token =
      (machine.callToken opcode argument token).map fun reply =>
        (reply.1, reply.2.within around) := by
  have read : (machine.within around).tokenName opcode token = machine.tokenName opcode token :=
    rfl
  simp only [callToken, read]
  cases machine.tokenName opcode token with
  | error diagnostic => rfl
  | ok name =>
    simp only [bind, Except.bind, within]
    cases machine.tokens.call? E.callToken machine.activeOwner name argument
      machine.context.register <;> rfl

theorem callExt_within (argument : Int16) (token : UInt32) :
    (machine.within around).callExt argument token =
      (machine.callExt argument token).within around := by
  refine attempt_within ?_
  rw [callToken_within]
  cases machine.callToken .callExt argument token <;> rfl

theorem callLoopExt_within (argument : Int16) (token : UInt32) :
    (machine.within around).callLoopExt argument token =
      (machine.callLoopExt argument token).within around := by
  simp only [callLoopExt, callToken_within]
  cases machine.callToken .callLoopExt argument token with
  | error diagnostic => rfl
  | ok reply => exact holdWhileZero_within reply.1 reply.2

/-- An interior command does the same in all surroundings, and wherever the next command is. -/
theorem exec_within (around : Surroundings) {instruction : Instruction}
    (interior : instruction.isInterior) (following other : Pointer) (machine : Machine E) :
    (machine.within around).exec instruction other =
      (machine.exec instruction following).within around := by
  cases instruction with
  | sleep frames => exact sleep_within frames
  | sleepBeforeExit frames => exact sleepBeforeExit_within frames
  | beginArea index geometry => exact beginArea_within index geometry
  | endArea => exact endArea_within
  | loadModelFromDl | loadModelFromGeo | loadModelScaled =>
    exact attempt_within (loadModel_within _ _ _)
  | placeObject spawn => exact attempt_within (placeSpawn_within _ _)
  | createWarpNode node => exact attempt_within (addEntry_within _ _ _)
  | createPaintingWarpNode | createInstantWarp | createWhirlpool =>
    exact attempt_within (inSlot_within fun _ => addEntry_within _ _ _)
  | loadArea index => exact loadArea_within index
  | unloadArea => exact unloadArea_within
  | setTerrainData | setRooms | setTerrainType | setMusic | setMacroObjects =>
    exact attempt_within (editArea_within _ _)
  | showDialog => exact attempt_within (inSlot_within fun _ => editArea_within _ _)
  | getOrSet mode var => exact getOrSet_within mode var
  | placeObjectExt => exact attempt_within (bind_within fun _ => placeSpawn_within _ _)
  | placeObjectExt2 => exact placeObjectExt2_within _ _ _ _ _ _
  | loadModelFromGeoExt => exact attempt_within (bind_within fun _ => loadModel_within _ _ _)
  | callExt argument token => exact callExt_within argument token
  | callLoopExt argument token => exact callLoopExt_within argument token
  | nop | setRegister | freeLevelPool | initPlayer | setPlayerStartPos | unloadPlayerArea
  | updateObjects | present => rfl
  | _ => cases interior

theorem surroundings_exec {instruction : Instruction} (interior : instruction.isInterior)
    (following : Pointer) (machine : Machine E) :
    (machine.exec instruction following).machine.surroundings = machine.surroundings := by
  have same := exec_within machine.surroundings interior following following machine
  rw [within_surroundings] at same
  rw [same]
  rfl

theorem exec_within_change (change : Surroundings → Surroundings) {instruction : Instruction}
    (interior : instruction.isInterior) (following other : Pointer) (machine : Machine E) :
    (machine.within (change machine.surroundings)).exec instruction other =
      (machine.exec instruction following).within
        (change (machine.exec instruction following).machine.surroundings) := by
  rw [exec_within _ interior following other, surroundings_exec interior]

end Machine

/-- Control goes on with the next command, or stays. -/
def Outcome.Onward {E : Embedding} (outcome : Outcome E) : Prop :=
  outcome.flow = .ok .next ∨ outcome.flow = .ok .hold

theorem Outcome.Onward.not_goto {E : Embedding} {outcome : Outcome E} {target : Pointer}
    (onward : outcome.Onward) : outcome.flow ≠ .ok (.goto target) := by
  intro went
  rcases onward with next | hold
  · cases next.symm.trans went
  · cases hold.symm.trans went

def Instruction.isOnward : Instruction → Bool
  | .execute .. | .exitAndExecute .. | .exit | .jump _ | .jumpLink _ | .ret | .loopBeginCount _
  | .loopRepeat | .loopBegin | .loopUntil _ | .jumpIf .. | .jumpLinkIf .. | .skipIf _ | .skip
  | .placeObjectExt2 _ _ _ _ (.error _) _ => false
  | _ => true

namespace Machine

variable {E : Embedding} {machine : Machine E}

theorem onward_attempt (change : Except Diagnostic (Machine E)) :
    (machine.attempt change).Onward := by
  cases change <;> exact .inl rfl

theorem onward_holdWhileZero (value : Int32) : (machine.holdWhileZero value).Onward := by
  unfold holdWhileZero
  split
  next => exact .inr rfl
  next => exact .inl rfl

theorem onward_sleep (frames : Int16) : (machine.sleep frames).Onward := by
  unfold sleep
  simp only
  split
  next => exact .inr rfl
  next => exact .inl rfl

theorem onward_sleepBeforeExit (frames : Int16) : (machine.sleepBeforeExit frames).Onward := by
  unfold sleepBeforeExit
  simp only
  split
  next => exact .inr rfl
  next => exact .inl rfl

theorem onward_callLoop (argument : Int16) (function : UInt32) :
    (machine.callLoop argument function).Onward := by
  unfold callLoop
  split
  next => exact .inl rfl
  next => exact onward_holdWhileZero _

theorem onward_callLoopExt (argument : Int16) (token : UInt32) :
    (machine.callLoopExt argument token).Onward := by
  unfold callLoopExt
  split
  next => exact .inl rfl
  next => exact onward_holdWhileZero _

theorem onward_call (argument : Int16) (function : UInt32) :
    (machine.call argument function).Onward := by
  unfold call
  split <;> exact .inl rfl

theorem onward_beginArea (index : UInt8) (geometry : Address) :
    (machine.beginArea index geometry).Onward := by
  unfold beginArea
  split
  next => exact .inl rfl
  next =>
    split
    next => exact .inl rfl
    next => simp only; split <;> exact .inl rfl

theorem onward_unloadArea : machine.unloadArea.Onward := by
  unfold unloadArea
  split <;> exact .inl rfl

theorem onward_placeObjectExt2 (position angle : Vec3) (behaviorArg modelToken token : UInt32)
    (acts : UInt8) :
    (machine.placeObjectExt2 position angle behaviorArg modelToken (.ok token) acts).Onward := by
  unfold placeObjectExt2
  split
  next => exact .inl rfl
  next => exact onward_attempt _

theorem onward_exec {instruction : Instruction} (onward : instruction.isOnward)
    (following : Pointer) (machine : Machine E) : (machine.exec instruction following).Onward := by
  cases instruction with
  | sleep frames => exact onward_sleep frames
  | sleepBeforeExit frames => exact onward_sleepBeforeExit frames
  | call argument function => exact onward_call argument function
  | callLoop argument function => exact onward_callLoop argument function
  | beginArea index geometry => exact onward_beginArea index geometry
  | unloadArea => exact onward_unloadArea
  | placeObjectExt2 position angle behaviorArg modelToken behaviorToken acts =>
    cases behaviorToken with
    | error fault => cases onward
    | ok token => exact onward_placeObjectExt2 position angle behaviorArg modelToken token acts
  | callLoopExt argument token => exact onward_callLoopExt argument token
  | loadFixed | loadRaw | loadCompressed | endArea | loadModelFromDl | loadModelFromGeo
  | loadModelScaled | placeObject | createWarpNode | createPaintingWarpNode | createInstantWarp
  | loadArea | setTerrainData | setRooms | showDialog | setTerrainType | setMusic
  | setMacroObjects | createWhirlpool | getOrSet | placeObjectExt | loadModelFromGeoExt
  | callExt => exact onward_attempt _
  | nop | setRegister | pushPool | popPool | initLevel | clearLevel | allocLevelPool
  | freeLevelPool | initPlayer | setPlayerStartPos | unloadPlayerArea | updateObjects
  | present => exact .inl rfl
  | _ => cases onward

end Machine

end StageScript
