import StageScript.Proofs.Scopes
import StageScript.Proofs.Session

/-!
Footprints. Each instruction may change a few parts of a machine and leaves every other part as
it was, whatever comes of it. No instruction changes the configuration or the dispatch table.
-/

namespace StageScript

/-- The parts of a machine that running a script can change. -/
inductive Part where
  | context
  | stack
  | overrides
  | activeOwner
  | level
  | memory
  | tokens
  | scene
  | presentation
  | hosts
  | reporter
  deriving DecidableEq

def Instruction.footprint : Instruction → List Part
  | .execute .. | .exitAndExecute .. => [.reporter, .memory, .stack]
  | .exit => [.reporter, .memory, .stack, .context]
  | .sleep _ | .sleepBeforeExit _ | .setRegister _ => [.context]
  | .jump _ | .jumpIf .. | .skipIf _ | .skip | .nop => []
  | .jumpLink _ | .ret | .loopBeginCount _ | .loopRepeat | .loopBegin | .loopUntil _
  | .jumpLinkIf .. => [.stack]
  | .call .. | .callLoop .. => [.reporter, .hosts, .overrides, .level, .context]
  | .pushPool => [.memory]
  | .popPool | .loadFixed .. | .loadRaw _ | .loadCompressed _ => [.reporter, .memory]
  | .initLevel => [.memory, .level, .scene]
  | .clearLevel => [.reporter, .memory, .level, .scene]
  | .allocLevelPool | .freeLevelPool | .setPlayerStartPos _ => [.level]
  | .beginArea .. | .loadArea _ => [.reporter, .level, .scene]
  | .endArea | .placeObject _ | .createWarpNode _ | .createPaintingWarpNode _
  | .createInstantWarp .. | .setTerrainData _ | .setRooms _ | .showDialog .. | .setTerrainType _
  | .setMusic _ | .setMacroObjects _ | .createWhirlpool .. | .placeObjectExt ..
  | .placeObjectExt2 .. => [.reporter, .level]
  | .loadModelFromDl .. | .loadModelFromGeo .. | .loadModelScaled ..
  | .loadModelFromGeoExt .. => [.reporter, .scene]
  | .initPlayer _ | .unloadArea => [.level, .scene]
  | .unloadPlayerArea | .updateObjects => [.scene]
  | .present _ => [.presentation]
  | .getOrSet .. => [.reporter, .level, .context]
  | .callExt .. | .callLoopExt .. => [.reporter, .tokens, .context]

namespace Machine

variable {E : Embedding}

/-- Nothing but the given parts differs between two machines. -/
structure SameExcept (parts : List Part) (before after : Machine E) : Prop where
  config : after.config = before.config
  dispatch : after.dispatch = before.dispatch
  context : .context ∉ parts → after.context = before.context
  stack : .stack ∉ parts → after.stack = before.stack
  overrides : .overrides ∉ parts → after.overrides = before.overrides
  activeOwner : .activeOwner ∉ parts → after.activeOwner = before.activeOwner
  level : .level ∉ parts → after.level = before.level
  memory : .memory ∉ parts → after.memory = before.memory
  tokens : .tokens ∉ parts → after.tokens = before.tokens
  scene : .scene ∉ parts → after.scene = before.scene
  presentation : .presentation ∉ parts → after.presentation = before.presentation
  hosts : .hosts ∉ parts → after.hosts = before.hosts
  reporter : .reporter ∉ parts → after.reporter = before.reporter

namespace SameExcept

variable {parts more : List Part} {machine between after : Machine E}

theorem refl (parts : List Part) (machine : Machine E) : SameExcept parts machine machine := by
  constructor <;> simp

theorem trans (first : SameExcept parts machine between) (second : SameExcept parts between after) :
    SameExcept parts machine after where
  config := second.config.trans first.config
  dispatch := second.dispatch.trans first.dispatch
  context absent := (second.context absent).trans (first.context absent)
  stack absent := (second.stack absent).trans (first.stack absent)
  overrides absent := (second.overrides absent).trans (first.overrides absent)
  activeOwner absent := (second.activeOwner absent).trans (first.activeOwner absent)
  level absent := (second.level absent).trans (first.level absent)
  memory absent := (second.memory absent).trans (first.memory absent)
  tokens absent := (second.tokens absent).trans (first.tokens absent)
  scene absent := (second.scene absent).trans (first.scene absent)
  presentation absent := (second.presentation absent).trans (first.presentation absent)
  hosts absent := (second.hosts absent).trans (first.hosts absent)
  reporter absent := (second.reporter absent).trans (first.reporter absent)

theorem mono (same : SameExcept parts machine after) (included : parts ⊆ more) :
    SameExcept more machine after where
  config := same.config
  dispatch := same.dispatch
  context absent := same.context fun present => absent (included present)
  stack absent := same.stack fun present => absent (included present)
  overrides absent := same.overrides fun present => absent (included present)
  activeOwner absent := same.activeOwner fun present => absent (included present)
  level absent := same.level fun present => absent (included present)
  memory absent := same.memory fun present => absent (included present)
  tokens absent := same.tokens fun present => absent (included present)
  scene absent := same.scene fun present => absent (included present)
  presentation absent := same.presentation fun present => absent (included present)
  hosts absent := same.hosts fun present => absent (included present)
  reporter absent := same.reporter fun present => absent (included present)

end SameExcept

attribute [local simp] next goto hold fault report setStatus setRegister pushCheckpoint

def Ensures (property : Machine E → Prop) (change : Except Diagnostic (Machine E)) : Prop :=
  ∀ after, change = .ok after → property after

section Ensures

variable {property : Machine E → Prop}

theorem attempt_keeps {machine : Machine E} {change : Except Diagnostic (Machine E)}
    (reported : ∀ diagnostic, property (machine.report diagnostic))
    (ensures : Ensures property change) : property (machine.attempt change).machine := by
  unfold attempt
  cases change with
  | ok after => exact ensures after rfl
  | error diagnostic => exact reported diagnostic

theorem ensures_inSlot (opcode : Opcode) (index : UInt8) (slots : Nat)
    {change : index.toNat < slots → Except Diagnostic (Machine E)}
    (ensures : ∀ inside, Ensures property (change inside)) :
    Ensures property (inSlot opcode index slots change) := by
  intro after changed
  unfold inSlot at changed
  split at changed
  next inside => exact ensures inside after changed
  next => cases changed

theorem ensures_bind {α : Type} {read : Except Diagnostic α}
    {change : α → Except Diagnostic (Machine E)}
    (ensures : ∀ value, Ensures property (change value)) :
    Ensures property (read >>= change) := by
  intro after changed
  cases read with
  | error => cases changed
  | ok value => exact ensures value after changed

end Ensures

def Confined (parts : List Part) (machine : Machine E) (change : Except Diagnostic (Machine E)) :
    Prop :=
  ∀ after, change = .ok after → machine.SameExcept parts after

theorem attempt_sameExcept {parts : List Part} {machine : Machine E}
    {change : Except Diagnostic (Machine E)} (confined : machine.Confined parts change) :
    machine.SameExcept (.reporter :: parts) (machine.attempt change).machine := by
  refine attempt_keeps (fun diagnostic => ?_) fun after changed => ?_
  · constructor <;> simp
  · exact (confined after changed).mono (List.subset_cons_self _ _)

theorem popCheckpoint_sameExcept (opcode : Opcode) (machine : Machine E) :
    machine.SameExcept [.reporter, .memory] (machine.popCheckpoint opcode) := by
  unfold popCheckpoint
  split <;> constructor <;> simp

theorem confined_editArea (opcode : Opcode) (change : Area → Area) (machine : Machine E) :
    machine.Confined [.level] (machine.editArea opcode change) := by
  intro after changed
  unfold editArea at changed
  split at changed
  next => simp at changed
  next =>
    simp only [Except.ok.injEq] at changed
    subst changed
    constructor <;> simp

theorem confined_addEntry (opcode : Opcode) (cost : Nat) (link : Area → Area)
    (machine : Machine E) : machine.Confined [.level] (machine.addEntry opcode cost link) := by
  intro after added
  unfold addEntry at added
  split at added
  next => simp at added
  next =>
    split at added
    next => simp at added
    next =>
      simp only [Except.ok.injEq] at added
      subst added
      constructor <;> simp

theorem confined_placeSpawn (opcode : Opcode) (spawn : Spawn) (machine : Machine E) :
    machine.Confined [.level] (machine.placeSpawn opcode spawn) := by
  intro after placed
  unfold placeSpawn at placed
  split at placed
  next => exact confined_addEntry _ _ _ _ after placed
  next =>
    simp only [Except.ok.injEq] at placed
    subst placed
    exact .refl _ _

theorem confined_loadModel (opcode : Opcode) (model : UInt16) (source : ModelSource)
    (machine : Machine E) : machine.Confined [.scene] (machine.loadModel opcode model source) := by
  intro after loaded
  unfold loadModel at loaded
  split at loaded
  next => simp at loaded
  next =>
    simp only [Except.ok.injEq] at loaded
    subst loaded
    constructor <;> simp

theorem sameExcept_of_invokeHost {id : UInt32} {argument : Int16} {machine after : Machine E}
    {value : Int32} (called : machine.invokeHost id argument = .ok (value, after)) :
    machine.SameExcept [.reporter, .hosts, .overrides, .level] after := by
  unfold invokeHost at called
  split at called
  next => simp at called
  next =>
    simp only [Except.ok.injEq, Prod.mk.injEq] at called
    obtain ⟨_, rfl⟩ := called
    constructor <;> simp

theorem sameExcept_of_callToken {opcode : Opcode} {argument : Int16} {token : UInt32}
    {machine after : Machine E} {value : Int32}
    (called : machine.callToken opcode argument token = .ok (value, after)) :
    machine.SameExcept [.tokens, .context] after := by
  simp only [callToken, bind, Except.bind] at called
  split at called
  next => simp at called
  next =>
    split at called
    next =>
      simp only [pure, Except.pure, Except.ok.injEq, Prod.mk.injEq] at called
      obtain ⟨_, rfl⟩ := called
      constructor <;> simp
    next => simp [throw, throwThe, MonadExceptOf.throw] at called

theorem holdWhileZero_sameExcept (value : Int32) (machine : Machine E) :
    machine.SameExcept [.context] (machine.holdWhileZero value).machine := by
  unfold holdWhileZero
  split <;> constructor <;> simp

theorem skipPast_sameExcept (passedOver : Option Opcode → Bool) (following : Pointer)
    (machine : Machine E) : machine.SameExcept [] (machine.skipPast passedOver following).machine := by
  unfold skipPast
  split
  next => exact .refl _ _
  next => split <;> constructor <;> simp

theorem push_sameExcept (frame : Frame) (flow : Flow) (machine : Machine E) :
    machine.SameExcept [.stack] (machine.push frame flow).machine := by
  unfold push
  split <;> constructor <;> simp

theorem jumpLink_sameExcept (target : Address) (back : Pointer) (machine : Machine E) :
    machine.SameExcept [.stack] (machine.jumpLink target back).machine := by
  unfold jumpLink
  split
  next => exact .refl _ _
  next => exact push_sameExcept _ _ _

theorem jump_sameExcept (target : Address) (machine : Machine E) :
    machine.SameExcept [] (machine.jump target).machine := by
  unfold jump
  split <;> constructor <;> simp

theorem whenHolds_sameExcept {parts : List Part} {machine : Machine E} (condition : Condition)
    (target : Except ReadFault Address) {jump : Address → Machine E → Outcome E}
    (same : ∀ address, machine.SameExcept parts (jump address machine).machine) :
    machine.SameExcept parts (machine.whenHolds condition target jump).machine := by
  unfold whenHolds
  split
  next =>
    split
    next => exact .refl _ _
    next => exact same _
  next => exact .refl _ _

theorem loadFixed_sameExcept (dest : Address) (start stop : UInt32) (machine : Machine E) :
    machine.SameExcept [.reporter, .memory] (machine.loadFixed dest start stop).machine := by
  rcases machine.loadFixed_cases dest start stop with ⟨_, same⟩ | ⟨_, _, _, same⟩ <;>
  · rw [same]
    constructor <;> simp

theorem loadContent_sameExcept (opcode : Opcode) (load : SegmentLoad) (compression : Compression)
    (machine : Machine E) :
    machine.SameExcept [.reporter, .memory]
      (machine.loadContent opcode load compression).machine := by
  rcases machine.loadContent_cases opcode load compression with ⟨_, same⟩ | ⟨_, _, _, same⟩ <;>
  · rw [same]
    constructor <;> simp

theorem execute_sameExcept (load : SegmentLoad) (entry : Address) (following : Pointer)
    (machine : Machine E) :
    machine.SameExcept [.reporter, .memory, .stack]
      (machine.execute load entry following).machine := by
  rcases machine.execute_cases load entry following with
    ⟨_, _, same⟩ | ⟨_, _, same⟩ | ⟨_, _, _, _, _, _, same⟩ | ⟨_, _, _, _, _, _, _, same⟩ <;>
  · rw [same]
    constructor <;> simp

theorem replaceCheckpoint_sameExcept (opcode : Opcode) (machine : Machine E) :
    machine.SameExcept [.reporter, .memory] (machine.replaceCheckpoint opcode) :=
  (machine.popCheckpoint_sameExcept opcode).trans (by constructor <;> simp [replaceCheckpoint])

theorem exitAndExecute_sameExcept (load : SegmentLoad) (entry : Address) (machine : Machine E) :
    machine.SameExcept [.reporter, .memory, .stack]
      (machine.exitAndExecute load entry).machine := by
  have replaced : machine.SameExcept [.reporter, .memory, .stack]
      (machine.replaceCheckpoint .exitAndExecute) :=
    (machine.replaceCheckpoint_sameExcept .exitAndExecute).mono (by simp)
  rcases machine.exitAndExecute_cases load entry with
    ⟨_, _, same⟩ | ⟨_, _, _, _, same⟩ | ⟨_, _, _, _, _, same⟩ <;>
  · rw [same]
    exact replaced.trans (by constructor <;> simp)

theorem exit_sameExcept (machine : Machine E) :
    machine.SameExcept [.reporter, .memory, .stack, .context] machine.exit.machine := by
  rcases machine.exit_cases with ⟨_, same⟩ | ⟨_, _, same⟩ | ⟨_, stack, _, same⟩
  · rw [same]
    constructor <;> simp
  · rw [same]
    exact .refl _ _
  · rw [same]
    have returned : machine.SameExcept [.reporter, .memory, .stack, .context]
        { machine with stack } := by
      constructor <;> simp
    exact returned.trans ((popCheckpoint_sameExcept .exit _).mono (by simp))

theorem clearLevel_sameExcept (machine : Machine E) :
    machine.SameExcept [.reporter, .memory, .level, .scene] machine.clearLevel.machine := by
  have cleared : machine.SameExcept [.reporter, .memory, .level, .scene]
    { machine with scene := machine.scene.clearObjects, level := machine.level.clearAreas } := by
      constructor <;> simp
  exact cleared.trans ((popCheckpoint_sameExcept .clearLevel _).mono (by simp))

theorem call_sameExcept (argument : Int16) (function : UInt32) (machine : Machine E) :
    machine.SameExcept [.reporter, .hosts, .overrides, .level, .context]
      (machine.call argument function).machine := by
  unfold call
  split
  next => constructor <;> simp
  next value called replied =>
    exact ((sameExcept_of_invokeHost replied).mono (by simp)).trans (by constructor <;> simp)

theorem callLoop_sameExcept (argument : Int16) (function : UInt32) (machine : Machine E) :
    machine.SameExcept [.reporter, .hosts, .overrides, .level, .context]
      (machine.callLoop argument function).machine := by
  unfold callLoop
  split
  next => constructor <;> simp
  next value called replied =>
    have kept : machine.SameExcept [.reporter, .hosts, .overrides, .level, .context] called :=
      (sameExcept_of_invokeHost replied).mono (by simp)
    have answered : machine.SameExcept [.reporter, .hosts, .overrides, .level, .context]
        (called.setRegister value) :=
      kept.trans (by constructor <;> simp)
    exact answered.trans ((holdWhileZero_sameExcept _ _).mono (by simp))

theorem callExt_sameExcept (argument : Int16) (token : UInt32) (machine : Machine E) :
    machine.SameExcept [.reporter, .tokens, .context] (machine.callExt argument token).machine := by
  apply attempt_sameExcept
  intro after changed
  cases called : machine.callToken .callExt argument token with
  | error => simp [called, Functor.map, Except.map] at changed
  | ok reply =>
    simp only [called, Functor.map, Except.map, Except.ok.injEq] at changed
    subst changed
    exact sameExcept_of_callToken called

theorem callLoopExt_sameExcept (argument : Int16) (token : UInt32) (machine : Machine E) :
    machine.SameExcept [.reporter, .tokens, .context]
      (machine.callLoopExt argument token).machine := by
  unfold callLoopExt
  split
  next => constructor <;> simp
  next value called replied =>
    exact ((sameExcept_of_callToken replied).mono (by simp)).trans
      ((holdWhileZero_sameExcept _ _).mono (by simp))

theorem beginArea_sameExcept (index : UInt8) (geometry : Address) (machine : Machine E) :
    machine.SameExcept [.reporter, .level, .scene] (machine.beginArea index geometry).machine := by
  unfold beginArea
  split
  next => constructor <;> simp
  next =>
    split
    next => constructor <;> simp
    next => simp only; split <;> constructor <;> simp

theorem loadArea_sameExcept (index : UInt8) (machine : Machine E) :
    machine.SameExcept [.reporter, .level, .scene] (machine.loadArea index).machine := by
  apply attempt_sameExcept
  intro after changed
  split at changed
  next => simp at changed
  next =>
    simp only [Except.ok.injEq] at changed
    subst changed
    constructor <;> simp

theorem endArea_sameExcept (machine : Machine E) :
    machine.SameExcept [.reporter, .level] machine.endArea.machine := by
  apply attempt_sameExcept
  intro after changed
  split at changed
  next => simp at changed
  next =>
    simp only [Except.ok.injEq] at changed
    subst changed
    constructor <;> simp

theorem getOrSet_sameExcept (mode var : UInt8) (machine : Machine E) :
    machine.SameExcept [.reporter, .level, .context] (machine.getOrSet mode var).machine := by
  apply attempt_sameExcept
  intro after changed
  split at changed
  next => simp at changed
  next =>
    split at changed
    next =>
      simp only [Except.ok.injEq] at changed
      subst changed
      constructor <;> simp
    next =>
      split at changed
      next =>
        simp only [Except.ok.injEq] at changed
        subst changed
        constructor <;> simp
      next => simp at changed

theorem placeObjectExt2_sameExcept (position angle : Vec3) (behaviorArg modelToken : UInt32)
    (behaviorToken : Except ReadFault UInt32) (acts : UInt8) (machine : Machine E) :
    machine.SameExcept [.reporter, .level]
      (machine.placeObjectExt2 position angle behaviorArg modelToken behaviorToken
        acts).machine := by
  unfold placeObjectExt2
  split
  next => constructor <;> simp
  next =>
    split
    next => exact .refl _ _
    next => exact attempt_sameExcept (ensures_bind fun _ => confined_placeSpawn _ _ _)

theorem loopRepeat_sameExcept (machine : Machine E) :
    machine.SameExcept [.stack] machine.loopRepeat.machine := by
  unfold loopRepeat
  split
  next => exact .refl _ _
  next => simp only; split <;> constructor <;> simp

theorem loopUntil_sameExcept (condition : Condition) (machine : Machine E) :
    machine.SameExcept [.stack] (machine.loopUntil condition).machine := by
  unfold loopUntil
  split
  next => exact .refl _ _
  next => split <;> constructor <;> simp

theorem ret_sameExcept (machine : Machine E) : machine.SameExcept [.stack] machine.ret.machine := by
  unfold ret
  split <;> constructor <;> simp

theorem skipIf_sameExcept (condition : Condition) (following : Pointer) (machine : Machine E) :
    machine.SameExcept [] (machine.skipIf condition following).machine := by
  unfold skipIf
  split
  next => exact .refl _ _
  next => exact skipPast_sameExcept _ _ _

theorem sleep_sameExcept (frames : Int16) (machine : Machine E) :
    machine.SameExcept [.context] (machine.sleep frames).machine := by
  unfold sleep
  simp only
  split <;> constructor <;> simp

theorem sleepBeforeExit_sameExcept (frames : Int16) (machine : Machine E) :
    machine.SameExcept [.context] (machine.sleepBeforeExit frames).machine := by
  unfold sleepBeforeExit
  simp only
  split <;> constructor <;> simp

theorem unloadArea_sameExcept (machine : Machine E) :
    machine.SameExcept [.level, .scene] machine.unloadArea.machine := by
  unfold unloadArea
  split <;> constructor <;> simp

/-- An instruction changes no part outside its footprint. -/
theorem exec_sameExcept (instruction : Instruction) (following : Pointer) (machine : Machine E) :
    machine.SameExcept instruction.footprint (machine.exec instruction following).machine := by
  cases instruction with
  | execute load entry => exact execute_sameExcept load entry following machine
  | exitAndExecute load entry => exact exitAndExecute_sameExcept load entry machine
  | exit => exact exit_sameExcept machine
  | sleep frames => exact sleep_sameExcept frames machine
  | sleepBeforeExit frames => exact sleepBeforeExit_sameExcept frames machine
  | jump target => exact jump_sameExcept target machine
  | jumpLink target => exact jumpLink_sameExcept target following machine
  | ret => exact ret_sameExcept machine
  | loopBeginCount count => exact push_sameExcept _ _ machine
  | loopRepeat => exact loopRepeat_sameExcept machine
  | loopBegin => exact push_sameExcept _ _ machine
  | loopUntil condition => exact loopUntil_sameExcept condition machine
  | jumpIf condition target =>
    exact whenHolds_sameExcept condition target fun address => jump_sameExcept address machine
  | jumpLinkIf condition target =>
    exact whenHolds_sameExcept condition target fun address =>
      jumpLink_sameExcept address following machine
  | skipIf condition => exact skipIf_sameExcept condition following machine
  | skip => exact skipPast_sameExcept _ following machine
  | nop => exact .refl _ machine
  | call argument function => exact call_sameExcept argument function machine
  | callLoop argument function => exact callLoop_sameExcept argument function machine
  | setRegister value => constructor <;> simp [exec, Instruction.footprint]
  | pushPool => constructor <;> simp [exec, Instruction.footprint]
  | popPool => exact popCheckpoint_sameExcept _ machine
  | loadFixed dest first last => exact loadFixed_sameExcept dest first last machine
  | loadRaw load => exact loadContent_sameExcept _ load _ machine
  | loadCompressed load => exact loadContent_sameExcept _ load _ machine
  | initLevel => constructor <;> simp [exec, initLevel, Instruction.footprint]
  | clearLevel => exact clearLevel_sameExcept machine
  | allocLevelPool => constructor <;> simp [exec, allocLevelPool, Instruction.footprint]
  | freeLevelPool => constructor <;> simp [exec, freeLevelPool, Instruction.footprint]
  | beginArea index geometry => exact beginArea_sameExcept index geometry machine
  | endArea => exact endArea_sameExcept machine
  | loadModelFromDl model displayList layer => exact attempt_sameExcept (confined_loadModel _ _ _ _)
  | loadModelFromGeo model geometry => exact attempt_sameExcept (confined_loadModel _ _ _ _)
  | loadModelScaled model displayList scaleBits =>
    exact attempt_sameExcept (confined_loadModel _ _ _ _)
  | placeObject spawn => exact attempt_sameExcept (confined_placeSpawn _ _ _)
  | initPlayer player => constructor <;> simp [exec, initPlayer, Instruction.footprint]
  | createWarpNode node => exact attempt_sameExcept (confined_addEntry _ _ _ _)
  | createPaintingWarpNode node =>
    exact attempt_sameExcept (ensures_inSlot _ _ _ fun _ => confined_addEntry _ _ _ _)
  | createInstantWarp index warp =>
    exact attempt_sameExcept (ensures_inSlot _ _ _ fun _ => confined_addEntry _ _ _ _)
  | loadArea index => exact loadArea_sameExcept index machine
  | unloadArea => exact unloadArea_sameExcept machine
  | setPlayerStartPos spawn => constructor <;> simp [exec, Instruction.footprint]
  | unloadPlayerArea => constructor <;> simp [exec, Instruction.footprint]
  | updateObjects => constructor <;> simp [exec, Instruction.footprint]
  | setTerrainData data => exact attempt_sameExcept (confined_editArea _ _ _)
  | setRooms data => exact attempt_sameExcept (confined_editArea _ _ _)
  | showDialog index dialog =>
    exact attempt_sameExcept (ensures_inSlot _ _ _ fun _ => confined_editArea _ _ _)
  | setTerrainType terrain => exact attempt_sameExcept (confined_editArea _ _ _)
  | present request => constructor <;> simp [exec, present, Instruction.footprint]
  | setMusic music => exact attempt_sameExcept (confined_editArea _ _ _)
  | setMacroObjects data => exact attempt_sameExcept (confined_editArea _ _ _)
  | createWhirlpool index whirlpool =>
    exact attempt_sameExcept (ensures_inSlot _ _ _ fun _ => confined_addEntry _ _ _ _)
  | getOrSet mode var => exact getOrSet_sameExcept mode var machine
  | placeObjectExt model position angle behaviorArg behaviorToken acts =>
    exact attempt_sameExcept (ensures_bind fun _ => confined_placeSpawn _ _ _)
  | placeObjectExt2 position angle behaviorArg modelToken behaviorToken acts =>
    exact placeObjectExt2_sameExcept position angle behaviorArg modelToken behaviorToken acts machine
  | loadModelFromGeoExt model geometryToken =>
    exact attempt_sameExcept (ensures_bind fun _ => confined_loadModel _ _ _ _)
  | callExt argument functionToken => exact callExt_sameExcept argument functionToken machine
  | callLoopExt argument functionToken => exact callLoopExt_sameExcept argument functionToken machine

theorem followOverrides_sameExcept (pointer : Pointer) (machine : Machine E) :
    machine.SameExcept [.activeOwner, .reporter] (machine.followOverrides pointer).2 := by
  unfold followOverrides
  simp only
  split
  next => split <;> constructor <;> simp
  next => constructor <;> simp

theorem sameExcept_of_followed {pointer target : Pointer} {machine after : Machine E}
    (followed : machine.followOverrides pointer = (target, after)) :
    machine.SameExcept [.activeOwner, .reporter] after := by
  have same := machine.followOverrides_sameExcept pointer
  rw [followed] at same
  exact same

theorem dispatchCommand_dispatch [Patches E] (opcode : Opcode) (command : Command)
    (machine : Machine E) :
    (machine.dispatchCommand (.canonical opcode) command).machine.dispatch = machine.dispatch := by
  let same (after : Machine E) := after.dispatch = machine.dispatch
  have kept : same (machine.dispatchCommand (.canonical opcode) command).machine :=
    dispatchCommand_keeps rfl fun instruction =>
      (exec_sameExcept instruction command.next machine).dispatch
  exact kept

theorem step_dispatch_of_patched [Patches E] {canonical : Bool} {cursor : Pointer} {machine : Machine E}
    (patched : ∀ patch command, machine.dispatched? canonical cursor = some (.patch patch, command) →
      (Patches.run patch command machine).machine.dispatch = machine.dispatch) :
    (machine.step canonical cursor).2.dispatch = machine.dispatch := by
  let same (after : Machine E) := after.dispatch = machine.dispatch
  have kept : same (machine.step canonical cursor).2 := by
    refine step_keeps rfl rfl ?_ ?_
    · intro handler command dispatched
      cases handler with
      | patch patch => exact patched patch command dispatched
      | canonical opcode => exact dispatchCommand_dispatch opcode command machine
    · intro pointer after before
      exact (after.followOverrides_sameExcept pointer).dispatch.trans before
  exact kept

theorem step_dispatch [Patches E] (canonical : Bool) (machine : Machine E)
    (plain : canonical = true ∨ machine.dispatch = .canonical) (cursor : Pointer) :
    (machine.step canonical cursor).2.dispatch = machine.dispatch := by
  refine step_dispatch_of_patched fun patch command dispatched => ?_
  obtain ⟨opcode, _, same⟩ := canonical_of_dispatched plain dispatched
  cases same

theorem selectTable_sameExcept (machine : Machine E) :
    machine.SameExcept [.reporter] machine.selectTable.2 := by
  unfold selectTable
  split <;> constructor <;> simp

theorem begin_sameExcept (machine : Machine E) :
    machine.SameExcept [.context, .activeOwner, .reporter] machine.begin := by
  constructor <;> simp [begin]

theorem registerOverride_sameExcept (override : Override) (machine : Machine E) :
    machine.SameExcept [.overrides, .reporter] (machine.registerOverride override).2 := by
  unfold registerOverride
  cases machine.overrides.register override with
  | mk registration overrides => cases registration <;> constructor <;> simp

theorem finish_sameExcept (ending : Ending E) :
    ending.machine.SameExcept [.context, .reporter] (finish ending).2 := by
  constructor <;> simp [finish]

end Machine

namespace Run

variable {E : Embedding}

theorem start_sameExcept (cursor : Pointer) (machine : Machine E) :
    machine.SameExcept [.context, .activeOwner, .reporter] (Run.start cursor machine).machine := by
  have selected : machine.SameExcept [.context, .activeOwner, .reporter]
      machine.begin.selectTable.2 :=
    machine.begin_sameExcept.trans (machine.begin.selectTable_sameExcept.mono (by simp))
  exact selected.trans ((machine.begin.selectTable.2.followOverrides_sameExcept cursor).mono (by simp))

theorem dispatch_ofScript (image script : Bytes) :
    (ofScript image script).machine.dispatch = .canonical :=
  (start_sameExcept _ _).dispatch

theorem stack_ofScript (image script : Bytes) : (ofScript image script).machine.stack = .empty :=
  (start_sameExcept _ _).stack (by simp)

variable [Patches E] {run next : Run E}

theorem Step.dispatch (table : run.machine.dispatch = .canonical) (step : run.Step next) :
    next.machine.dispatch = .canonical := by
  have kept := Machine.step_dispatch run.canonical run.machine (.inr table) run.cursor
  rw [(step_iff.mp step).2.1] at kept
  exact kept.trans table

theorem Ends.dispatch {ending : Machine.Ending E} (table : run.machine.dispatch = .canonical)
    (ended : run.Ends ending) : ending.machine.dispatch = .canonical := by
  rcases ended.cases table with same | ⟨_, _, _, _, _, left⟩
  · rw [same, table]
  · rw [left, (Machine.exec_sameExcept ..).dispatch, table]

theorem Resumes.cases {edit : Machine E → Machine E → Prop} (resumed : run.Resumes edit next) :
    ∃ ending finished edited, run.Ends ending ∧
      ending.machine.SameExcept [.context, .reporter] finished ∧ edit finished edited ∧
      edited.SameExcept [.context, .activeOwner, .reporter] next.machine := by
  cases resumed with
  | intro ended edited =>
    exact ⟨_, _, _, ended, Machine.finish_sameExcept _, edited, start_sameExcept _ _⟩

theorem Moves.dispatch {edit : Machine E → Machine E → Prop}
    (keeps : ∀ before after, edit before after → after.dispatch = before.dispatch)
    (table : run.machine.dispatch = .canonical) (move : run.Moves edit next) :
    next.machine.dispatch = .canonical := by
  rcases move with step | resumed
  · exact step.dispatch table
  · obtain ⟨ending, finished, edited, ended, same, edit, started⟩ := resumed.cases
    rw [started.dispatch, keeps _ _ edit, same.dispatch, ended.dispatch table]

end Run

end StageScript
