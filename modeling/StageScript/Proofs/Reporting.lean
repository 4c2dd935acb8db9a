import StageScript.Proofs.Footprint
import StageScript.Proofs.Indifference

/-!
What commands report. Every command does the same whatever the step limit is, wherever the last
execution stopped, however much has been reported already, and whichever handlers the dispatch table
has; it only adds its diagnostics to those there are, and which they are depends on none of this. So
two machines that call the same handlers and differ in nothing else take the same steps.
-/

namespace StageScript

/-- What a machine has of the executions before and around the one it is in: how many steps it may
take, where the last one stopped, and what has been reported. -/
structure Ledger where
  stepLimit : Nat
  cursor : Option Pointer
  reporter : Reporter

def Ledger.told (said : List Diagnostic) (ledger : Ledger) : Ledger :=
  { ledger with reporter := said.foldl Reporter.emit ledger.reporter }

theorem Ledger.told_append (said more : List Diagnostic) (ledger : Ledger) :
    ledger.told (said ++ more) = (ledger.told said).told more := by
  simp only [Ledger.told, List.foldl_append]

namespace Machine

variable {E : Embedding}

def ledger (machine : Machine E) : Ledger :=
  ⟨machine.config.stepLimit, machine.context.cursor, machine.reporter⟩

def withLedger (ledger : Ledger) (machine : Machine E) : Machine E :=
  { machine with
    config := { machine.config with stepLimit := ledger.stepLimit }
    context := { machine.context with cursor := ledger.cursor }
    reporter := ledger.reporter }

@[simp] theorem withLedger_ledger (machine : Machine E) : machine.withLedger machine.ledger = machine :=
  rfl

def beside (ledger : Ledger) (table : DispatchTable E.Patch) (machine : Machine E) : Machine E :=
  { machine with
    config := { machine.config with stepLimit := ledger.stepLimit }
    context := { machine.context with cursor := ledger.cursor }
    dispatch := table
    reporter := ledger.reporter }

end Machine

def Outcome.withLedger {E : Embedding} (ledger : Ledger) (outcome : Outcome E) : Outcome E :=
  ⟨outcome.machine.withLedger ledger, outcome.flow⟩

def Outcome.beside {E : Embedding} (ledger : Ledger) (table : DispatchTable E.Patch)
    (outcome : Outcome E) : Outcome E :=
  ⟨outcome.machine.beside ledger table, outcome.flow⟩

namespace Machine

variable {E : Embedding} {machine : Machine E}

def Reports (run : Machine E → Outcome E) (machine : Machine E) : Prop :=
  ∃ said, ∀ ledger, run (machine.withLedger ledger) =
    (run machine).withLedger (ledger.told said)

/-- Whatever the ledger and the dispatch table are, the same is done and the same diagnostics are
added. -/
def Tells (run : Machine E → Outcome E) (machine : Machine E) : Prop :=
  ∃ said, ∀ ledger table, run (machine.beside ledger table) =
    (run machine).beside (ledger.told said) table

theorem Tells.of_silent {run : Machine E → Outcome E}
    (same : ∀ ledger table, run (machine.beside ledger table) = (run machine).beside ledger table) :
    Tells run machine :=
  ⟨[], same⟩

theorem tells_attempt {change : Machine E → Except Diagnostic (Machine E)}
    (same : ∀ ledger table, change (machine.beside ledger table) =
      (change machine).map (beside ledger table)) :
    Tells (fun machine => machine.attempt (change machine)) machine := by
  cases changed : change machine with
  | ok after =>
    refine .of_silent fun ledger table => ?_
    simp only [same, changed]
    rfl
  | error diagnostic =>
    refine ⟨[diagnostic], fun ledger table => ?_⟩
    simp only [same, changed]
    rfl

theorem tells_sleep (frames : Int16) : Tells (sleep frames) machine := by
  refine .of_silent fun ledger table => ?_
  simp only [sleep, apply_ite (Outcome.beside ledger table)]
  rfl

theorem tells_sleepBeforeExit (frames : Int16) : Tells (sleepBeforeExit frames) machine := by
  refine .of_silent fun ledger table => ?_
  simp only [sleepBeforeExit, apply_ite (Outcome.beside ledger table)]
  rfl

theorem holdWhileZero_beside (value : Int32) (ledger : Ledger) (table : DispatchTable E.Patch)
    (machine : Machine E) :
    (machine.beside ledger table).holdWhileZero value =
      (machine.holdWhileZero value).beside ledger table := by
  simp only [holdWhileZero, apply_ite (Outcome.beside ledger table)]
  rfl

theorem tells_beginArea (index : UInt8) (geometry : Address) :
    Tells (beginArea index geometry) machine := by
  unfold beginArea
  by_cases outside : areaCount ≤ index.toNat
  · refine ⟨[.invalidAreaIndex .beginArea index], fun ledger table => ?_⟩
    simp only [if_pos outside]
    rfl
  · simp only [if_neg outside]
    cases built : machine.scene.buildArea index geometry with
    | error error =>
      refine ⟨[.areaBeginFailed index error.message], fun ledger table => ?_⟩
      simp only [beside, built]
      rfl
    | ok area =>
      by_cases blind : area.1.camera.isNone
      · refine ⟨[.missingCamera index], fun ledger table => ?_⟩
        simp only [beside, built, if_pos blind]
        rfl
      · refine .of_silent fun ledger table => ?_
        simp only [beside, built, if_neg blind]
        rfl

section Changes

variable (ledger : Ledger) (table : DispatchTable E.Patch)

theorem editArea_beside (opcode : Opcode) (change : Area → Area) :
    (machine.beside ledger table).editArea opcode change =
      (machine.editArea opcode change).map (beside ledger table) := by
  simp only [editArea, beside]
  cases machine.level.currentArea? <;> rfl

theorem addEntry_beside (opcode : Opcode) (cost : Nat) (link : Area → Area) :
    (machine.beside ledger table).addEntry opcode cost link =
      (machine.addEntry opcode cost link).map (beside ledger table) := by
  simp only [addEntry, beside]
  cases machine.level.currentArea? with
  | none => rfl
  | some area =>
    simp only
    cases machine.level.pool.allocate cost <;> rfl

theorem inSlot_beside {opcode : Opcode} {index : UInt8} {slots : Nat}
    {changed change : index.toNat < slots → Except Diagnostic (Machine E)}
    (same : ∀ inside, changed inside = (change inside).map (beside ledger table)) :
    inSlot opcode index slots changed =
      (inSlot opcode index slots change).map (beside ledger table) := by
  unfold inSlot
  split
  next inside => exact same inside
  next => rfl

theorem placeSpawn_beside (opcode : Opcode) (spawn : Spawn) :
    (machine.beside ledger table).placeSpawn opcode spawn =
      (machine.placeSpawn opcode spawn).map (beside ledger table) := by
  simp only [placeSpawn, addSpawn, addEntry_beside, apply_ite (Except.map _)]
  rfl

theorem loadModel_beside (opcode : Opcode) (model : UInt16) (source : ModelSource) :
    (machine.beside ledger table).loadModel opcode model source =
      (machine.loadModel opcode model source).map (beside ledger table) := by
  simp only [loadModel, beside]
  cases machine.scene.loadModel model source <;> rfl

theorem bind_beside {α : Type} {read : Except Diagnostic α}
    {changed change : α → Except Diagnostic (Machine E)}
    (same : ∀ value, changed value = (change value).map (beside ledger table)) :
    (read >>= changed) = (read >>= change).map (beside ledger table) := by
  cases read with
  | error => rfl
  | ok value => exact same value

theorem load_beside (load : SegmentLoad) (compression : Compression) :
    (machine.beside ledger table).load load compression =
      (machine.load load compression).map (beside ledger table) := by
  simp only [load_eq, beside]
  cases machine.memory.loadRange load compression <;> rfl

theorem callToken_beside (opcode : Opcode) (argument : Int16) (token : UInt32) :
    (machine.beside ledger table).callToken opcode argument token =
      (machine.callToken opcode argument token).map fun reply =>
        (reply.1, reply.2.beside ledger table) := by
  have read : (machine.beside ledger table).tokenName opcode token = machine.tokenName opcode token :=
    rfl
  simp only [callToken, read]
  cases machine.tokenName opcode token with
  | error diagnostic => rfl
  | ok name =>
    simp only [bind, Except.bind, beside]
    cases machine.tokens.call? E.callToken machine.activeOwner name argument
      machine.context.register <;> rfl

theorem jump_beside (target : Address) :
    (machine.beside ledger table).jump target = (machine.jump target).beside ledger table := by
  simp only [jump, beside]
  cases machine.memory.resolve? target <;> rfl

theorem push_beside (frame : Frame) (flow : Flow) :
    (machine.beside ledger table).push frame flow = (machine.push frame flow).beside ledger table := by
  simp only [push, beside]
  cases machine.stack.push frame <;> rfl

theorem jumpLink_beside (target : Address) (back : Pointer) :
    (machine.beside ledger table).jumpLink target back =
      (machine.jumpLink target back).beside ledger table := by
  simp only [jumpLink, push_beside]
  simp only [beside]
  cases machine.memory.resolve? target <;> rfl

theorem skipPast_beside (passedOver : Option Opcode → Bool) (following : Pointer) :
    (machine.beside ledger table).skipPast passedOver following =
      (machine.skipPast passedOver following).beside ledger table := by
  simp only [skipPast, beside]
  cases machine.memory.buffer? following.buffer with
  | none => rfl
  | some bytes =>
    simp only
    cases pastFirst machine.config.layout bytes passedOver following <;> rfl

end Changes

theorem tells_endArea : Tells endArea machine := by
  refine tells_attempt fun ledger table => ?_
  simp only [beside]
  cases machine.level.current <;> rfl

theorem tells_loadArea (index : UInt8) : Tells (loadArea index) machine := by
  refine tells_attempt fun ledger table => ?_
  simp only [beside]
  cases machine.level.area? index <;> rfl

theorem tells_unloadArea : Tells unloadArea machine := by
  refine .of_silent fun ledger table => ?_
  simp only [unloadArea, beside]
  cases machine.level.loaded <;> rfl

theorem tells_getOrSet (mode var : UInt8) : Tells (getOrSet mode var) machine := by
  refine tells_attempt fun ledger table => ?_
  cases Variable.ofIndex? var with
  | none => rfl
  | some chosen =>
    simp only [apply_ite (Except.map _)]
    rfl

theorem tells_placeObjectExt2 (position angle : Vec3) (behaviorArg modelToken : UInt32)
    (behaviorToken : Except ReadFault UInt32) (acts : UInt8) :
    Tells (placeObjectExt2 position angle behaviorArg modelToken behaviorToken acts) machine := by
  have read ledger table : (machine.beside ledger table).tokenModel .placeObjectExt2 modelToken =
      machine.tokenModel .placeObjectExt2 modelToken := rfl
  unfold placeObjectExt2
  cases model : machine.tokenModel .placeObjectExt2 modelToken with
  | error diagnostic =>
    refine ⟨[diagnostic], fun ledger table => ?_⟩
    simp only [read, model]
    rfl
  | ok model' =>
    cases behaviorToken with
    | error fault =>
      refine .of_silent fun ledger table => ?_
      simp only [read, model]
      rfl
    | ok token =>
      obtain ⟨said, same⟩ : Tells (fun machine => machine.attempt (do
          let named ← machine.tokenAddress .placeObjectExt2 token
          machine.placeSpawn .placeObjectExt2
            ⟨model', position, angle, behaviorArg, .named named.1 named.2, acts⟩)) machine :=
        tells_attempt fun ledger table =>
          bind_beside ledger table fun _ => placeSpawn_beside ledger table _ _
      refine ⟨said, fun ledger table => ?_⟩
      simp only [read, model]
      exact same ledger table

theorem tells_callExt (argument : Int16) (token : UInt32) :
    Tells (callExt argument token) machine := by
  refine tells_attempt fun ledger table => ?_
  rw [callToken_beside]
  cases machine.callToken .callExt argument token <;> rfl

theorem tells_callLoopExt (argument : Int16) (token : UInt32) :
    Tells (callLoopExt argument token) machine := by
  unfold callLoopExt
  cases called : machine.callToken .callLoopExt argument token with
  | error diagnostic =>
    refine ⟨[diagnostic], fun ledger table => ?_⟩
    simp only [callToken_beside, called]
    rfl
  | ok reply =>
    refine .of_silent fun ledger table => ?_
    simp only [callToken_beside, called]
    exact holdWhileZero_beside reply.1 ledger table reply.2

/-- A host function is not told what has been reported; what it raises is reported after it. -/
theorem invokeHost_beside (id : UInt32) (argument : Int16) :
    ∃ said, ∀ ledger table, (machine.beside ledger table).invokeHost id argument =
      (machine.invokeHost id argument).map fun reply =>
        (reply.1, reply.2.beside (ledger.told said) table) := by
  unfold invokeHost
  cases known : machine.hosts[id]? with
  | none => exact ⟨[], fun ledger table => by simp only [beside, known]; rfl⟩
  | some function =>
    refine ⟨(E.callHost function ⟨machine.overrides, machine.level, machine.activeOwner, #[]⟩ argument
      machine.context.register).context.raised.toList, fun ledger table => ?_⟩
    simp only [beside, known, Ledger.told, Array.foldl_toList]
    rfl

theorem tells_call (argument : Int16) (function : UInt32) :
    Tells (call argument function) machine := by
  obtain ⟨said, same⟩ := machine.invokeHost_beside function argument
  unfold call
  cases called : machine.invokeHost function argument with
  | error diagnostic =>
    refine ⟨[diagnostic], fun ledger table => ?_⟩
    simp only [same, called]
    rfl
  | ok reply =>
    refine ⟨said, fun ledger table => ?_⟩
    simp only [same, called]
    rfl

theorem tells_callLoop (argument : Int16) (function : UInt32) :
    Tells (callLoop argument function) machine := by
  obtain ⟨said, same⟩ := machine.invokeHost_beside function argument
  unfold callLoop
  cases called : machine.invokeHost function argument with
  | error diagnostic =>
    refine ⟨[diagnostic], fun ledger table => ?_⟩
    simp only [same, called]
    rfl
  | ok reply =>
    refine ⟨said, fun ledger table => ?_⟩
    simp only [same, called]
    exact holdWhileZero_beside reply.1 (ledger.told said) table (reply.2.setRegister reply.1)

theorem popCheckpoint_beside (opcode : Opcode) (machine : Machine E) :
    ∃ said, ∀ ledger table, (machine.beside ledger table).popCheckpoint opcode =
      (machine.popCheckpoint opcode).beside (ledger.told said) table := by
  unfold popCheckpoint
  cases popped : machine.memory.popState with
  | ok memory => exact ⟨[], fun ledger table => by simp only [beside, popped]; rfl⟩
  | error error => exact ⟨[_], fun ledger table => by simp only [beside, popped]; rfl⟩

theorem tells_execute (load : SegmentLoad) (entry : Address) (following : Pointer) :
    Tells (execute load entry following) machine := by
  have pushing ledger table : (machine.beside ledger table).pushCheckpoint =
      machine.pushCheckpoint.beside ledger table := rfl
  unfold execute
  cases pushed : machine.stack.pushScope following with
  | error fault => exact .of_silent fun ledger table => by simp only [beside, pushed]; rfl
  | ok stack =>
    have pushed' ledger table : (machine.beside ledger table).stack.pushScope following = .ok stack := pushed
    simp only [Tells, pushed, pushed', pushing, load_beside]
    cases loaded : machine.pushCheckpoint.load load .raw with
    | error error =>
      obtain ⟨said, popped⟩ := machine.pushCheckpoint.popCheckpoint_beside .execute
      refine ⟨said ++ [loadFailure .execute error], fun ledger table => ?_⟩
      simp only [Except.map, popped, Ledger.told_append]
      rfl
    | ok entered =>
      have memory ledger table : (entered.beside ledger table).memory = entered.memory := rfl
      simp only [Except.map, memory]
      cases entered.memory.resolve? entry with
      | none =>
        obtain ⟨said, popped⟩ := entered.popCheckpoint_beside .execute
        refine ⟨said, fun ledger table => ?_⟩
        simp only [popped]
        rfl
      | some target => exact ⟨[], fun ledger table => rfl⟩

theorem tells_exitAndExecute (load : SegmentLoad) (entry : Address) :
    Tells (exitAndExecute load entry) machine := by
  obtain ⟨said, popped⟩ := machine.popCheckpoint_beside .exitAndExecute
  have pushing ledger table : ((machine.popCheckpoint .exitAndExecute).beside ledger table).pushCheckpoint =
      (machine.popCheckpoint .exitAndExecute).pushCheckpoint.beside ledger table := rfl
  unfold exitAndExecute
  simp only [Tells, popped, pushing, load_beside]
  cases loaded : (machine.popCheckpoint .exitAndExecute).pushCheckpoint.load load .raw with
  | error error =>
    refine ⟨said ++ [loadFailure .exitAndExecute error], fun ledger table => ?_⟩
    simp only [Except.map, Ledger.told_append]
    rfl
  | ok entered =>
    have memory ledger table : (entered.beside ledger table).memory = entered.memory := rfl
    simp only [Except.map, memory]
    cases entered.memory.resolve? entry <;> exact ⟨said, fun ledger table => rfl⟩

theorem tells_exit : Tells exit machine := by
  have stack ledger table : (machine.beside ledger table).stack = machine.stack := rfl
  unfold exit
  simp only [Tells, stack]
  cases machine.stack.frames with
  | nil => exact ⟨[], fun ledger table => rfl⟩
  | cons top below =>
    cases machine.stack.popReturn with
    | error fault => exact ⟨[], fun ledger table => rfl⟩
    | ok popped =>
      obtain ⟨said, same⟩ := { machine with stack := popped.2 }.popCheckpoint_beside .exit
      exact ⟨said, fun ledger table => congrArg (goto · popped.1) (same ledger table)⟩

theorem tells_clearLevel : Tells clearLevel machine := by
  obtain ⟨said, same⟩ := { machine with
    scene := machine.scene.clearObjects
    level := machine.level.clearAreas }.popCheckpoint_beside .clearLevel
  exact ⟨said, fun ledger table => congrArg next (same ledger table)⟩

theorem tells_popPool : Tells (fun machine => (machine.popCheckpoint .popPool).next) machine := by
  obtain ⟨said, same⟩ := machine.popCheckpoint_beside .popPool
  exact ⟨said, fun ledger table => congrArg next (same ledger table)⟩

theorem tells_loadFixed (dest : Address) (first last : UInt32) :
    Tells (loadFixed dest first last) machine := by
  refine tells_attempt fun ledger table => ?_
  simp only [beside]
  cases machine.memory.loadFixed dest first.toNat last.toNat <;> rfl

theorem tells_loadContent (opcode : Opcode) (load : SegmentLoad) (compression : Compression) :
    Tells (loadContent opcode load compression) machine := by
  refine tells_attempt fun ledger table => ?_
  rw [load_beside]
  cases machine.load load compression <;> rfl

theorem tells_whenHolds {jump : Address → Machine E → Outcome E} (condition : Condition)
    (target : Except ReadFault Address) (same : ∀ ledger table address,
      jump address (machine.beside ledger table) = (jump address machine).beside ledger table) :
    Tells (fun machine => machine.whenHolds condition target jump) machine := by
  refine .of_silent fun ledger table => ?_
  simp only [whenHolds, same, apply_ite (Outcome.beside ledger table)]
  cases target <;> rfl

theorem tells_ret : Tells ret machine := by
  refine .of_silent fun ledger table => ?_
  simp only [ret, beside]
  cases machine.stack.popReturn <;> rfl

theorem tells_loopRepeat : Tells loopRepeat machine := by
  refine .of_silent fun ledger table => ?_
  simp only [loopRepeat, beside]
  cases machine.stack.popLoop with
  | error fault => rfl
  | ok popped =>
    simp only [apply_ite (Outcome.beside ledger table)]
    rfl

theorem tells_loopUntil (condition : Condition) : Tells (loopUntil condition) machine := by
  refine .of_silent fun ledger table => ?_
  simp only [loopUntil, beside]
  cases machine.stack.popLoop with
  | error fault => rfl
  | ok popped =>
    simp only [apply_ite (Outcome.beside ledger table)]
    rfl

theorem tells_skipIf (condition : Condition) (following : Pointer) :
    Tells (skipIf condition following) machine := by
  refine .of_silent fun ledger table => ?_
  simp only [skipIf, skipPast_beside, apply_ite (Outcome.beside ledger table)]
  rfl

/-- Every instruction tells the same and does the same, whatever the ledger and the table are. -/
theorem tells_exec (instruction : Instruction) (following : Pointer) (machine : Machine E) :
    Tells (exec instruction following) machine := by
  cases instruction with
  | execute load entry => exact tells_execute load entry following
  | exitAndExecute load entry => exact tells_exitAndExecute load entry
  | exit => exact tells_exit
  | sleep frames => exact tells_sleep frames
  | sleepBeforeExit frames => exact tells_sleepBeforeExit frames
  | jump target => exact .of_silent fun ledger table => jump_beside ledger table target
  | jumpLink target => exact .of_silent fun ledger table => jumpLink_beside ledger table target following
  | ret => exact tells_ret
  | loopBeginCount | loopBegin => exact .of_silent fun ledger table => push_beside ledger table _ _
  | loopRepeat => exact tells_loopRepeat
  | loopUntil condition => exact tells_loopUntil condition
  | jumpIf condition target => exact tells_whenHolds condition target jump_beside
  | jumpLinkIf condition target =>
    exact tells_whenHolds condition target fun ledger table address =>
      jumpLink_beside ledger table address following
  | skipIf condition => exact tells_skipIf condition following
  | skip => exact .of_silent fun ledger table => skipPast_beside ledger table _ following
  | call argument function => exact tells_call argument function
  | callLoop argument function => exact tells_callLoop argument function
  | popPool => exact tells_popPool
  | loadFixed dest first last => exact tells_loadFixed dest first last
  | loadRaw load => exact tells_loadContent _ load _
  | loadCompressed load => exact tells_loadContent _ load _
  | clearLevel => exact tells_clearLevel
  | beginArea index geometry => exact tells_beginArea index geometry
  | endArea => exact tells_endArea
  | loadModelFromDl | loadModelFromGeo | loadModelScaled =>
    exact tells_attempt fun ledger table => loadModel_beside ledger table _ _ _
  | placeObject spawn => exact tells_attempt fun ledger table => placeSpawn_beside ledger table _ _
  | createWarpNode node => exact tells_attempt fun ledger table => addEntry_beside ledger table _ _ _
  | createPaintingWarpNode | createInstantWarp | createWhirlpool =>
    exact tells_attempt fun ledger table =>
      inSlot_beside ledger table fun _ => addEntry_beside ledger table _ _ _
  | loadArea index => exact tells_loadArea index
  | unloadArea => exact tells_unloadArea
  | setTerrainData | setRooms | setTerrainType | setMusic | setMacroObjects =>
    exact tells_attempt fun ledger table => editArea_beside ledger table _ _
  | showDialog =>
    exact tells_attempt fun ledger table =>
      inSlot_beside ledger table fun _ => editArea_beside ledger table _ _
  | getOrSet mode var => exact tells_getOrSet mode var
  | placeObjectExt =>
    exact tells_attempt fun ledger table =>
      bind_beside ledger table fun _ => placeSpawn_beside ledger table _ _
  | placeObjectExt2 => exact tells_placeObjectExt2 _ _ _ _ _ _
  | loadModelFromGeoExt =>
    exact tells_attempt fun ledger table =>
      bind_beside ledger table fun _ => loadModel_beside ledger table _ _ _
  | callExt argument token => exact tells_callExt argument token
  | callLoopExt argument token => exact tells_callLoopExt argument token
  | nop | setRegister | pushPool | initLevel | allocLevelPool | freeLevelPool | initPlayer
  | setPlayerStartPos | unloadPlayerArea | updateObjects | present =>
    exact .of_silent fun ledger table => rfl

theorem Tells.reports {run : Machine E → Outcome E} (tells : Tells run machine)
    (table : (run machine).machine.dispatch = machine.dispatch) : Reports run machine := by
  obtain ⟨said, same⟩ := tells
  refine ⟨said, fun ledger => (same ledger machine.dispatch).trans ?_⟩
  rw [← table]
  rfl

theorem reports_exec (instruction : Instruction) (following : Pointer) (machine : Machine E) :
    Reports (exec instruction following) machine :=
  (tells_exec instruction following machine).reports
    (exec_sameExcept instruction following machine).dispatch

theorem followOverrides_withLedger (pointer : Pointer) (machine : Machine E) :
    ∃ said, ∀ ledger, (machine.withLedger ledger).followOverrides pointer =
      Prod.map id (withLedger (ledger.told said)) (machine.followOverrides pointer) := by
  have owner ledger : (machine.withLedger ledger).activeOwner = machine.activeOwner := rfl
  have overrides ledger : (machine.withLedger ledger).overrides = machine.overrides := rfl
  simp only [followOverrides, owner, overrides]
  cases (machine.overrides.resolve pointer).owner with
  | none => exact ⟨[], fun ledger => rfl⟩
  | some author =>
    simp only
    split
    next => exact ⟨[_], fun ledger => rfl⟩
    next => exact ⟨[], fun ledger => rfl⟩

theorem selectTable_withLedger (machine : Machine E) :
    ∃ said, ∀ ledger, (machine.withLedger ledger).selectTable =
      Prod.map id (withLedger (ledger.told said)) machine.selectTable := by
  have dispatch ledger : (machine.withLedger ledger).dispatch = machine.dispatch := rfl
  simp only [selectTable, dispatch]
  cases machine.dispatch.tampered with
  | nil => exact ⟨[], fun ledger => rfl⟩
  | cons => exact ⟨[_], fun ledger => rfl⟩

/-- What steps have nothing to do with except that diagnostics are told to it. -/
structure Aside (E : Embedding) (ι : Type) where
  put : ι → Machine E → Machine E
  told : List Diagnostic → ι → ι
  told_nil : ∀ other, told [] other = other
  told_append : ∀ said more other, told (said ++ more) other = told more (told said other)
  alike : ∀ canonical other machine, LooksAlike canonical machine (put other machine)
  setStatus : ∀ status other machine,
    (put other machine).setStatus status = put other (machine.setStatus status)
  follows : ∀ pointer machine, ∃ said, ∀ other, (put other machine).followOverrides pointer =
    Prod.map id (put (told said other)) (machine.followOverrides pointer)

namespace Aside

variable {ι : Type} (aside : Aside E ι)

def putOutcome (other : ι) (outcome : Outcome E) : Outcome E :=
  ⟨aside.put other outcome.machine, outcome.flow⟩

def Hears (run : Machine E → Outcome E) (machine : Machine E) : Prop :=
  ∃ said, ∀ other, run (aside.put other machine) = aside.putOutcome (aside.told said other) (run machine)

theorem settle {run : Machine E → Outcome E} (hears : aside.Hears run machine)
    (following cursor : Pointer) :
    ∃ said, ∀ other, Machine.settle following cursor (run (aside.put other machine)) =
      Prod.map id (aside.put (aside.told said other)) (Machine.settle following cursor (run machine)) := by
  obtain ⟨said, same⟩ := hears
  simp only [same, Machine.settle, putOutcome]
  cases (run machine).flow with
  | error fault => exact ⟨said, fun other => rfl⟩
  | ok flow =>
    obtain ⟨more, followed⟩ := aside.follows (flow.target following cursor) (run machine).machine
    refine ⟨said ++ more, fun other => ?_⟩
    simp only [followed, aside.told_append]
    rfl

end Aside

def ledgerAside : Aside E Ledger where
  put := withLedger
  told := Ledger.told
  told_nil _ := rfl
  told_append := Ledger.told_append
  alike _ _ _ := ⟨rfl, rfl, fun _ => rfl⟩
  setStatus _ _ _ := rfl
  follows pointer machine := machine.followOverrides_withLedger pointer

variable [Patches E]

theorem reports_dispatchCommand (opcode : Opcode) (command : Command) :
    Reports (dispatchCommand (.canonical opcode) command) machine := by
  cases read : Instruction.read opcode command with
  | error fault =>
    refine ⟨[], fun ledger => ?_⟩
    simp only [dispatchCommand, read]
    rfl
  | ok instruction =>
    simp only [Reports, dispatchCommand, read]
    exact reports_exec instruction command.next machine

variable {canonical : Bool} {cursor : Pointer}

theorem Aside.step {ι : Type} (aside : Aside E ι) (handled : ∀ handler command,
      machine.dispatched? canonical cursor = some (handler, command) →
        aside.Hears (dispatchCommand handler command) machine) :
    ∃ said, ∀ other, (aside.put other machine).step canonical cursor =
      Prod.map id (aside.put (aside.told said other)) (machine.step canonical cursor) := by
  have alike other := aside.alike canonical other machine
  cases found : machine.dispatched? canonical cursor with
  | some called =>
    have again other := ((alike other).dispatched? cursor).trans found
    simp only [step_of_dispatched found, step_of_dispatched (again _)]
    exact aside.settle (handled called.1 called.2 found) called.2.next cursor
  | none =>
    refine ⟨[], fun other => ?_⟩
    rw [aside.told_nil]
    rcases step_of_undispatched found with paused | ⟨fault, faulted⟩
    · rw [paused _ (alike other), paused _ (.refl canonical machine), aside.setStatus]
      rfl
    · rw [faulted _ (alike other), faulted _ (.refl canonical machine)]
      rfl

/-- Every step adds its reports to the ledger, and does and reports the same under any other. -/
theorem step_withLedger (table : machine.dispatch = .canonical) (canonical : Bool)
    (cursor : Pointer) :
    ∃ said, (machine.step canonical cursor).2.ledger = machine.ledger.told said ∧
      ∀ ledger, (machine.withLedger ledger).step canonical cursor =
        Prod.map id (withLedger (ledger.told said)) (machine.step canonical cursor) := by
  have handled handler command
      (found : machine.dispatched? canonical cursor = some (handler, command)) :
      Reports (dispatchCommand handler command) machine := by
    obtain ⟨opcode, _, rfl⟩ := canonical_of_dispatched (.inr table) found
    exact reports_dispatchCommand opcode command
  obtain ⟨said, same⟩ : ∃ said, ∀ ledger, (machine.withLedger ledger).step canonical cursor =
      Prod.map id (withLedger (ledger.told said)) (machine.step canonical cursor) :=
    ledgerAside.step handled
  refine ⟨said, ?_, same⟩
  have itself := same machine.ledger
  rw [withLedger_ledger] at itself
  rw [itself]
  rfl

end Machine

end StageScript
