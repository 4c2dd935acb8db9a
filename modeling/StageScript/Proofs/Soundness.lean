import StageScript.Proofs.Accounting
import StageScript.Proofs.Calls
import StageScript.Proofs.Staleness

/-!
What machines keep whatever they run. Their stacks are built by pushes and pops, their memories have
right accounts, their levels are made by the few operations on levels, and their delays do not go
below zero. Scripts keep all this, and so do hosts, which get at the parts of a machine through their
operations only.
-/

namespace StageScript

inductive Pool.Made : Pool → Prop where
  | ofCapacity (capacity : Nat) : Made (.ofCapacity capacity)
  | allocate {pool after : Pool} {bytes : Nat} (made : Made pool)
    (allocated : pool.allocate bytes = .ok after) : Made after
  | freeze {pool : Pool} (made : Made pool) : Made pool.freeze

theorem Pool.Made.used_le {pool : Pool} (made : pool.Made) : pool.used ≤ pool.capacity := by
  induction made with
  | ofCapacity capacity => exact Nat.zero_le _
  | allocate _ allocated ih => exact used_le_capacity_of_allocate ih allocated
  | freeze => exact Nat.le_refl _

namespace Level

/-- The levels that can be made. Their pool comes from a pool's operations, and an area is filled
only once it has been put into its slot; for the rest a level can be anything. -/
inductive Made : Level → Prop where
  | ofPool (bytes : Nat) : Made (.ofPool bytes)
  | beginArea {level : Level} (area : Area) (made : Made level) : Made (level.beginArea area)
  | endArea {level : Level} (made : Made level) : Made { level with current := none }
  | charge {level : Level} {pool : Pool} (made : Made level) (pooled : pool.Made) :
    Made { level with pool }
  | edit {level after : Level} (made : Made level) (current : after.current = level.current)
    (pool : after.pool = level.pool) : Made after

namespace Made

variable {level : Level}

theorem pool (made : level.Made) : level.pool.Made := by
  induction made with
  | ofPool bytes => exact .ofCapacity bytes
  | @beginArea level area _ ih =>
    have same : (level.beginArea area).pool = level.pool := by
      unfold Level.beginArea
      split <;> rfl
    rw [same]
    exact ih
  | endArea _ ih => exact ih
  | charge _ pooled _ => exact pooled
  | edit _ _ same ih => exact same ▸ ih

theorem current_lt (made : level.Made) {index : UInt8} (filled : level.current = some index) :
    index.toNat < areaCount := by
  induction made with
  | ofPool => cases filled
  | @beginArea level area _ ih =>
    unfold Level.beginArea at filled
    split at filled
    next inside =>
      cases filled
      exact inside
    next => exact ih filled
  | endArea => cases filled
  | charge _ _ ih => exact ih filled
  | edit _ same _ ih => exact ih (same ▸ filled)

theorem clearAreas (made : level.Made) : level.clearAreas.Made := by
  have emptied : Made { level with current := none, pool := .ofCapacity level.pool.capacity } :=
    made.endArea.charge (.ofCapacity _)
  exact emptied.edit rfl rfl

theorem allocate {pool : Pool} {bytes : Nat} (made : level.Made)
    (allocated : level.pool.allocate bytes = .ok pool) : Made { level with pool } :=
  made.charge (made.pool.allocate allocated)

end Made

end Level

def Embedding.HostsMakeLevels (E : Embedding) : Prop :=
  ∀ (function : E.HostFn) (context : HostContext) (argument : Int16) (register : Int32),
    context.level.Made → (E.callHost function context argument register).context.level.Made

namespace Machine

variable {E : Embedding} {machine after : Machine E}

/-- What every machine that is run and tended keeps. -/
structure Sound (machine : Machine E) : Prop where
  stack : machine.stack.Built
  memory : machine.memory.Accounted
  level : machine.level.Made
  delayPrimary : 0 ≤ machine.context.delayPrimary
  delaySecondary : 0 ≤ machine.context.delaySecondary

def Makes (change : Except Diagnostic (Machine E)) : Prop :=
  ∀ after, change = .ok after → after.level.Made

section Levels

variable (made : machine.level.Made)
include made

theorem attempt_made {change : Except Diagnostic (Machine E)} (makes : Makes change) :
    (machine.attempt change).machine.level.Made :=
  attempt_keeps (fun _ => made) makes

theorem editArea_makes (opcode : Opcode) (change : Area → Area) :
    Makes (machine.editArea opcode change) := by
  intro after changed
  unfold editArea at changed
  split at changed
  next => cases changed
  next =>
    cases changed
    exact made.edit rfl rfl

theorem addEntry_makes (opcode : Opcode) (cost : Nat) (link : Area → Area) :
    Makes (machine.addEntry opcode cost link) := by
  intro after added
  unfold addEntry at added
  split at added
  next => cases added
  next =>
    split at added
    next => cases added
    next allocated =>
      cases added
      exact (made.allocate allocated).edit rfl rfl

theorem placeSpawn_makes (opcode : Opcode) (spawn : Spawn) :
    Makes (machine.placeSpawn opcode spawn) := by
  intro after placed
  unfold placeSpawn at placed
  split at placed
  next => exact addEntry_makes made _ _ _ after placed
  next =>
    cases placed
    exact made

theorem invokeHost_made (hosts : E.HostsMakeLevels) {id : UInt32} {argument : Int16} {value : Int32}
    (called : machine.invokeHost id argument = .ok (value, after)) : after.level.Made := by
  unfold invokeHost at called
  split at called
  next => cases called
  next function _ =>
    cases called
    exact hosts function _ argument _ made

end Levels

section Commands

variable (made : machine.level.Made)
include made

theorem call_made (hosts : E.HostsMakeLevels) (argument : Int16) (function : UInt32) :
    (machine.call argument function).machine.level.Made := by
  unfold call
  split
  next => exact made
  next value called answered =>
    have replied := invokeHost_made made hosts answered
    exact replied

theorem callLoop_made (hosts : E.HostsMakeLevels) (argument : Int16) (function : UInt32) :
    (machine.callLoop argument function).machine.level.Made := by
  unfold callLoop
  split
  next => exact made
  next value called answered =>
    have replied := invokeHost_made made hosts answered
    rw [(holdWhileZero_sameExcept value (called.setRegister value)).level (by simp)]
    exact replied

theorem clearLevel_made : machine.clearLevel.machine.level.Made := by
  simp only [clearLevel, next]
  rw [(popCheckpoint_sameExcept .clearLevel _).level (by simp)]
  exact made.clearAreas

theorem beginArea_made (index : UInt8) (geometry : Address) :
    (machine.beginArea index geometry).machine.level.Made := by
  unfold beginArea
  split
  next => exact made
  next =>
    split
    next => exact made
    next root scene _ => split <;> exact made.beginArea _

theorem endArea_made : machine.endArea.machine.level.Made := by
  refine attempt_made made fun after ended => ?_
  split at ended
  next => cases ended
  next =>
    cases ended
    exact made.endArea

theorem loadArea_made (index : UInt8) : (machine.loadArea index).machine.level.Made := by
  refine attempt_made made fun after loaded => ?_
  split at loaded
  next => cases loaded
  next =>
    cases loaded
    exact made.edit rfl rfl

theorem unloadArea_made : machine.unloadArea.machine.level.Made := by
  unfold unloadArea
  split
  next => exact made
  next => exact made.edit rfl rfl

theorem getOrSet_made (mode var : UInt8) : (machine.getOrSet mode var).machine.level.Made := by
  refine attempt_made made fun after changed => ?_
  split at changed
  next => cases changed
  next =>
    split at changed
    next =>
      cases changed
      exact made.edit rfl rfl
    next =>
      split at changed
      next =>
        cases changed
        exact made
      next => cases changed

theorem placeObjectExt2_made (position angle : Vec3) (behaviorArg modelToken : UInt32)
    (behaviorToken : Except ReadFault UInt32) (acts : UInt8) :
    (machine.placeObjectExt2 position angle behaviorArg modelToken behaviorToken
      acts).machine.level.Made := by
  unfold placeObjectExt2
  split
  next => exact made
  next =>
    split
    next => exact made
    next => exact attempt_made made (ensures_bind fun _ => placeSpawn_makes made _ _)

theorem exec_made (hosts : E.HostsMakeLevels) (instruction : Instruction) (following : Pointer) :
    (machine.exec instruction following).machine.level.Made := by
  by_cases absent : Part.level ∉ instruction.footprint
  · rw [(exec_sameExcept instruction following machine).level absent]
    exact made
  · cases instruction with
    | call argument function => exact call_made made hosts argument function
    | callLoop argument function => exact callLoop_made made hosts argument function
    | initLevel => exact made.clearAreas
    | clearLevel => exact clearLevel_made made
    | allocLevelPool => exact made.charge (.ofCapacity _)
    | freeLevelPool => exact made.charge made.pool.freeze
    | setPlayerStartPos spawn => exact made.edit rfl rfl
    | beginArea index geometry => exact beginArea_made made index geometry
    | loadArea index => exact loadArea_made made index
    | endArea => exact endArea_made made
    | placeObject spawn => exact attempt_made made (placeSpawn_makes made _ _)
    | createWarpNode node => exact attempt_made made (addEntry_makes made _ _ _)
    | createPaintingWarpNode node =>
      exact attempt_made made (ensures_inSlot _ _ _ fun _ => addEntry_makes made _ _ _)
    | createInstantWarp index warp =>
      exact attempt_made made (ensures_inSlot _ _ _ fun _ => addEntry_makes made _ _ _)
    | createWhirlpool index whirlpool =>
      exact attempt_made made (ensures_inSlot _ _ _ fun _ => addEntry_makes made _ _ _)
    | showDialog index dialog =>
      exact attempt_made made (ensures_inSlot _ _ _ fun _ => editArea_makes made _ _)
    | setTerrainData data => exact attempt_made made (editArea_makes made _ _)
    | setRooms data => exact attempt_made made (editArea_makes made _ _)
    | setTerrainType terrain => exact attempt_made made (editArea_makes made _ _)
    | setMusic music => exact attempt_made made (editArea_makes made _ _)
    | setMacroObjects data => exact attempt_made made (editArea_makes made _ _)
    | placeObjectExt model position angle behaviorArg behaviorToken acts =>
      exact attempt_made made (ensures_bind fun _ => placeSpawn_makes made _ _)
    | placeObjectExt2 position angle behaviorArg modelToken behaviorToken acts =>
      exact placeObjectExt2_made made position angle behaviorArg modelToken behaviorToken acts
    | initPlayer player => exact made.edit rfl rfl
    | unloadArea => exact unloadArea_made made
    | getOrSet mode var => exact getOrSet_made made mode var
    | _ => exact absurd (by simp [Instruction.footprint]) absent

end Commands

structure KeepsDelays (before after : Machine E) : Prop where
  primary : after.context.delayPrimary = before.context.delayPrimary
  secondary : after.context.delaySecondary = before.context.delaySecondary

namespace KeepsDelays

theorem of_context (same : after.context = machine.context) : machine.KeepsDelays after where
  primary := by rw [same]
  secondary := by rw [same]

theorem trans {between : Machine E} (first : machine.KeepsDelays between)
    (second : between.KeepsDelays after) : machine.KeepsDelays after where
  primary := second.primary.trans first.primary
  secondary := second.secondary.trans first.secondary

theorem setRegister (kept : machine.KeepsDelays after) (value : Int32) :
    machine.KeepsDelays (after.setRegister value) :=
  ⟨kept.primary, kept.secondary⟩

end KeepsDelays

theorem holdWhileZero_keepsDelays (value : Int32) (machine : Machine E) :
    machine.KeepsDelays (machine.holdWhileZero value).machine := by
  unfold holdWhileZero
  split <;> exact ⟨rfl, rfl⟩

theorem keepsDelays_of_invokeHost {id : UInt32} {argument : Int16} {value : Int32}
    (called : machine.invokeHost id argument = .ok (value, after)) : machine.KeepsDelays after :=
  .of_context ((sameExcept_of_invokeHost called).context (by simp))

theorem keepsDelays_of_callToken {opcode : Opcode} {argument : Int16} {token : UInt32}
    {value : Int32} (called : machine.callToken opcode argument token = .ok (value, after)) :
    machine.KeepsDelays after := by
  simp only [callToken, bind, Except.bind] at called
  split at called
  next => cases called
  next =>
    split at called
    next =>
      cases called
      exact ⟨rfl, rfl⟩
    next => cases called

theorem exec_keepsDelays {instruction : Instruction} (awake : ∀ frames,
    instruction ≠ .sleep frames ∧ instruction ≠ .sleepBeforeExit frames) (following : Pointer)
    (machine : Machine E) : machine.KeepsDelays (machine.exec instruction following).machine := by
  by_cases absent : Part.context ∉ instruction.footprint
  · exact .of_context ((exec_sameExcept instruction following machine).context absent)
  · cases instruction with
    | sleep frames => exact absurd rfl (awake frames).1
    | sleepBeforeExit frames => exact absurd rfl (awake frames).2
    | setRegister value => exact ⟨rfl, rfl⟩
    | exit =>
      rcases machine.exit_cases with ⟨_, same⟩ | ⟨_, _, same⟩ | ⟨resume, stack, _, same⟩
      · rw [exec, same]
        exact ⟨rfl, rfl⟩
      · rw [exec, same]
        exact ⟨rfl, rfl⟩
      · have kept := (popCheckpoint_sameExcept .exit { machine with stack }).context (by simp)
        rw [exec, same]
        exact .of_context kept
    | call argument function =>
      simp only [exec, call]
      split
      next => exact ⟨rfl, rfl⟩
      next value called answered => exact (keepsDelays_of_invokeHost answered).setRegister value
    | callLoop argument function =>
      simp only [exec, callLoop]
      split
      next => exact ⟨rfl, rfl⟩
      next value called answered =>
        have replied := (keepsDelays_of_invokeHost answered).setRegister value
        exact replied.trans (holdWhileZero_keepsDelays value _)
    | getOrSet mode var =>
      simp only [exec, getOrSet]
      split
      next => exact ⟨rfl, rfl⟩
      next =>
        split
        next => exact ⟨rfl, rfl⟩
        next => split <;> exact ⟨rfl, rfl⟩
    | callExt argument functionToken =>
      simp only [exec, callExt]
      cases called : machine.callToken .callExt argument functionToken with
      | error => exact ⟨rfl, rfl⟩
      | ok reply => exact keepsDelays_of_callToken called
    | callLoopExt argument functionToken =>
      simp only [exec, callLoopExt]
      split
      next => exact ⟨rfl, rfl⟩
      next value called answered =>
        exact (keepsDelays_of_callToken answered).trans (holdWhileZero_keepsDelays value called)
    | _ => exact absurd (by simp [Instruction.footprint]) absent

theorem countDown_nonneg {counter : Int32} (above : 0 ≤ counter) (frames : Int16) :
    0 ≤ (countDown counter frames).1 := by
  have zero : Int32.toInt 0 = 0 := rfl
  have one : Int32.toInt 1 = 1 := rfl
  rw [Int32.le_iff_toInt_le, zero] at above ⊢
  unfold countDown
  split
  next =>
    split
    next => exact Int.le_refl 0
    next some =>
      have positive : 0 ≤ frames.toInt := by
        by_contra below
        have low : Int16.toInt 0 = 0 := rfl
        exact some (Int16.le_iff_toInt_le.mpr (by omega))
      simpa only [Int16.toInt_toInt32] using positive
  next more =>
    have counted : counter.toInt ≠ 0 := fun same => more (Int32.toInt_inj.mp same)
    have high := counter.toInt_lt
    show 0 ≤ (counter - 1).toInt
    rw [Int32.toInt_sub, one, Int.bmod_eq_of_le (by omega) (by omega)]
    omega

theorem CallsMemory.accounted (called : machine.CallsMemory after)
    (accounted : machine.memory.Accounted) : after.memory.Accounted := by
  obtain ⟨operations, led⟩ := called
  rw [led]
  exact Memory.calls_induction Memory.Accounted operations accounted fun accounted =>
    accounted.called

theorem Sound.exec (hosts : E.HostsMakeLevels) (sound : machine.Sound) (instruction : Instruction)
    (following : Pointer) : (machine.exec instruction following).machine.Sound := by
  have called : machine.CallsMemory (machine.exec instruction following).machine :=
    (machine.exec_memory_moved instruction following).exists_calls
  have delays : 0 ≤ (machine.exec instruction following).machine.context.delayPrimary ∧
      0 ≤ (machine.exec instruction following).machine.context.delaySecondary := by
    have primary := sound.delayPrimary
    have secondary := sound.delaySecondary
    by_cases awake : ∀ frames, instruction ≠ .sleep frames ∧ instruction ≠ .sleepBeforeExit frames
    · have kept := exec_keepsDelays awake following machine
      rw [kept.primary, kept.secondary]
      exact ⟨primary, secondary⟩
    · cases instruction with
      | sleep frames =>
        have counted := countDown_nonneg primary frames
        simp only [Machine.exec, sleep]
        split <;> exact ⟨counted, secondary⟩
      | sleepBeforeExit frames =>
        have counted := countDown_nonneg secondary frames
        simp only [Machine.exec, sleepBeforeExit]
        split <;> exact ⟨primary, counted⟩
      | _ => exact absurd (by simp) awake
  exact {
    stack := sound.stack.moved (machine.exec_moved instruction following)
    memory := called.accounted sound.memory
    level := exec_made sound.level hosts instruction following
    delayPrimary := delays.1
    delaySecondary := delays.2 }

theorem Sound.of_same (sound : machine.Sound) (stack : after.stack = machine.stack)
    (memory : after.memory = machine.memory) (level : after.level = machine.level)
    (delays : machine.KeepsDelays after) : after.Sound where
  stack := stack ▸ sound.stack
  memory := memory ▸ sound.memory
  level := level ▸ sound.level
  delayPrimary := delays.primary ▸ sound.delayPrimary
  delaySecondary := delays.secondary ▸ sound.delaySecondary

theorem Sound.of_sameExcept {parts : List Part} (sound : machine.Sound)
    (same : machine.SameExcept parts after) (delays : machine.KeepsDelays after)
    (others : .stack ∉ parts ∧ .memory ∉ parts ∧ .level ∉ parts) : after.Sound :=
  sound.of_same (same.stack others.1) (same.memory others.2.1) (same.level others.2.2) delays

/-- A change that a host can make to a machine. It gets at the memory by calls and at the level by
the operations on levels, and at the stack and the delays not at all. -/
structure Tends (before after : Machine E) : Prop where
  stack : after.stack = before.stack
  memory : before.CallsMemory after
  level : before.level.Made → after.level.Made
  delays : before.KeepsDelays after

theorem Tends.refl (machine : Machine E) : machine.Tends machine :=
  ⟨rfl, .of_memory rfl, id, ⟨rfl, rfl⟩⟩

theorem Tends.sound (tends : machine.Tends after) (sound : machine.Sound) : after.Sound where
  stack := tends.stack ▸ sound.stack
  memory := tends.memory.accounted sound.memory
  level := tends.level sound.level
  delayPrimary := tends.delays.primary ▸ sound.delayPrimary
  delaySecondary := tends.delays.secondary ▸ sound.delaySecondary

/-- What a handler of the host can do to a machine: tend it, and have it run instructions. -/
inductive Handles : Machine E → Machine E → Prop where
  | tend {before after : Machine E} (tends : before.Tends after) : Handles before after
  | exec (before : Machine E) (instruction : Instruction) (following : Pointer) :
    Handles before (before.exec instruction following).machine
  | trans {before between after : Machine E} (first : Handles before between)
    (second : Handles between after) : Handles before after

theorem Handles.sound (hosts : E.HostsMakeLevels) (handles : machine.Handles after)
    (sound : machine.Sound) : after.Sound := by
  induction handles with
  | tend tends => exact tends.sound sound
  | exec before instruction following => exact sound.exec hosts instruction following
  | trans _ _ first second => exact second (first sound)

def PatchesHandle (E : Embedding) [Patches E] : Prop :=
  ∀ (patch : E.Patch) (command : Command) (machine : Machine E),
    machine.Handles (Patches.run patch command machine).machine

theorem Sound.followOverrides (sound : machine.Sound) (pointer : Pointer) :
    (machine.followOverrides pointer).2.Sound := by
  have same := machine.followOverrides_sameExcept pointer
  exact sound.of_sameExcept same (.of_context (same.context (by simp))) (by simp)

theorem Sound.start (sound : machine.Sound) (cursor : Pointer) :
    (Run.start cursor machine).machine.Sound := by
  have begun : machine.begin.Sound := sound.of_same rfl rfl rfl ⟨rfl, rfl⟩
  have selected : machine.begin.selectTable.2.Sound := by
    have same := machine.begin.selectTable_sameExcept
    exact begun.of_sameExcept same (.of_context (same.context (by simp))) (by simp)
  exact selected.followOverrides cursor

theorem sound_ofParts {memory : Memory} (accounted : memory.Accounted) (config : Config)
    (tokens : TokenTable E.TokenFn) (scene : Scene) :
    (ofParts config memory tokens scene : Machine E).Sound where
  stack := .empty
  memory := accounted
  level := .ofPool _
  delayPrimary := Int32.le_refl 0
  delaySecondary := Int32.le_refl 0

variable [Patches E]

theorem Sound.step (hosts : E.HostsMakeLevels) (patches : PatchesHandle E) (sound : machine.Sound)
    (canonical : Bool) (cursor : Pointer) : (machine.step canonical cursor).2.Sound := by
  have kept : machine.KeepsDelays (machine.setStatus .paused) := ⟨rfl, rfl⟩
  refine step_keeps sound (sound.of_same rfl rfl rfl kept) ?_ ?_
  · intro handler command _
    cases handler with
    | patch patch => exact (patches patch command machine).sound hosts sound
    | canonical opcode => exact dispatchCommand_keeps sound (sound.exec hosts · command.next)
  · intro pointer after settled
    exact settled.followOverrides pointer

end Machine

namespace Run

variable {E : Embedding} [Patches E] {run : Run E}

/-- The runs that a machine over a content image can come to. Its host tends it before the first
execution and between any two, and each execution starts wherever the host likes. -/
inductive Attained : Run E → Prop where
  | start {machine : Machine E} (image : Bytes) (capacity : Nat) (operations : List Memory.Operation)
    (config : Config) (tokens : TokenTable E.TokenFn) (scene : Scene) (pointer : Pointer)
    (tended : (Machine.ofParts config ((Memory.ofImage image capacity).calls operations) tokens
      scene).Tends machine) : Attained (Run.start pointer machine)
  | step {run next : Run E} (attained : Attained run) (step : run.Step next) : Attained next
  | restart {run : Run E} {ending : Machine.Ending E} {machine : Machine E} (pointer : Pointer)
    (attained : Attained run) (ended : run.Ends ending)
    (tended : (Machine.finish ending).2.Tends machine) : Attained (Run.start pointer machine)

theorem Attained.sound (hosts : E.HostsMakeLevels) (patches : Machine.PatchesHandle E)
    (attained : run.Attained) : run.machine.Sound := by
  induction attained with
  | start image capacity operations config tokens scene pointer tended =>
    have accounted := (Memory.accounted_and_mapped image capacity operations).1
    exact (tended.sound (Machine.sound_ofParts accounted config tokens scene)).start pointer
  | @step run next _ step ih =>
    exact step.keeps (ih.step hosts patches run.canonical run.cursor)
  | @restart run ending machine pointer _ ended tended ih =>
    have stopped : ending.machine.Sound :=
      ended.keeps ih (ih.step hosts patches run.canonical run.cursor)
    have finished : (Machine.finish ending).2.Sound :=
      stopped.of_same rfl rfl rfl ⟨rfl, rfl⟩
    exact (tended.sound finished).start pointer

end Run

end StageScript
