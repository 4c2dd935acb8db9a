import StageScript.Proofs.Interior
import StageScript.Proofs.Operands
import StageScript.Proofs.Scopes

/-!
Changes that commands do not notice. Commands have to do with the memory through a few of its
operations, and with the overrides through host functions. Where these come to the same under a change
of the memory and the overrides, so does every command that does not look at the bytes behind it. Once
its operands are read, no command has anything to do with the byte order of extensions.
-/

namespace StageScript

/-- A change of the memory of a machine, of its overrides, and of the order that its layout has for the
operands of extensions. -/
structure Disguise where
  memory : Memory → Memory
  overrides : Registry → Registry
  order : ByteOrder → ByteOrder

def Layout.disguised (disguise : Disguise) (layout : Layout) : Layout :=
  layout.withOrder (disguise.order layout.extensionOrder)

namespace Disguise

/-- The operations of a memory that commands use come to the same under the disguise; those that load
content, as long as the memory is kept in a certain state. -/
structure Fits (disguise : Disguise) (kept : Memory → Prop) : Prop where
  available : ∀ memory, (disguise.memory memory).available = memory.available
  resolve? : ∀ memory address, (disguise.memory memory).resolve? address = memory.resolve? address
  pushState : ∀ memory, (disguise.memory memory).pushState = disguise.memory memory.pushState
  popState : ∀ memory, (disguise.memory memory).popState = memory.popState.map disguise.memory
  loadRange : ∀ memory, kept memory → ∀ load compression,
    (disguise.memory memory).loadRange load compression =
      (memory.loadRange load compression).map (Prod.map id disguise.memory)
  loadFixed : ∀ memory, kept memory → ∀ dest start stop,
    (disguise.memory memory).loadFixed dest start stop =
      (memory.loadFixed dest start stop).map (Prod.map id disguise.memory)
  kept_pushState : ∀ memory, kept memory → kept memory.pushState
  kept_popState : ∀ memory after, kept memory → memory.popState = .ok after → kept after

theorem Fits.of_memory (disguise : Disguise) (same : disguise.memory = id) :
    disguise.Fits fun _ => True where
  available memory := by rw [same]; rfl
  resolve? memory address := by rw [same]; rfl
  pushState memory := by rw [same]; rfl
  popState memory := by
    rw [same]
    cases popped : memory.popState <;> exact popped
  loadRange memory _ load compression := by
    rw [same]
    cases loads : memory.loadRange load compression <;> exact loads
  loadFixed memory _ dest start stop := by
    rw [same]
    cases loads : memory.loadFixed dest start stop <;> exact loads
  kept_pushState _ holds := holds
  kept_popState _ _ holds _ := holds

/-- A host function does the same under the disguised overrides as under those there are. -/
def Fools {E : Embedding} (disguise : Disguise) (function : E.HostFn) : Prop :=
  ∀ context argument register,
    E.callHost function { context with overrides := disguise.overrides context.overrides } argument
        register =
      let reply := E.callHost function context argument register
      { reply with context :=
        { reply.context with overrides := disguise.overrides reply.context.overrides } }

end Disguise

/-- A command that looks at the bytes of the commands behind it. -/
def Instruction.looksAhead (register : Int32) : Instruction → Bool
  | .skip => true
  | .skipIf condition => !condition.holds register
  | _ => false

variable {E : Embedding}

def Machine.disguised (disguise : Disguise) (machine : Machine E) : Machine E :=
  { machine with
    config := { machine.config with layout := machine.config.layout.disguised disguise }
    memory := disguise.memory machine.memory
    overrides := disguise.overrides machine.overrides }

def Outcome.disguised (disguise : Disguise) (outcome : Outcome E) : Outcome E :=
  ⟨outcome.machine.disguised disguise, outcome.flow⟩

namespace Machine

variable {disguise : Disguise} {machine : Machine E}

theorem attempt_disguised {changed change : Except Diagnostic (Machine E)}
    (same : changed = change.map (disguised disguise)) :
    (machine.disguised disguise).attempt changed = (machine.attempt change).disguised disguise := by
  rw [same]
  cases change <;> rfl

theorem push_disguised (frame : Frame) (flow : Flow) :
    (machine.disguised disguise).push frame flow = (machine.push frame flow).disguised disguise := by
  simp only [push, disguised]
  cases machine.stack.push frame <;> rfl

theorem whenHolds_disguised {jump : Address → Machine E → Outcome E} (condition : Condition)
    (target : Except ReadFault Address) (same : ∀ address,
      jump address (machine.disguised disguise) = (jump address machine).disguised disguise) :
    (machine.disguised disguise).whenHolds condition target jump =
      (machine.whenHolds condition target jump).disguised disguise := by
  simp only [whenHolds, same, apply_ite (Outcome.disguised disguise)]
  cases target <;> rfl

theorem ret_disguised : (machine.disguised disguise).ret = machine.ret.disguised disguise := by
  simp only [ret, disguised]
  cases machine.stack.popReturn <;> rfl

theorem loopRepeat_disguised :
    (machine.disguised disguise).loopRepeat = machine.loopRepeat.disguised disguise := by
  simp only [loopRepeat, disguised]
  cases machine.stack.popLoop with
  | error fault => rfl
  | ok popped =>
    simp only [apply_ite (Outcome.disguised disguise)]
    rfl

theorem loopUntil_disguised (condition : Condition) :
    (machine.disguised disguise).loopUntil condition =
      (machine.loopUntil condition).disguised disguise := by
  simp only [loopUntil, disguised]
  cases machine.stack.popLoop with
  | error fault => rfl
  | ok popped =>
    simp only [apply_ite (Outcome.disguised disguise)]
    rfl

theorem skipPast_disguised (passedOver : Option Opcode → Bool) {following : Pointer}
    (seen : (disguise.memory machine.memory).buffer? following.buffer =
      machine.memory.buffer? following.buffer) :
    (machine.disguised disguise).skipPast passedOver following =
      (machine.skipPast passedOver following).disguised disguise := by
  simp only [skipPast, disguised, Layout.disguised, seen, pastFirst_withOrder]
  cases machine.memory.buffer? following.buffer with
  | none => rfl
  | some bytes =>
    simp only
    cases pastFirst machine.config.layout bytes passedOver following <;> rfl

theorem skipIf_disguised {condition : Condition} {following : Pointer}
    (seen : ¬ condition.holds machine.context.register →
      (disguise.memory machine.memory).buffer? following.buffer =
        machine.memory.buffer? following.buffer) :
    (machine.disguised disguise).skipIf condition following =
      (machine.skipIf condition following).disguised disguise := by
  have register : (machine.disguised disguise).context.register = machine.context.register := rfl
  unfold skipIf
  rw [register]
  split
  next => rfl
  next fails => exact skipPast_disguised _ (seen fails)

theorem holdWhileZero_disguised (value : Int32) (machine : Machine E) :
    (machine.disguised disguise).holdWhileZero value =
      (machine.holdWhileZero value).disguised disguise := by
  simp only [holdWhileZero, apply_ite (Outcome.disguised disguise)]
  rfl

section Hosts

variable (fooled : ∀ (id : UInt32) (function : E.HostFn), machine.hosts[id]? = some function →
  disguise.Fools function)
include fooled

theorem invokeHost_disguised (id : UInt32) (argument : Int16) :
    (machine.disguised disguise).invokeHost id argument =
      (machine.invokeHost id argument).map fun reply => (reply.1, reply.2.disguised disguise) := by
  simp only [invokeHost, disguised]
  cases known : machine.hosts[id]? with
  | none => rfl
  | some function =>
    have answered := fooled id function known
      ⟨machine.overrides, machine.level, machine.activeOwner, #[]⟩ argument machine.context.register
    simp only at answered
    simp only [answered]
    rfl

theorem call_disguised (argument : Int16) (function : UInt32) :
    (machine.disguised disguise).call argument function =
      (machine.call argument function).disguised disguise := by
  simp only [call, invokeHost_disguised fooled]
  cases machine.invokeHost function argument <;> rfl

theorem callLoop_disguised (argument : Int16) (function : UInt32) :
    (machine.disguised disguise).callLoop argument function =
      (machine.callLoop argument function).disguised disguise := by
  simp only [callLoop, invokeHost_disguised fooled]
  cases machine.invokeHost function argument with
  | error diagnostic => rfl
  | ok reply => exact holdWhileZero_disguised reply.1 (reply.2.setRegister reply.1)

end Hosts

section Memory

variable {kept : Memory → Prop} (fits : disguise.Fits kept)
include fits

theorem pushCheckpoint_disguised :
    (machine.disguised disguise).pushCheckpoint = machine.pushCheckpoint.disguised disguise := by
  simp only [pushCheckpoint, disguised, fits.pushState]

theorem popCheckpoint_disguised (opcode : Opcode) (machine : Machine E) :
    (machine.disguised disguise).popCheckpoint opcode =
      (machine.popCheckpoint opcode).disguised disguise := by
  simp only [popCheckpoint, disguised, fits.popState]
  cases machine.memory.popState <;> rfl

theorem jump_disguised (target : Address) :
    (machine.disguised disguise).jump target = (machine.jump target).disguised disguise := by
  simp only [jump, disguised, fits.resolve?]
  cases machine.memory.resolve? target <;> rfl

theorem jumpLink_disguised (target : Address) (back : Pointer) :
    (machine.disguised disguise).jumpLink target back =
      (machine.jumpLink target back).disguised disguise := by
  simp only [jumpLink, push_disguised]
  simp only [disguised, fits.resolve?]
  cases machine.memory.resolve? target <;> rfl

theorem exit_disguised : (machine.disguised disguise).exit = machine.exit.disguised disguise := by
  have frames : (machine.disguised disguise).stack = machine.stack := rfl
  simp only [exit, frames]
  cases machine.stack.frames with
  | nil => rfl
  | cons top below =>
    simp only
    cases machine.stack.popReturn with
    | error fault => rfl
    | ok popped =>
      have closed := popCheckpoint_disguised fits .exit { machine with stack := popped.2 }
      exact congrArg (·.goto popped.1) closed

theorem clearLevel_disguised :
    (machine.disguised disguise).clearLevel = machine.clearLevel.disguised disguise := by
  simp only [clearLevel, popCheckpoint, disguised, fits.popState]
  cases machine.memory.popState <;> rfl

theorem allocLevelPool_disguised :
    (machine.disguised disguise).allocLevelPool = machine.allocLevelPool.disguised disguise := by
  simp only [allocLevelPool, disguised, fits.available]
  rfl

theorem initLevel_disguised :
    (machine.disguised disguise).initLevel = machine.initLevel.disguised disguise := by
  simp only [initLevel, disguised, fits.pushState]
  rfl

section Loads

variable (holds : kept machine.memory)
include holds

theorem load_disguised (load : SegmentLoad) (compression : Compression) :
    (machine.disguised disguise).load load compression =
      (machine.load load compression).map (disguised disguise) := by
  simp only [load_eq, disguised, fits.loadRange _ holds]
  cases machine.memory.loadRange load compression <;> rfl

theorem loadFixed_disguised (dest : Address) (start stop : UInt32) :
    (machine.disguised disguise).loadFixed dest start stop =
      (machine.loadFixed dest start stop).disguised disguise := by
  refine attempt_disguised ?_
  simp only [disguised, fits.loadFixed _ holds]
  cases machine.memory.loadFixed dest start.toNat stop.toNat <;> rfl

theorem loadContent_disguised (opcode : Opcode) (load : SegmentLoad) (compression : Compression) :
    (machine.disguised disguise).loadContent opcode load compression =
      (machine.loadContent opcode load compression).disguised disguise := by
  refine attempt_disguised ?_
  rw [load_disguised fits holds]
  cases machine.load load compression <;> rfl

theorem execute_disguised (load : SegmentLoad) (entry : Address) (following : Pointer) :
    (machine.disguised disguise).execute load entry following =
      (machine.execute load entry following).disguised disguise := by
  have room : (machine.disguised disguise).stack = machine.stack := rfl
  have pushed : kept machine.pushCheckpoint.memory := fits.kept_pushState _ holds
  simp only [execute, room, pushCheckpoint_disguised fits, load_disguised fits pushed]
  cases machine.stack.pushScope following with
  | error fault => rfl
  | ok stack =>
    cases machine.pushCheckpoint.load load .raw with
    | error error =>
      simp only [Except.map, popCheckpoint_disguised fits]
      rfl
    | ok loaded =>
      have led : (loaded.disguised disguise).memory.resolve? entry = loaded.memory.resolve? entry :=
        fits.resolve? loaded.memory entry
      simp only [Except.map, popCheckpoint_disguised fits, led]
      cases loaded.memory.resolve? entry <;> rfl

theorem kept_popCheckpoint (opcode : Opcode) : kept (machine.popCheckpoint opcode).memory := by
  unfold popCheckpoint
  split
  next after popped => exact fits.kept_popState _ after holds popped
  next => exact holds

theorem exitAndExecute_disguised (load : SegmentLoad) (entry : Address) :
    (machine.disguised disguise).exitAndExecute load entry =
      (machine.exitAndExecute load entry).disguised disguise := by
  have replaced : kept (machine.popCheckpoint .exitAndExecute).pushCheckpoint.memory :=
    fits.kept_pushState _ (kept_popCheckpoint fits holds _)
  simp only [exitAndExecute, popCheckpoint_disguised fits, pushCheckpoint_disguised fits,
    load_disguised fits replaced]
  cases (machine.popCheckpoint .exitAndExecute).pushCheckpoint.load load .raw with
  | error error => rfl
  | ok loaded =>
    have led : (loaded.disguised disguise).memory.resolve? entry = loaded.memory.resolve? entry :=
      fits.resolve? loaded.memory entry
    simp only [Except.map, led]
    cases loaded.memory.resolve? entry <;> rfl

end Loads

end Memory

theorem exec_disguised_of_interior {instruction : Instruction} (interior : instruction.isInterior)
    (following : Pointer) :
    (machine.disguised disguise).exec instruction following =
      (machine.exec instruction following).disguised disguise :=
  exec_within_change (fun around => { around with
      layout := around.layout.disguised disguise
      memory := disguise.memory around.memory
      overrides := disguise.overrides around.overrides })
    interior following following machine

/-- Every command does the same under the disguise, unless it looks for bytes that are disguised. -/
theorem exec_disguised {kept : Memory → Prop} (fits : disguise.Fits kept)
    (holds : kept machine.memory)
    (fooled : ∀ (id : UInt32) (function : E.HostFn), machine.hosts[id]? = some function →
      disguise.Fools function)
    (instruction : Instruction) (following : Pointer)
    (seen : instruction.looksAhead machine.context.register →
      (disguise.memory machine.memory).buffer? following.buffer =
        machine.memory.buffer? following.buffer) :
    (machine.disguised disguise).exec instruction following =
      (machine.exec instruction following).disguised disguise := by
  cases instruction with
  | execute load entry => exact execute_disguised fits holds load entry following
  | exitAndExecute load entry => exact exitAndExecute_disguised fits holds load entry
  | exit => exact exit_disguised fits
  | jump target => exact jump_disguised fits target
  | jumpLink target => exact jumpLink_disguised fits target following
  | ret => exact ret_disguised
  | loopBeginCount count => exact push_disguised _ _
  | loopRepeat => exact loopRepeat_disguised
  | loopBegin => exact push_disguised _ _
  | loopUntil condition => exact loopUntil_disguised condition
  | jumpIf condition target => exact whenHolds_disguised condition target (jump_disguised fits)
  | jumpLinkIf condition target =>
    exact whenHolds_disguised condition target fun address =>
      jumpLink_disguised fits address following
  | skipIf condition =>
    exact skipIf_disguised fun fails => seen (by simpa [Instruction.looksAhead] using fails)
  | skip => exact skipPast_disguised _ (seen rfl)
  | call argument function => exact call_disguised fooled argument function
  | callLoop argument function => exact callLoop_disguised fooled argument function
  | pushPool => exact congrArg Machine.next (pushCheckpoint_disguised fits)
  | popPool => exact congrArg Machine.next (popCheckpoint_disguised fits .popPool machine)
  | loadFixed dest start stop => exact loadFixed_disguised fits holds dest start stop
  | loadRaw load => exact loadContent_disguised fits holds _ load _
  | loadCompressed load => exact loadContent_disguised fits holds _ load _
  | initLevel => exact initLevel_disguised fits
  | clearLevel => exact clearLevel_disguised fits
  | allocLevelPool => exact allocLevelPool_disguised fits
  | _ => exact exec_disguised_of_interior rfl following

end Machine

end StageScript
