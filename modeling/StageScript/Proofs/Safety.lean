import StageScript.Proofs.Checked

/-!
No script takes a machine out of range. Every command of the machine with its numbers checked has
a result on a sound machine, and that result is the one of the plain command. A run of any script,
whatever its host does to the machine between the executions, is sound at every step, and so each of
its steps is a checked one.
-/

namespace StageScript

namespace Machine

variable {E : Embedding} {machine : Machine E}

def checkedPopCheckpoint (opcode : Opcode) (machine : Machine E) : Option (Machine E) := do
  match ← machine.memory.checkedPopState with
  | .ok memory => return { machine with memory }
  | .error _ => return machine.report (.poolUnderflow opcode)

def checkedLoad (load : SegmentLoad) (compression : Compression) (machine : Machine E) :
    Option (Except MemoryError (Machine E)) := do
  let loaded ← machine.memory.checkedLoadSegment load.segment.toInt load.start.toNat
    load.stop.toNat compression
  return loaded.map fun loaded => { machine with memory := loaded.2 }

def checkedExecute (load : SegmentLoad) (entry : Address) (following : Pointer)
    (machine : Machine E) : Option (Outcome E) :=
  match machine.stack.pushScope following with
  | .error fault => some (machine.fault (.stack fault))
  | .ok stack => do
    let pushed := machine.pushCheckpoint
    match ← pushed.checkedLoad load .raw with
    | .error error =>
      let popped ← pushed.checkedPopCheckpoint .execute
      return (popped.report (loadFailure .execute error)).next
    | .ok loaded =>
      match loaded.memory.resolve? entry with
      | none =>
        let popped ← loaded.checkedPopCheckpoint .execute
        return popped.fault (.unresolvedAddress entry)
      | some target => return { loaded with stack }.goto target

def checkedExitAndExecute (load : SegmentLoad) (entry : Address) (machine : Machine E) :
    Option (Outcome E) := do
  let popped ← machine.checkedPopCheckpoint .exitAndExecute
  let replaced := popped.pushCheckpoint
  match ← replaced.checkedLoad load .raw with
  | .error error => return (replaced.report (loadFailure .exitAndExecute error)).next
  | .ok loaded =>
    match loaded.memory.resolve? entry with
    | none => return loaded.fault (.unresolvedAddress entry)
    | some target =>
      let stack ← loaded.stack.checkedUnwindScope
      return { loaded with stack }.goto target

def checkedExit (machine : Machine E) : Option (Outcome E) :=
  match machine.stack.frames with
  | [] => some (machine.setStatus .exited).hold
  | _ :: _ => do
    match ← machine.stack.checkedPopReturn with
    | .error fault => return machine.fault (.stack fault)
    | .ok (resume, stack) =>
      let popped ← { machine with stack }.checkedPopCheckpoint .exit
      return popped.goto resume

def checkedClearLevel (machine : Machine E) : Option (Outcome E) := do
  let cleared := { machine with
    scene := machine.scene.clearObjects
    level := machine.level.clearAreas }
  let popped ← cleared.checkedPopCheckpoint .clearLevel
  return popped.next

def checkedLoadFixed (dest : Address) (start stop : UInt32) (machine : Machine E) :
    Option (Outcome E) := do
  match ← machine.memory.checkedLoadFixed dest start.toNat stop.toNat with
  | .error error => return machine.attempt (.error (loadFailure .loadFixed error))
  | .ok (_, memory) => return machine.attempt (.ok { machine with memory })

def checkedLoadContent (opcode : Opcode) (load : SegmentLoad) (compression : Compression)
    (machine : Machine E) : Option (Outcome E) := do
  let loaded ← machine.checkedLoad load compression
  return machine.attempt (loaded.mapError (loadFailure opcode))

theorem exists_of_load {load : SegmentLoad} {compression : Compression} {loaded : Machine E}
    (loads : machine.load load compression = .ok loaded) :
    ∃ buffer after, machine.memory.loadRange load compression = .ok (buffer, after) ∧
      loaded = { machine with memory := after } := by
  rw [load_eq] at loads
  obtain ⟨⟨buffer, after⟩, loaded, rfl⟩ := map_eq_ok loads
  exact ⟨buffer, after, loaded, rfl⟩

section Accounts

variable (accounted : machine.memory.Accounted)
include accounted

theorem checkedPopCheckpoint_eq (opcode : Opcode) :
    machine.checkedPopCheckpoint opcode = some (machine.popCheckpoint opcode) := by
  unfold checkedPopCheckpoint popCheckpoint
  rw [Memory.checkedPopState_eq accounted]
  cases machine.memory.popState <;> rfl

theorem checkedLoad_eq {load : SegmentLoad} {compression : Compression}
    (few : ∀ loaded, machine.load load compression = .ok loaded →
      loaded.memory.slots.size < limit32) :
    machine.checkedLoad load compression = some (machine.load load compression) := by
  have numbered : ∀ buffer after, machine.memory.loadSegment load.segment.toInt load.start.toNat
      load.stop.toNat compression = .ok (buffer, after) → after.slots.size < limit32 := by
    intro buffer after loaded
    refine few { machine with memory := after } ?_
    unfold Machine.load
    rw [loaded]
    rfl
  unfold checkedLoad Machine.load
  rw [Memory.checkedLoadSegment_eq accounted numbered]
  cases machine.memory.loadSegment load.segment.toInt load.start.toNat load.stop.toNat
    compression <;> rfl

theorem accounted_of_load {load : SegmentLoad} {compression : Compression} {loaded : Machine E}
    (loads : machine.load load compression = .ok loaded) : loaded.memory.Accounted := by
  obtain ⟨_, _, loaded, rfl⟩ := exists_of_load loads
  obtain ⟨_, _, _, found, read, unpacked, _, rfl⟩ := Memory.loadSegment_eq_ok loaded
  exact accounted.called (.loadSegment found read unpacked)

theorem accounted_popCheckpoint (opcode : Opcode) :
    (machine.popCheckpoint opcode).memory.Accounted := by
  rcases machine.memory_popCheckpoint opcode with same | popped
  · rw [same]
    exact accounted
  · obtain ⟨_, _, top, same⟩ := Memory.popState_eq_ok.mp popped
    rw [same]
    exact accounted.revert top

end Accounts

theorem size_popCheckpoint (opcode : Opcode) (machine : Machine E) :
    (machine.popCheckpoint opcode).memory.slots.size = machine.memory.slots.size := by
  rcases machine.memory_popCheckpoint opcode with same | popped
  · rw [same]
  · obtain ⟨checkpoint, outer, _, same⟩ := Memory.popState_eq_ok.mp popped
    rw [same, Memory.size_revert]

theorem checkedExecute_eq (accounted : machine.memory.Accounted) {load : SegmentLoad}
    {entry : Address} {following : Pointer}
    (few : (machine.execute load entry following).machine.memory.slots.size < limit32) :
    machine.checkedExecute load entry following = some (machine.execute load entry following) := by
  unfold checkedExecute execute
  cases room : machine.stack.pushScope following with
  | error => rfl
  | ok stack =>
    have pushed : machine.pushCheckpoint.memory.Accounted := accounted.pushState
    have numbered : ∀ loaded, machine.pushCheckpoint.load load .raw = .ok loaded →
        loaded.memory.slots.size < limit32 := by
      intro loaded loads
      simp only [execute, room, loads] at few
      split at few
      next => rwa [fault, size_popCheckpoint] at few
      next => exact few
    simp only [checkedLoad_eq pushed numbered, Option.bind_eq_bind, Option.bind_some]
    cases loads : machine.pushCheckpoint.load load .raw with
    | error => simp only [checkedPopCheckpoint_eq pushed, Option.bind_some, Option.pure_def]
    | ok loaded =>
      have kept := accounted_of_load pushed loads
      simp only [checkedPopCheckpoint_eq kept, Option.bind_some, Option.pure_def]
      cases loaded.memory.resolve? entry <;> rfl

theorem checkedExitAndExecute_eq (sound : machine.Sound) {load : SegmentLoad} {entry : Address}
    (few : (machine.exitAndExecute load entry).machine.memory.slots.size < limit32) :
    machine.checkedExitAndExecute load entry = some (machine.exitAndExecute load entry) := by
  unfold checkedExitAndExecute exitAndExecute
  simp only [checkedPopCheckpoint_eq sound.memory, Option.bind_eq_bind, Option.bind_some]
  have replaced : (machine.popCheckpoint .exitAndExecute).pushCheckpoint.memory.Accounted :=
    (accounted_popCheckpoint sound.memory .exitAndExecute).pushState
  have numbered : ∀ loaded,
      (machine.popCheckpoint .exitAndExecute).pushCheckpoint.load load .raw = .ok loaded →
        loaded.memory.slots.size < limit32 := by
    intro loaded loads
    simp only [exitAndExecute, loads] at few
    split at few
    next => exact few
    next => exact few
  simp only [checkedLoad_eq replaced numbered, Option.bind_some]
  cases loads : (machine.popCheckpoint .exitAndExecute).pushCheckpoint.load load .raw with
  | error => rfl
  | ok loaded =>
    have well : loaded.stack.WellFormed := by
      obtain ⟨_, _, _, rfl⟩ := exists_of_load loads
      have kept := (machine.replaceCheckpoint_sameExcept .exitAndExecute).stack (by simp)
      exact kept ▸ sound.stack.wellFormed
    simp only [Stack.checkedUnwindScope_eq well, Option.bind_some, Option.pure_def]
    cases loaded.memory.resolve? entry <;> rfl

theorem checkedExit_eq (sound : machine.Sound) : machine.checkedExit = some machine.exit := by
  have well := sound.stack.wellFormed
  unfold checkedExit exit
  rw [Stack.checkedPopReturn_eq well]
  cases machine.stack.frames with
  | nil => rfl
  | cons =>
    cases machine.stack.popReturn with
    | error => rfl
    | ok popped =>
      have accounted : { machine with stack := popped.2 }.memory.Accounted := sound.memory
      simp only [checkedPopCheckpoint_eq accounted, Option.bind_eq_bind, Option.bind_some,
        Option.pure_def]

theorem checkedClearLevel_eq (sound : machine.Sound) :
    machine.checkedClearLevel = some machine.clearLevel := by
  have accounted : { machine with
      scene := machine.scene.clearObjects
      level := machine.level.clearAreas }.memory.Accounted := sound.memory
  simp only [checkedClearLevel, clearLevel, checkedPopCheckpoint_eq accounted, Option.bind_eq_bind,
    Option.bind_some, Option.pure_def]

theorem checkedLoadFixed_eq {dest : Address} {start stop : UInt32}
    (few : (machine.loadFixed dest start stop).machine.memory.slots.size < limit32) :
    machine.checkedLoadFixed dest start stop = some (machine.loadFixed dest start stop) := by
  have numbered : ∀ buffer after, machine.memory.loadFixed dest start.toNat stop.toNat =
      .ok (buffer, after) → after.slots.size < limit32 := by
    intro buffer after loaded
    simp only [loadFixed, loaded] at few
    exact few
  unfold checkedLoadFixed loadFixed
  rw [Memory.checkedLoadFixed_eq numbered]
  cases machine.memory.loadFixed dest start.toNat stop.toNat <;> rfl

theorem checkedLoadContent_eq (sound : machine.Sound) {opcode : Opcode} {load : SegmentLoad}
    {compression : Compression}
    (few : (machine.loadContent opcode load compression).machine.memory.slots.size < limit32) :
    machine.checkedLoadContent opcode load compression =
      some (machine.loadContent opcode load compression) := by
  have numbered : ∀ loaded, machine.load load compression = .ok loaded →
      loaded.memory.slots.size < limit32 := by
    intro loaded loads
    simp only [loadContent, loads] at few
    exact few
  rw [checkedLoadContent, checkedLoad_eq sound.memory numbered]
  rfl

def checkedCountDown (counter : Int32) (frames : Int16) : Option (Int32 × Bool) :=
  if counter = 0 ∨ Int32.minValue.toInt ≤ counter.toInt - 1 then some (countDown counter frames)
  else none

def checkedSleep (frames : Int16) (machine : Machine E) : Option (Outcome E) := do
  let _visit ← checkedCountDown machine.context.delayPrimary frames
  return machine.sleep frames

def checkedSleepBeforeExit (frames : Int16) (machine : Machine E) : Option (Outcome E) := do
  let _visit ← checkedCountDown machine.context.delaySecondary frames
  return machine.sleepBeforeExit frames

def checkedRet (machine : Machine E) : Option (Outcome E) := do
  match ← machine.stack.checkedPopReturn with
  | .error fault => return machine.fault (.stack fault)
  | .ok (resume, stack) => return { machine with stack }.goto resume

def checkedLoopRepeat (machine : Machine E) : Option (Outcome E) := do
  match ← machine.stack.checkedPopLoop with
  | .error fault => return machine.fault (.stack fault)
  | .ok ((resume, remaining), popped) =>
    let left := oneLess remaining
    if left ≤ 0 then return { machine with stack := popped }.next
    else return { machine with stack := machine.stack.setRemaining left }.goto resume

def checkedLoopUntil (condition : Condition) (machine : Machine E) : Option (Outcome E) := do
  match ← machine.stack.checkedPopLoop with
  | .error fault => return machine.fault (.stack fault)
  | .ok ((resume, _), popped) =>
    if condition.holds machine.context.register then return { machine with stack := popped }.next
    else return machine.goto resume

def checkedPastFirst (layout : Layout) (bytes : Bytes) (passedOver : Option Opcode → Bool) :
    (fuel : Nat) → Pointer → Option (Except ReadFault Pointer)
  | 0, _ => none
  | fuel + 1, pointer =>
    match Command.decode layout bytes pointer with
    | .error fault => some (.error fault)
    | .ok command => do
      let following ← pointer.advance? command.length
      if passedOver command.opcode? then checkedPastFirst layout bytes passedOver fuel following
      else return .ok following

def checkedSkipPast (passedOver : Option Opcode → Bool) (following : Pointer)
    (machine : Machine E) : Option (Outcome E) :=
  match machine.memory.buffer? following.buffer with
  | none => some (machine.fault (.danglingPointer following))
  | some bytes => do
    match ← checkedPastFirst machine.config.layout bytes passedOver (bytes.size + 1) following with
    | .error fault => return machine.fault (.read fault)
    | .ok target => return machine.goto target

def checkedSkipIf (condition : Condition) (following : Pointer) (machine : Machine E) :
    Option (Outcome E) :=
  if condition.holds machine.context.register then some machine.next
  else machine.checkedSkipPast isSkipOrSkipNop following

theorem checkedCountDown_eq {counter : Int32} (above : 0 ≤ counter) (frames : Int16) :
    checkedCountDown counter frames = some (countDown counter frames) := by
  have zero : Int32.toInt 0 = 0 := rfl
  have least : Int32.minValue.toInt ≤ -1 := by decide
  rw [Int32.le_iff_toInt_le, zero] at above
  rw [checkedCountDown, if_pos (.inr (by omega))]

theorem checkedSleep_eq (sound : machine.Sound) (frames : Int16) :
    machine.checkedSleep frames = some (machine.sleep frames) := by
  rw [checkedSleep, checkedCountDown_eq sound.delayPrimary]
  rfl

theorem checkedSleepBeforeExit_eq (sound : machine.Sound) (frames : Int16) :
    machine.checkedSleepBeforeExit frames = some (machine.sleepBeforeExit frames) := by
  rw [checkedSleepBeforeExit, checkedCountDown_eq sound.delaySecondary]
  rfl

theorem checkedRet_eq (sound : machine.Sound) : machine.checkedRet = some machine.ret := by
  unfold checkedRet ret
  rw [Stack.checkedPopReturn_eq sound.stack.wellFormed]
  cases machine.stack.popReturn <;> rfl

theorem checkedLoopRepeat_eq (sound : machine.Sound) :
    machine.checkedLoopRepeat = some machine.loopRepeat := by
  unfold checkedLoopRepeat loopRepeat
  rw [Stack.checkedPopLoop_eq sound.stack.wellFormed]
  cases machine.stack.popLoop with
  | error => rfl
  | ok popped =>
    simp only [Option.bind_eq_bind, Option.bind_some]
    split <;> rfl

theorem checkedLoopUntil_eq (sound : machine.Sound) (condition : Condition) :
    machine.checkedLoopUntil condition = some (machine.loopUntil condition) := by
  unfold checkedLoopUntil loopUntil
  rw [Stack.checkedPopLoop_eq sound.stack.wellFormed]
  cases machine.stack.popLoop with
  | error => rfl
  | ok popped =>
    simp only [Option.bind_eq_bind, Option.bind_some]
    split <;> rfl

/-- Every command has at least one byte, so the fuel lasts; and none ends behind its buffer. -/
theorem checkedPastFirst_eq {layout : Layout} {bytes : Bytes} {passedOver : Option Opcode → Bool}
    (short : bytes.size < limit32) {fuel : Nat} {pointer : Pointer}
    (enough : bytes.size - pointer.offset < fuel) :
    checkedPastFirst layout bytes passedOver fuel pointer =
      some (pastFirst layout bytes passedOver pointer) := by
  induction fuel generalizing pointer with
  | zero => omega
  | succ fuel ih =>
    unfold checkedPastFirst pastFirst
    cases decoded : Command.decode layout bytes pointer with
    | error => rfl
    | ok command =>
      have bounds := Command.length_of_decode decoded
      have onward : pointer.advance? command.length = some (pointer.advance command.length) :=
        if_pos (by omega)
      simp only [onward, Option.bind_eq_bind, Option.bind_some]
      split
      next =>
        apply ih
        simp only [Pointer.advance]
        omega
      next => rfl

section Skips

variable {following : Pointer}
  (short : ∀ buffer bytes, machine.memory.buffer? buffer = some bytes → bytes.size < limit32)
include short

theorem checkedSkipPast_eq (passedOver : Option Opcode → Bool) :
    machine.checkedSkipPast passedOver following =
      some (machine.skipPast passedOver following) := by
  unfold checkedSkipPast skipPast
  cases live : machine.memory.buffer? following.buffer with
  | none => rfl
  | some bytes =>
    have enough : bytes.size - following.offset < bytes.size + 1 := by omega
    simp only [checkedPastFirst_eq (short _ _ live) enough, Option.bind_eq_bind, Option.bind_some]
    cases pastFirst machine.config.layout bytes passedOver following <;> rfl

theorem checkedSkipIf_eq (condition : Condition) :
    machine.checkedSkipIf condition following = some (machine.skipIf condition following) := by
  unfold checkedSkipIf skipIf
  split
  next => rfl
  next => exact checkedSkipPast_eq short _

end Skips

def checkedAttempt (machine : Machine E) (change : Option (Except Diagnostic (Machine E))) :
    Option (Outcome E) :=
  change.map machine.attempt

def checkedEditArea (opcode : Opcode) (change : Area → Option Area) (machine : Machine E) :
    Option (Except Diagnostic (Machine E)) := do
  match ← machine.level.checkedCurrentArea with
  | none => return .error (.noActiveArea opcode)
  | some area =>
    let changed ← change area
    return .ok { machine with level := machine.level.setCurrent changed }

def checkedAddEntry (opcode : Opcode) (cost : Nat) (link : Area → Option Area)
    (machine : Machine E) : Option (Except Diagnostic (Machine E)) := do
  match ← machine.level.checkedCurrentArea with
  | none => return .error (.noActiveArea opcode)
  | some area =>
    match ← machine.level.pool.checkedAllocate cost with
    | .error exhausted =>
      return .error (.poolExhausted opcode exhausted.requested exhausted.available)
    | .ok pool =>
      let linked ← link area
      return .ok { machine with level := { machine.level.setCurrent linked with pool } }

def checkedInSlot (opcode : Opcode) (index : UInt8) (slots : Nat)
    (change : Option (Except Diagnostic (Machine E))) : Option (Except Diagnostic (Machine E)) :=
  if index.toNat < slots then change else some (.error (.slotOutOfRange opcode index))

def checkedPlaceSpawn (opcode : Opcode) (spawn : Spawn) (machine : Machine E) :
    Option (Except Diagnostic (Machine E)) := do
  if ← machine.level.vars.checkedActMatches spawn.acts then
    machine.checkedAddEntry opcode Spawn.cost fun area =>
      some { area with spawns := area.spawns.push spawn }
  else return .ok machine

def checkedPlaceObjectExt (model : UInt8) (position angle : Vec3)
    (behaviorArg behaviorToken : UInt32) (acts : UInt8) (machine : Machine E) :
    Option (Outcome E) :=
  machine.checkedAttempt <|
    match machine.tokenAddress .placeObjectExt behaviorToken with
    | .error diagnostic => some (.error diagnostic)
    | .ok (name, address) =>
      machine.checkedPlaceSpawn .placeObjectExt
        ⟨model.toUInt16, position, angle, behaviorArg, .named name address, acts⟩

def checkedPlaceObjectExt2 (position angle : Vec3) (behaviorArg modelToken : UInt32)
    (behaviorToken : Except ReadFault UInt32) (acts : UInt8) (machine : Machine E) :
    Option (Outcome E) :=
  match machine.tokenModel .placeObjectExt2 modelToken with
  | .error diagnostic => some (machine.report diagnostic).next
  | .ok model =>
    match behaviorToken with
    | .error fault => some (machine.fault (.read fault))
    | .ok token =>
      machine.checkedAttempt <|
        match machine.tokenAddress .placeObjectExt2 token with
        | .error diagnostic => some (.error diagnostic)
        | .ok (name, address) =>
          machine.checkedPlaceSpawn .placeObjectExt2
            ⟨model, position, angle, behaviorArg, .named name address, acts⟩

theorem checkedAttempt_eq {checked : Option (Except Diagnostic (Machine E))}
    {change : Except Diagnostic (Machine E)} (same : checked = some change) :
    machine.checkedAttempt checked = some (machine.attempt change) := by
  rw [same]
  rfl

theorem checkedInSlot_eq {opcode : Opcode} {index : UInt8} {slots : Nat}
    {checked : Option (Except Diagnostic (Machine E))}
    {change : index.toNat < slots → Except Diagnostic (Machine E)}
    (same : ∀ inside, checked = some (change inside)) :
    checkedInSlot opcode index slots checked = some (inSlot opcode index slots change) := by
  unfold checkedInSlot inSlot
  split
  next inside => exact same inside
  next => rfl

section Levels

variable (made : machine.level.Made) {checked : Area → Option Area} {change : Area → Area}
include made

theorem checkedEditArea_eq (opcode : Opcode) (same : ∀ area, checked area = some (change area)) :
    machine.checkedEditArea opcode checked = some (machine.editArea opcode change) := by
  unfold checkedEditArea editArea
  rw [Level.checkedCurrentArea_eq made]
  cases machine.level.currentArea? with
  | none => rfl
  | some area => simp only [same, Option.bind_eq_bind, Option.bind_some, Option.pure_def]

theorem checkedAddEntry_eq (opcode : Opcode) (cost : Nat)
    (same : ∀ area, checked area = some (change area)) :
    machine.checkedAddEntry opcode cost checked = some (machine.addEntry opcode cost change) := by
  unfold checkedAddEntry addEntry
  rw [Level.checkedCurrentArea_eq made]
  cases machine.level.currentArea? with
  | none => rfl
  | some area =>
    simp only [Pool.checkedAllocate_eq made.pool.used_le, same, Option.bind_eq_bind,
      Option.bind_some]
    cases machine.level.pool.allocate cost <;> rfl

theorem checkedAddEntryInSlot_eq (opcode : Opcode) (cost : Nat) {index : UInt8} {slots : Nat}
    {change : index.toNat < slots → Area → Area}
    (same : ∀ inside area, checked area = some (change inside area)) :
    machine.checkedAttempt
        (checkedInSlot opcode index slots (machine.checkedAddEntry opcode cost checked)) =
      some (machine.attempt
        (inSlot opcode index slots fun inside => machine.addEntry opcode cost (change inside))) :=
  checkedAttempt_eq (checkedInSlot_eq fun inside => checkedAddEntry_eq made opcode cost (same inside))

theorem checkedPlaceSpawn_eq (opcode : Opcode) (spawn : Spawn) :
    machine.checkedPlaceSpawn opcode spawn = some (machine.placeSpawn opcode spawn) := by
  unfold checkedPlaceSpawn placeSpawn addSpawn
  rw [Variables.checkedActMatches_eq]
  cases machine.level.vars.actMatches spawn.acts with
  | false => rfl
  | true => exact checkedAddEntry_eq made opcode Spawn.cost fun _ => rfl

theorem checkedPlaceObjectExt_eq (model : UInt8) (position angle : Vec3)
    (behaviorArg behaviorToken : UInt32) (acts : UInt8) :
    machine.checkedPlaceObjectExt model position angle behaviorArg behaviorToken acts =
      some (machine.placeObjectExt model position angle behaviorArg behaviorToken acts) := by
  refine checkedAttempt_eq ?_
  cases machine.tokenAddress .placeObjectExt behaviorToken with
  | error => rfl
  | ok named => exact checkedPlaceSpawn_eq made _ _

theorem checkedPlaceObjectExt2_eq (position angle : Vec3) (behaviorArg modelToken : UInt32)
    (behaviorToken : Except ReadFault UInt32) (acts : UInt8) :
    machine.checkedPlaceObjectExt2 position angle behaviorArg modelToken behaviorToken acts =
      some (machine.placeObjectExt2 position angle behaviorArg modelToken behaviorToken acts) := by
  unfold checkedPlaceObjectExt2 placeObjectExt2
  cases machine.tokenModel .placeObjectExt2 modelToken with
  | error => rfl
  | ok model =>
    cases behaviorToken with
    | error => rfl
    | ok token =>
      refine checkedAttempt_eq ?_
      cases machine.tokenAddress .placeObjectExt2 token with
      | error => rfl
      | ok named => exact checkedPlaceSpawn_eq made _ _

end Levels

/-- Runs an instruction. Those that are not named take nothing for granted. -/
def checkedExec (instruction : Instruction) (following : Pointer) (machine : Machine E) :
    Option (Outcome E) :=
  match instruction with
  | .execute load entry => machine.checkedExecute load entry following
  | .exitAndExecute load entry => machine.checkedExitAndExecute load entry
  | .exit => machine.checkedExit
  | .sleep frames => machine.checkedSleep frames
  | .sleepBeforeExit frames => machine.checkedSleepBeforeExit frames
  | .ret => machine.checkedRet
  | .loopRepeat => machine.checkedLoopRepeat
  | .loopUntil condition => machine.checkedLoopUntil condition
  | .skipIf condition => machine.checkedSkipIf condition following
  | .skip => machine.checkedSkipPast isSkipNop following
  | .popPool => (machine.checkedPopCheckpoint .popPool).map next
  | .loadFixed dest start stop => machine.checkedLoadFixed dest start stop
  | .loadRaw load => machine.checkedLoadContent .loadRaw load .raw
  | .loadCompressed load => machine.checkedLoadContent .loadCompressed load .mio0
  | .clearLevel => machine.checkedClearLevel
  | .placeObject spawn => machine.checkedAttempt (machine.checkedPlaceSpawn .placeObject spawn)
  | .createWarpNode node =>
    machine.checkedAttempt <|
      machine.checkedAddEntry .createWarpNode WarpNode.cost fun area =>
        some { area with warpNodes := area.warpNodes.push node }
  | .createPaintingWarpNode node =>
    machine.checkedAttempt <|
      checkedInSlot .createPaintingWarpNode node.id paintingSlots <|
        machine.checkedAddEntry .createPaintingWarpNode WarpNode.cost fun area => do
          let paintingWarps ← writeSlot? area.paintingWarps node.id.toNat (some node)
          return { area with paintingWarps }
  | .createInstantWarp index warp =>
    machine.checkedAttempt <|
      checkedInSlot .createInstantWarp index instantWarpSlots <|
        machine.checkedAddEntry .createInstantWarp InstantWarp.cost fun area => do
          let instantWarps ← writeSlot? area.instantWarps index.toNat (some warp)
          return { area with instantWarps }
  | .createWhirlpool index whirlpool =>
    machine.checkedAttempt <|
      checkedInSlot .createWhirlpool index whirlpoolSlots <|
        machine.checkedAddEntry .createWhirlpool Whirlpool.cost fun area => do
          let whirlpools ← writeSlot? area.whirlpools index.toNat (some whirlpool)
          return { area with whirlpools }
  | .showDialog index dialog =>
    machine.checkedAttempt <|
      checkedInSlot .showDialog index dialogSlots <|
        machine.checkedEditArea .showDialog fun area => do
          let dialogs ← writeSlot? area.dialog index.toNat dialog
          return { area with dialog := dialogs }
  | .setTerrainData data =>
    machine.checkedAttempt <|
      machine.checkedEditArea .setTerrainData fun area => some { area with terrain := some data }
  | .setRooms data =>
    machine.checkedAttempt <|
      machine.checkedEditArea .setRooms fun area => some { area with rooms := some data }
  | .setTerrainType terrain =>
    machine.checkedAttempt <|
      machine.checkedEditArea .setTerrainType fun area => some { area with terrainType := terrain }
  | .setMusic music =>
    machine.checkedAttempt <|
      machine.checkedEditArea .setMusic fun area => some { area with music := some music }
  | .setMacroObjects data =>
    machine.checkedAttempt <|
      machine.checkedEditArea .setMacroObjects fun area =>
        some { area with macroObjects := some data }
  | .placeObjectExt model position angle behaviorArg behaviorToken acts =>
    machine.checkedPlaceObjectExt model position angle behaviorArg behaviorToken acts
  | .placeObjectExt2 position angle behaviorArg modelToken behaviorToken acts =>
    machine.checkedPlaceObjectExt2 position angle behaviorArg modelToken behaviorToken acts
  | _ => some (machine.exec instruction following)

/-- On a sound machine every instruction has a result with its numbers checked. -/
theorem checkedExec_eq (sound : machine.Sound) {instruction : Instruction} {following : Pointer}
    (short : ∀ buffer bytes, machine.memory.buffer? buffer = some bytes → bytes.size < limit32)
    (few : (machine.exec instruction following).machine.memory.slots.size < limit32) :
    machine.checkedExec instruction following = some (machine.exec instruction following) := by
  have made := sound.level
  cases instruction with
  | execute load entry => exact checkedExecute_eq sound.memory few
  | exitAndExecute load entry => exact checkedExitAndExecute_eq sound few
  | exit => exact checkedExit_eq sound
  | sleep frames => exact checkedSleep_eq sound frames
  | sleepBeforeExit frames => exact checkedSleepBeforeExit_eq sound frames
  | ret => exact checkedRet_eq sound
  | loopRepeat => exact checkedLoopRepeat_eq sound
  | loopUntil condition => exact checkedLoopUntil_eq sound condition
  | skipIf condition => exact checkedSkipIf_eq short condition
  | skip => exact checkedSkipPast_eq short isSkipNop
  | popPool => exact congrArg (Option.map next) (checkedPopCheckpoint_eq sound.memory .popPool)
  | loadFixed dest start stop => exact checkedLoadFixed_eq few
  | loadRaw load => exact checkedLoadContent_eq sound few
  | loadCompressed load => exact checkedLoadContent_eq sound few
  | clearLevel => exact checkedClearLevel_eq sound
  | placeObject spawn => exact checkedAttempt_eq (checkedPlaceSpawn_eq made _ _)
  | createWarpNode node =>
    exact checkedAttempt_eq (checkedAddEntry_eq made _ _ fun _ => rfl)
  | createPaintingWarpNode node =>
    refine checkedAddEntryInSlot_eq made _ _ fun inside area => ?_
    rw [writeSlot?_of_lt _ _ inside]
    rfl
  | createInstantWarp index warp =>
    refine checkedAddEntryInSlot_eq made _ _ fun inside area => ?_
    rw [writeSlot?_of_lt _ _ inside]
    rfl
  | createWhirlpool index whirlpool =>
    refine checkedAddEntryInSlot_eq made _ _ fun inside area => ?_
    rw [writeSlot?_of_lt _ _ inside]
    rfl
  | showDialog index dialog =>
    refine checkedAttempt_eq (checkedInSlot_eq fun inside => ?_)
    refine checkedEditArea_eq made _ fun area => ?_
    rw [writeSlot?_of_lt _ _ inside]
    rfl
  | setTerrainData data => exact checkedAttempt_eq (checkedEditArea_eq made _ fun _ => rfl)
  | setRooms data => exact checkedAttempt_eq (checkedEditArea_eq made _ fun _ => rfl)
  | setTerrainType terrain => exact checkedAttempt_eq (checkedEditArea_eq made _ fun _ => rfl)
  | setMusic music => exact checkedAttempt_eq (checkedEditArea_eq made _ fun _ => rfl)
  | setMacroObjects data => exact checkedAttempt_eq (checkedEditArea_eq made _ fun _ => rfl)
  | placeObjectExt model position angle behaviorArg behaviorToken acts =>
    exact checkedPlaceObjectExt_eq made model position angle behaviorArg behaviorToken acts
  | placeObjectExt2 position angle behaviorArg modelToken behaviorToken acts =>
    exact checkedPlaceObjectExt2_eq made position angle behaviorArg modelToken behaviorToken acts
  | _ => rfl

def checkedDispatch [Patches E] (handler : Handler E.Patch) (command : Command)
    (following : Pointer) (machine : Machine E) : Option (Outcome E) :=
  match handler with
  | .canonical opcode => do
    match ← Instruction.checkedRead opcode command with
    | .error fault => return machine.fault (.read fault)
    | .ok instruction => machine.checkedExec instruction following
  | .patch patch => some (Patches.run patch command machine)

/-- Dispatches the command at the cursor; the pointer past it is one of 32 bits. -/
def checkedStep [Patches E] (canonical : Bool) (cursor : Pointer) (machine : Machine E) :
    Option (Except Fault Pointer × Machine E) :=
  match machine.memory.buffer? cursor.buffer with
  | none => some (.error (.danglingPointer cursor), machine)
  | some bytes =>
    match Command.codeAt bytes cursor with
    | .error fault => some (.error (.read fault), machine)
    | .ok code =>
      match machine.handler? canonical code with
      | none => some (.ok cursor, machine.setStatus .paused)
      | some handler =>
        match Command.decode machine.config.layout bytes cursor with
        | .error fault => some (.error (.read fault), machine)
        | .ok command => do
          let following ← cursor.advance? command.length
          let outcome ← machine.checkedDispatch handler command following
          return settle following cursor outcome

theorem memory_settle (following cursor : Pointer) (outcome : Outcome E) :
    (settle following cursor outcome).2.memory = outcome.machine.memory := by
  unfold settle
  split
  next => rfl
  next => exact (outcome.machine.followOverrides_sameExcept _).memory (by simp)

section Steps

variable [Patches E] (sound : machine.Sound)
  (short : ∀ buffer bytes, machine.memory.buffer? buffer = some bytes → bytes.size < limit32)
include sound short

theorem checkedDispatch_eq {handler : Handler E.Patch} {command : Command}
    (few : (machine.dispatchCommand handler command).machine.memory.slots.size < limit32) :
    machine.checkedDispatch handler command command.next =
      some (machine.dispatchCommand handler command) := by
  cases handler with
  | patch patch => rfl
  | canonical opcode =>
    simp only [checkedDispatch, Instruction.checkedRead_eq, Option.bind_eq_bind, Option.bind_some]
    cases read : Instruction.read opcode command with
    | error => simp only [dispatchCommand, read, Option.pure_def]
    | ok instruction =>
      simp only [dispatchCommand, read] at few ⊢
      exact checkedExec_eq sound short few

theorem checkedStep_eq {canonical : Bool} {cursor : Pointer}
    (few : (machine.step canonical cursor).2.memory.slots.size < limit32) :
    machine.checkedStep canonical cursor = some (machine.step canonical cursor) := by
  cases live : machine.memory.buffer? cursor.buffer with
  | none => simp only [checkedStep, step, live]
  | some bytes =>
    cases found : Command.codeAt bytes cursor with
    | error => simp only [checkedStep, step, live, found]
    | ok code =>
      cases called : machine.handler? canonical code with
      | none => simp only [checkedStep, step, live, found, called]
      | some handler =>
        cases decoded : Command.decode machine.config.layout bytes cursor with
        | error => simp only [checkedStep, step, live, found, called, decoded]
        | ok command =>
          have same : command.code = code := Command.code_of_decode decoded found
          have dispatched : machine.dispatched? canonical cursor = some (handler, command) :=
            dispatched?_eq_some.mpr ⟨bytes, live, decoded, same ▸ called⟩
          have bounds := Command.length_of_decode decoded
          have inside := short _ _ live
          have onward : cursor.advance? command.length = some command.next := by
            rw [Command.next, Command.pointer_of_decode decoded]
            exact if_pos (by omega)
          rw [step_of_dispatched dispatched, memory_settle] at few
          rw [step_of_dispatched dispatched]
          simp only [checkedStep, live, found, called, decoded, onward, Option.bind_eq_bind,
            Option.bind_some, checkedDispatch_eq sound short few, Option.pure_def]

end Steps

theorem hostsMakeLevels_scripted : Scripted.embedding.HostsMakeLevels := by
  intro function context argument register made
  change (Scripted.Function.call function context argument register).context.level.Made
  cases function with
  | callback inner => exact made
  | override entry =>
    simp only [Scripted.Function.call, HostContext.register]
    split
    next registered =>
      obtain ⟨-, rfl⟩ := Prod.mk.inj registered
      exact made
    next registered =>
      obtain ⟨-, rfl⟩ := Prod.mk.inj registered
      exact made
  | unregister removed => exact made
  | owner =>
    simp only [Scripted.Function.call]
    split <;> exact made
  | getVariable =>
    simp only [Scripted.Function.call]
    split <;> exact made
  | setVariable =>
    simp only [Scripted.Function.call]
    split
    next => exact made.edit rfl rfl
    next => exact made
  | pool =>
    simp only [Scripted.Function.call]
    split
    next charged => exact made.allocate charged
    next => exact made
  | clearAreas => exact made.clearAreas

theorem patchesHandle_scripted : PatchesHandle Scripted.embedding := by
  intro instrument command machine
  apply Handles.tend
  cases instrument with
  | addHundred => exact ⟨rfl, .of_memory rfl, id, ⟨rfl, rfl⟩⟩
  | storeLength => exact ⟨rfl, .of_memory rfl, id, ⟨rfl, rfl⟩⟩
  | hold => exact .refl machine
  | restart => exact .refl machine

end Machine

namespace Run

variable {E : Embedding} [Patches E] {run : Run E}

/-- A script that calls content, which comes back at once. -/
def calling : Run Scripted.embedding :=
  let memory := (Memory.ofImage #[0x02, 4, 0, 0] 0x400000).calls [.install #[
    0x00, 16, 5, 0, 0, 0, 0, 0, 4, 0, 0, 0, 0, 0, 0, 5,
    0x02, 4, 0, 0]]
  start ⟨0, 0⟩ (.ofParts .standard memory .empty .empty)

theorem calling_attained : calling.Attained :=
  .start _ _ _ _ _ _ _ (.refl _)

/-- Whatever scripts run on whatever content, no step takes a number out of range. With buffers
that a 32-bit offset reaches all of, and fewer of them than there are numbers of 32 bits, each step
of each execution comes to a pointer or to a fault with all its numbers checked. -/
theorem step_staysInRange (hosts : E.HostsMakeLevels) (patches : Machine.PatchesHandle E)
    (attained : run.Attained)
    (short : ∀ buffer bytes, run.machine.memory.buffer? buffer = some bytes → bytes.size < limit32)
    (few : (run.machine.step run.canonical run.cursor).2.memory.slots.size < limit32) :
    run.machine.checkedStep run.canonical run.cursor =
      some (run.machine.step run.canonical run.cursor) :=
  Machine.checkedStep_eq (attained.sound hosts patches) short few

/-- The return of the content pops its frame and the checkpoint that was made for it. -/
theorem step_staysInRange_calling :
    ∃ inside, calling.Step inside ∧
      (inside.machine.checkedStep inside.canonical inside.cursor).map Prod.fst =
        some (.ok ⟨0, 16⟩) := by
  let inside := calling.next?.get (by decide +kernel)
  have enters : calling.Step inside := (Option.some_get _).symm
  have short : ∀ buffer bytes, inside.machine.memory.buffer? buffer = some bytes →
      bytes.size < limit32 := fun _ _ => Memory.size_lt_of_all (by decide +kernel)
  have checked := step_staysInRange Machine.hostsMakeLevels_scripted Machine.patchesHandle_scripted
    (calling_attained.step enters) short (by decide +kernel)
  refine ⟨inside, enters, ?_⟩
  rw [checked]
  decide +kernel

end Run

end StageScript
