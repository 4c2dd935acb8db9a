import StageScript.Proofs.Invisibility

/-!
Which area is loaded. The level and the scene both have a record of it, and the commands that load
and unload areas change the two together, but for one: clearing the level takes the area from the
level and leaves the scene's record of it. That record is out of date until the level is initialized
again or another area is loaded.
-/

namespace StageScript

/-- However often the function is called, it leaves the area that is loaded. -/
def Embedding.SparesLoaded (E : Embedding) (function : E.HostFn) : Prop :=
  ∀ later, E.Becomes function later → ∀ context argument register,
    (E.callHost later context argument register).context.level.loaded = context.level.loaded

theorem Embedding.SparesLoaded.later {E : Embedding} {function : E.HostFn}
    (spares : E.SparesLoaded function) (context : HostContext) (argument : Int16) (register : Int32) :
    E.SparesLoaded (E.callHost function context argument register).later :=
  fun later becomes => spares later (.head ⟨context, argument, register, rfl⟩ becomes)

namespace Scene

variable {scene : Scene}

theorem loaded_of_buildArea {area : UInt8} {geometry : Address} {built : SceneRoot × Scene}
    (succeeded : scene.buildArea area geometry = .ok built) : built.2.loaded = scene.loaded := by
  unfold buildArea at succeeded
  split at succeeded
  next => cases succeeded
  next =>
    simp only at succeeded
    split at succeeded <;> (cases succeeded; rfl)

theorem loaded_of_loadModel {model : UInt16} {source : ModelSource} {after : Scene}
    (succeeded : scene.loadModel model source = .ok after) : after.loaded = scene.loaded := by
  unfold loadModel at succeeded
  split at succeeded <;> cases succeeded
  rfl

theorem loaded_loadArea (area : UInt8) (spawns : Array Spawn) :
    (scene.loadArea area spawns).loaded = some area := by
  unfold loadArea
  refine Array.foldl_induction (fun _ (built : Scene) => built.loaded = some area) rfl ?_
  intro index built loaded
  exact loaded

end Scene

namespace Machine

variable {E : Embedding} {machine between after : Machine E} {outdated : Bool}

structure SameLoaded (before after : Machine E) : Prop where
  level : after.level.loaded = before.level.loaded
  scene : after.scene.loaded = before.scene.loaded

theorem SameLoaded.of_parts (level : after.level = machine.level)
    (scene : after.scene = machine.scene) : machine.SameLoaded after :=
  ⟨by rw [level], by rw [scene]⟩

theorem SameLoaded.of_sameExcept {parts : List Part} (same : machine.SameExcept parts after)
    (level : .level ∉ parts) (scene : .scene ∉ parts) : machine.SameLoaded after :=
  .of_parts (same.level level) (same.scene scene)

theorem attempt_sameLoaded {change : Except Diagnostic (Machine E)}
    (ensures : Ensures machine.SameLoaded change) :
    machine.SameLoaded (machine.attempt change).machine :=
  attempt_keeps (fun _ => ⟨rfl, rfl⟩) ensures

theorem editArea_sameLoaded (opcode : Opcode) (change : Area → Area) :
    Ensures machine.SameLoaded (machine.editArea opcode change) := by
  intro after changed
  unfold editArea at changed
  split at changed <;> cases changed
  exact ⟨rfl, rfl⟩

theorem addEntry_sameLoaded (opcode : Opcode) (cost : Nat) (link : Area → Area) :
    Ensures machine.SameLoaded (machine.addEntry opcode cost link) := by
  intro after added
  unfold addEntry at added
  split at added
  next => cases added
  next =>
    split at added <;> cases added
    exact ⟨rfl, rfl⟩

theorem placeSpawn_sameLoaded (opcode : Opcode) (spawn : Spawn) :
    Ensures machine.SameLoaded (machine.placeSpawn opcode spawn) := by
  intro after placed
  unfold placeSpawn at placed
  split at placed
  next => exact addEntry_sameLoaded _ _ _ after placed
  next =>
    cases placed
    exact ⟨rfl, rfl⟩

theorem loadModel_sameLoaded (opcode : Opcode) (model : UInt16) (source : ModelSource) :
    Ensures machine.SameLoaded (machine.loadModel opcode model source) := by
  intro after loaded
  unfold loadModel at loaded
  split at loaded
  next => cases loaded
  next scene succeeded =>
    cases loaded
    exact ⟨rfl, Scene.loaded_of_loadModel succeeded⟩

theorem beginArea_sameLoaded (index : UInt8) (geometry : Address) :
    machine.SameLoaded (machine.beginArea index geometry).machine := by
  have level (area : Area) : (machine.level.beginArea area).loaded = machine.level.loaded := by
    unfold Level.beginArea
    split <;> rfl
  unfold beginArea
  split
  next => exact ⟨rfl, rfl⟩
  next =>
    split
    next => exact ⟨rfl, rfl⟩
    next root scene built =>
      split <;> exact ⟨level _, Scene.loaded_of_buildArea built⟩

theorem endArea_sameLoaded : machine.SameLoaded machine.endArea.machine := by
  refine attempt_sameLoaded fun after ended => ?_
  split at ended <;> cases ended
  exact ⟨rfl, rfl⟩

theorem getOrSet_sameLoaded (mode var : UInt8) :
    machine.SameLoaded (machine.getOrSet mode var).machine := by
  refine attempt_sameLoaded fun after changed => ?_
  split at changed
  next => cases changed
  next =>
    split at changed
    next =>
      cases changed
      exact ⟨rfl, rfl⟩
    next =>
      split at changed <;> cases changed
      exact ⟨rfl, rfl⟩

theorem placeObjectExt2_sameLoaded (position angle : Vec3) (behaviorArg modelToken : UInt32)
    (behaviorToken : Except ReadFault UInt32) (acts : UInt8) :
    machine.SameLoaded (machine.placeObjectExt2 position angle behaviorArg modelToken behaviorToken
      acts).machine := by
  unfold placeObjectExt2
  split
  next => exact ⟨rfl, rfl⟩
  next =>
    split
    next => exact ⟨rfl, rfl⟩
    next => exact attempt_sameLoaded (ensures_bind fun _ => placeSpawn_sameLoaded _ _)

section Hosts

variable (hosts : machine.AllHosts E.SparesLoaded)
include hosts

theorem invokeHost_sameLoaded {id : UInt32} {argument : Int16} {value : Int32}
    (called : machine.invokeHost id argument = .ok (value, after)) : machine.SameLoaded after := by
  unfold invokeHost at called
  split at called
  next => cases called
  next function known =>
    cases called
    exact ⟨hosts id function known function .refl _ _ _, rfl⟩

theorem call_sameLoaded (argument : Int16) (function : UInt32) :
    machine.SameLoaded (machine.call argument function).machine := by
  unfold call
  split
  next => exact ⟨rfl, rfl⟩
  next value called answered =>
    have spared := invokeHost_sameLoaded hosts answered
    exact ⟨spared.level, spared.scene⟩

theorem callLoop_sameLoaded (argument : Int16) (function : UInt32) :
    machine.SameLoaded (machine.callLoop argument function).machine := by
  unfold callLoop
  split
  next => exact ⟨rfl, rfl⟩
  next value called answered =>
    have spared := invokeHost_sameLoaded hosts answered
    have same := holdWhileZero_sameExcept value (called.setRegister value)
    exact ⟨(congrArg Level.loaded (same.level (by simp))).trans spared.level,
      (congrArg Scene.loaded (same.scene (by simp))).trans spared.scene⟩

end Hosts

/-- Whether the scene has a loaded area that the level has been cleared of, when an instruction has been
run. -/
def outdatedBy (instruction : Instruction) (outdated : Bool) (machine : Machine E) : Bool :=
  match instruction with
  | .clearLevel => outdated || machine.level.loaded.isSome
  | .initLevel => false
  | .loadArea index => outdated && (machine.level.area? index).isNone
  | _ => outdated

/-- The records agree, unless the scene's is out of date: then it has an area and the level has none. -/
structure Records (outdated : Bool) (machine : Machine E) : Prop where
  level : machine.level.loaded = if outdated then none else machine.scene.loaded
  scene : outdated → machine.scene.loaded ≠ none

namespace Records

variable (records : machine.Records outdated)
include records

theorem of_same (same : machine.SameLoaded after) : after.Records outdated where
  level := by rw [same.level, same.scene, records.level]
  scene := by rw [same.scene]; exact records.scene

theorem agree_iff : machine.level.loaded = machine.scene.loaded ↔ outdated = false := by
  rw [records.level]
  cases outdated with
  | false => simp
  | true => simpa using (records.scene rfl).symm

theorem clearLevel :
    machine.clearLevel.machine.Records (outdated || machine.level.loaded.isSome) := by
  have popped := popCheckpoint_sameExcept .clearLevel { machine with
    scene := machine.scene.clearObjects
    level := machine.level.clearAreas }
  have level : machine.clearLevel.machine.level.loaded = none :=
    congrArg Level.loaded (popped.level (by simp))
  have scene := congrArg Scene.loaded (popped.scene (by simp))
  change machine.clearLevel.machine.scene.loaded = machine.scene.loaded at scene
  rw [records.level]
  cases outdated with
  | true => exact ⟨level, fun _ => scene ▸ records.scene rfl⟩
  | false =>
    refine ⟨?_, fun loaded => ?_⟩
    · rw [level, scene]
      cases machine.scene.loaded <;> rfl
    · rw [scene]
      exact Option.isSome_iff_ne_none.mp loaded

theorem loadArea (index : UInt8) :
    (machine.loadArea index).machine.Records
      (outdated && (machine.level.area? index).isNone) := by
  unfold Machine.loadArea
  cases machine.level.area? index with
  | none =>
    rw [Option.isNone_none, Bool.and_true]
    exact records.of_same ⟨rfl, rfl⟩
  | some area =>
    rw [Option.isNone_some, Bool.and_false]
    exact ⟨(Scene.loaded_loadArea index area.spawns).symm, nofun⟩

theorem unloadArea : machine.unloadArea.machine.Records outdated := by
  unfold Machine.unloadArea
  cases loaded : machine.level.loaded with
  | none => exact records.of_same ⟨rfl, rfl⟩
  | some index =>
    have level := records.level
    cases outdated with
    | true => cases loaded.symm.trans level
    | false =>
      have scene : machine.scene.loaded = some index := level.symm.trans loaded
      refine ⟨?_, nofun⟩
      change none = if machine.scene.loaded = some index then none else machine.scene.loaded
      rw [if_pos scene]

theorem exec (hosts : machine.AllHosts E.SparesLoaded) (instruction : Instruction)
    (following : Pointer) : (machine.exec instruction following).machine.Records
      (machine.outdatedBy instruction outdated) := by
  cases instruction with
  | initLevel => exact ⟨rfl, nofun⟩
  | clearLevel => exact records.clearLevel
  | loadArea index => exact records.loadArea index
  | unloadArea => exact records.unloadArea
  | call argument function => exact records.of_same (call_sameLoaded hosts argument function)
  | callLoop argument function =>
    exact records.of_same (callLoop_sameLoaded hosts argument function)
  | beginArea index geometry => exact records.of_same (beginArea_sameLoaded index geometry)
  | endArea => exact records.of_same endArea_sameLoaded
  | getOrSet mode var => exact records.of_same (getOrSet_sameLoaded mode var)
  | loadModelFromDl | loadModelFromGeo | loadModelScaled =>
    exact records.of_same (attempt_sameLoaded (loadModel_sameLoaded _ _ _))
  | loadModelFromGeoExt =>
    exact records.of_same (attempt_sameLoaded (ensures_bind fun _ => loadModel_sameLoaded _ _ _))
  | placeObject spawn => exact records.of_same (attempt_sameLoaded (placeSpawn_sameLoaded _ _))
  | placeObjectExt =>
    exact records.of_same (attempt_sameLoaded (ensures_bind fun _ => placeSpawn_sameLoaded _ _))
  | placeObjectExt2 => exact records.of_same (placeObjectExt2_sameLoaded _ _ _ _ _ _)
  | createWarpNode node => exact records.of_same (attempt_sameLoaded (addEntry_sameLoaded _ _ _))
  | createPaintingWarpNode | createInstantWarp | createWhirlpool =>
    exact records.of_same
      (attempt_sameLoaded (ensures_inSlot _ _ _ fun _ => addEntry_sameLoaded _ _ _))
  | showDialog =>
    exact records.of_same
      (attempt_sameLoaded (ensures_inSlot _ _ _ fun _ => editArea_sameLoaded _ _))
  | setTerrainData | setRooms | setTerrainType | setMusic | setMacroObjects =>
    exact records.of_same (attempt_sameLoaded (editArea_sameLoaded _ _))
  | allocLevelPool | freeLevelPool | setPlayerStartPos | initPlayer | unloadPlayerArea
  | updateObjects => exact records.of_same ⟨rfl, rfl⟩
  | _ =>
    -- What is left has neither the level nor the scene in its footprint.
    exact records.of_same (.of_sameExcept (exec_sameExcept _ following machine)
      (by simp [Instruction.footprint]) (by simp [Instruction.footprint]))

end Records

/-- Host and patches leave the area that is loaded, and bring in no host function that does not. -/
structure KeepsLoaded (before after : Machine E) : Prop extends before.SameLoaded after where
  hosts : before.AllHosts E.SparesLoaded → after.AllHosts E.SparesLoaded

theorem outdatedBy_of_fault {instruction : Instruction} {following : Pointer} {fault : Fault}
    (failed : (machine.exec instruction following).flow = .error fault) (outdated : Bool) :
    machine.outdatedBy instruction outdated = outdated := by
  cases instruction with
  | initLevel => cases failed
  | clearLevel => cases failed
  | loadArea index =>
    have went : (machine.exec (.loadArea index) following).Onward := onward_attempt _
    rcases went with next | hold
    · cases next.symm.trans failed
    · cases hold.symm.trans failed
  | _ => rfl

end Machine

def PatchesKeepLoaded (E : Embedding) [Patches E] : Prop :=
  ∀ patch command (machine : Machine E),
    machine.KeepsLoaded (Patches.run patch command machine).machine

namespace Run

variable {E : Embedding}

/-- Whether the scene's record is out of date after the next step. -/
def outdates (outdated : Bool) (run : Run E) : Bool :=
  match run.runs? with
  | some (_, instruction) => run.machine.outdatedBy instruction outdated
  | none => outdated

variable [Patches E] {run next : Run E} {outdated : Bool}

/-- The sessions of a machine with records that agree, as those of a new machine do, in which only
commands load and unload areas, and whether the scene's record is out of date by then. -/
inductive Shows : Bool → Run E → Prop where
  | start {machine : Machine E} (agree : machine.level.loaded = machine.scene.loaded)
    (hosts : machine.AllHosts E.SparesLoaded) (pointer : Pointer) :
    Shows false (start pointer machine)
  | step {outdated : Bool} {run next : Run E} (shows : Shows outdated run) (step : run.Step next) :
    Shows (run.outdates outdated) next
  | restart {outdated : Bool} {run : Run E} {ending : Machine.Ending E} {machine : Machine E}
    (shows : Shows outdated run) (ended : run.Ends ending)
    (kept : (Machine.finish ending).2.KeepsLoaded machine) (pointer : Pointer) :
    Shows outdated (start pointer machine)

theorem records_of_step (patches : PatchesKeepLoaded E)
    (running : run.machine.context.status = .running) (records : run.machine.Records outdated)
    (hosts : run.machine.AllHosts E.SparesLoaded) :
    (run.machine.step run.canonical run.cursor).2.Records (run.outdates outdated) ∧
      (run.machine.step run.canonical run.cursor).2.AllHosts E.SparesLoaded := by
  let kept (after : Machine E) :=
    after.Records (run.outdates outdated) ∧ after.AllHosts E.SparesLoaded
  have same : run.runs? = none → run.machine.Records (run.outdates outdated) := by
    intro idle
    rwa [outdates, idle]
  have stepped : kept (run.machine.step run.canonical run.cursor).2 := by
    refine step_keeps running ?_ ?_ ?_ ?_
    · intro command instruction runs
      refine ⟨?_, hosts.exec (fun _ spares => spares.later) instruction command.next⟩
      rw [outdates, runs]
      exact records.exec hosts instruction command.next
    · intro patch command dispatched
      have idle : run.runs? = none := by simp [runs?, dispatched]
      have patched := patches patch command run.machine
      exact ⟨(same idle).of_same patched.toSameLoaded, patched.hosts hosts⟩
    · intro idle
      exact ⟨⟨same idle, hosts⟩, (same idle).of_same ⟨rfl, rfl⟩, hosts.of_hosts rfl⟩
    · rintro pointer after ⟨records, hosts⟩
      have followed := after.followOverrides_sameExcept pointer
      exact ⟨records.of_same (.of_sameExcept followed (by simp) (by simp)),
        hosts.of_hosts (followed.hosts (by simp))⟩
  exact stepped

theorem records_of_ends (patches : PatchesKeepLoaded E) {ending : Machine.Ending E}
    (ended : run.Ends ending) (records : run.machine.Records outdated)
    (hosts : run.machine.AllHosts E.SparesLoaded) :
    ending.machine.Records outdated ∧ ending.machine.AllHosts E.SparesLoaded := by
  cases ended with
  | yields => exact ⟨records, hosts⟩
  | stops => exact ⟨records, hosts⟩
  | faults running faulted =>
    have unchanged : run.outdates outdated = outdated := by
      unfold outdates
      split
      next command instruction runs =>
        rw [step_of_runs? runs] at faulted
        exact Machine.outdatedBy_of_fault (Machine.settle_eq_error.mp faulted).1 outdated
      next => rfl
    have stepped := records_of_step patches running records hosts
    rwa [faulted, unchanged] at stepped

theorem Shows.records (patches : PatchesKeepLoaded E) (shows : Shows outdated run) :
    run.machine.Records outdated ∧ run.machine.AllHosts E.SparesLoaded := by
  have started {outdated : Bool} {machine : Machine E} (records : machine.Records outdated)
      (hosts : machine.AllHosts E.SparesLoaded) (pointer : Pointer) :
      (Run.start pointer machine).machine.Records outdated ∧
        (Run.start pointer machine).machine.AllHosts E.SparesLoaded := by
    have same := start_sameExcept pointer machine
    exact ⟨records.of_same (.of_sameExcept same (by simp) (by simp)),
      hosts.of_hosts (same.hosts (by simp))⟩
  induction shows with
  | @start machine agree hosts pointer =>
    have records : machine.Records false := ⟨agree, nofun⟩
    exact started records hosts pointer
  | @step outdated run next _ step ih =>
    obtain ⟨running, went, _⟩ := step_iff.mp step
    have stepped := records_of_step patches running ih.1 ih.2
    rwa [went] at stepped
  | @restart outdated run ending machine _ ended kept pointer ih =>
    obtain ⟨records, hosts⟩ := records_of_ends patches ended ih.1 ih.2
    have same := Machine.finish_sameExcept ending
    have finished : (Machine.finish ending).2.Records outdated :=
      records.of_same (.of_sameExcept same (by simp) (by simp))
    exact started (finished.of_same kept.toSameLoaded)
      (kept.hosts (hosts.of_hosts (same.hosts (by simp)))) pointer

/-- The level and the scene agree on the area that is loaded in every state of a session, except when
the level has been cleared while an area was loaded and, since then, has not been initialized and has
loaded no area. -/
theorem loaded_agree_iff (patches : PatchesKeepLoaded E) (shows : Shows outdated run) :
    (run.machine.level.loaded = run.machine.scene.loaded ↔ outdated = false) ∧
      ∀ ending, run.Ends ending →
        (ending.machine.level.loaded = ending.machine.scene.loaded ↔ outdated = false) := by
  obtain ⟨records, hosts⟩ := shows.records patches
  exact ⟨records.agree_iff, fun ending ended =>
    (records_of_ends patches ended records hosts).1.agree_iff⟩

def shown? : Nat → Bool → Run E → Option (Bool × Run E)
  | 0, outdated, run => some (outdated, run)
  | count + 1, outdated, run => do shown? count (run.outdates outdated) (← run.next?)

theorem Shows.of_shown? {count : Nat} {later : Bool} {last : Run E} (shows : Shows outdated run)
    (came : run.shown? count outdated = some (later, last)) : Shows later last := by
  induction count generalizing outdated run with
  | zero =>
    cases came
    exact shows
  | succ count ih =>
    simp only [shown?, Option.bind_eq_bind, Option.bind_eq_some_iff] at came
    obtain ⟨next, step, came⟩ := came
    exact ih (shows.step step) came

theorem patchesKeepLoaded_scripted : PatchesKeepLoaded Scripted.embedding := by
  intro patch command machine
  cases (patch : Scripted.Instrument) <;> exact ⟨⟨rfl, rfl⟩, fun hosts => hosts.of_hosts rfl⟩

/-- Makes a level with one area, loads the area, and clears the level. -/
def evacuatedScript : Bytes := #[
  0x19, 4, 0, 0,
  0x1D, 8, 0, 0, 0, 0, 0, 14,
  0x1E, 4, 0, 0,
  0x27, 4, 0, 0,
  0x1A, 4, 0, 0,
  0x02, 4, 0, 0]

def evacuated : Machine Scripted.embedding :=
  let scene := Scene.empty.defineGeometry ⟨0x0E000000⟩ true
  { (ofScript #[] evacuatedScript).machine with scene }

theorem shows_evacuated : Shows false (start ⟨0, 0⟩ evacuated) := by
  have hosts : evacuated.AllHosts Scripted.embedding.SparesLoaded :=
    (allHosts_ofScript #[] evacuatedScript _).of_hosts rfl
  exact .start (by decide +kernel) hosts ⟨0, 0⟩

/-- Both records name the area when it has been loaded. -/
theorem loaded_agree_iff_evacuated : ∃ run : Run Scripted.embedding, Shows false run ∧
    run.machine.level.loaded = some 0 ∧ run.machine.scene.loaded = some 0 := by
  let shown := ((start ⟨0, 0⟩ evacuated).shown? 4 false).get (by decide +kernel)
  have current : shown.1 = false := by decide +kernel
  have shows : Shows shown.1 shown.2 := shows_evacuated.of_shown? (Option.some_get _).symm
  rw [current] at shows
  have level : shown.2.machine.level.loaded = some 0 := by decide +kernel
  have agree := (loaded_agree_iff patchesKeepLoaded_scripted shows).1.mpr rfl
  exact ⟨shown.2, shows, level, agree ▸ level⟩

/-- When the level has been cleared, the scene still has the area. -/
theorem cleared_area_stays : ∃ run, (start ⟨0, 0⟩ evacuated).reached? 5 = some run ∧
    run.machine.level.loaded = none ∧ run.machine.scene.loaded = some 0 := by
  let run := ((start ⟨0, 0⟩ evacuated).reached? 5).get (by decide +kernel)
  exact ⟨run, (Option.some_get _).symm, by decide +kernel, by decide +kernel⟩

end Run

end StageScript
