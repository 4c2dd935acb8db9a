import StageScript.Proofs.Footprint

/-!
An execution scope gives back the memory it took. Whatever is loaded, saved and popped inside it,
and however often its content is replaced, the exit that closes it restores the segments, the
count of used bytes and the pooled buffers. Permanent buffers and fixed mappings stay.
-/

namespace StageScript

namespace Memory

variable {base memory after : Memory}

/-- A memory inside a scope that was opened over another one, under the given checkpoints. -/
structure Guarded (base memory : Memory) (inner : List Checkpoint) (checkpoint : Checkpoint) :
    Prop where
  image : memory.image = base.image
  capacity : memory.capacity = base.capacity
  checkpoints : memory.checkpoints = inner ++ checkpoint :: base.checkpoints
  used : checkpoint.used = base.used
  segments : checkpoint.segments = base.segments
  opened : base.slots.size ≤ checkpoint.nextBuffer
  issued : checkpoint.nextBuffer ≤ memory.slots.size
  nested : ∀ later ∈ inner, checkpoint.nextBuffer ≤ later.nextBuffer
  kept : ∀ id < base.slots.size, memory.slot? id = base.slot? id
  settled : ∀ id, base.slots.size ≤ id → id < checkpoint.nextBuffer → memory.pooled? id = none

/-- What the close of a scope leaves: the memory it was opened over, and what is permanent. -/
structure Restored (base memory after : Memory) : Prop where
  image : after.image = base.image
  capacity : after.capacity = base.capacity
  checkpoints : after.checkpoints = base.checkpoints
  used : after.used = base.used
  segments : after.segments = base.segments
  pooled : ∀ id, after.pooled? id = base.pooled? id
  issued : base.slots.size ≤ after.slots.size
  kept : ∀ id < base.slots.size, after.slot? id = base.slot? id
  permanent : ∀ id, after.permanent? id = memory.permanent? id
  fixed : after.fixed = memory.fixed

def InScopeOf (memory base : Memory) : Prop :=
  ∃ inner checkpoint, Guarded base memory inner checkpoint

theorem pooled?_of_slot? {id : BufferId} (same : after.slot? id = memory.slot? id) :
    after.pooled? id = memory.pooled? id := by
  rw [pooled?, pooled?, same]

namespace Guarded

variable {inner : List Checkpoint} {checkpoint : Checkpoint}

theorem pushState (guarded : Guarded base memory inner checkpoint) :
    Guarded base memory.pushState
      (⟨memory.used, memory.slots.size, memory.segments⟩ :: inner) checkpoint :=
  { guarded with
    checkpoints := congrArg _ guarded.checkpoints
    nested later member := by
      rcases List.mem_cons.mp member with rfl | member
      · exact guarded.issued
      · exact guarded.nested later member }

theorem grow {buffer : Buffer} (guarded : Guarded base memory inner checkpoint)
    (image : after.image = memory.image) (capacity : after.capacity = memory.capacity)
    (checkpoints : after.checkpoints = memory.checkpoints)
    (slots : after.slots = memory.slots.push (some buffer)) :
    Guarded base after inner checkpoint := by
  have same (id : BufferId) (issued : id < memory.slots.size) : after.slot? id = memory.slot? id :=
    slot?_push_of_lt slots issued
  have issued := guarded.issued
  exact { guarded with
    image := image.trans guarded.image
    capacity := capacity.trans guarded.capacity
    checkpoints := checkpoints.trans guarded.checkpoints
    issued := by rw [slots, Array.size_push]; exact Nat.le_succ_of_le issued
    kept id old := (same id (Nat.lt_of_lt_of_le old (Nat.le_trans guarded.opened issued))).trans
      (guarded.kept id old)
    settled id new old := (pooled?_of_slot? (same id (Nat.lt_of_lt_of_le old issued))).trans
      (guarded.settled id new old) }

theorem pop_inner {later : Checkpoint} (guarded : Guarded base memory (later :: inner) checkpoint) :
    Guarded base (memory.revert later (inner ++ checkpoint :: base.checkpoints)) inner checkpoint := by
  have above : checkpoint.nextBuffer ≤ later.nextBuffer := guarded.nested later (by simp)
  have same (id : BufferId) (below : id < checkpoint.nextBuffer) :
      (memory.revert later (inner ++ checkpoint :: base.checkpoints)).slot? id =
        memory.slot? id :=
    slot?_revert_of_lt _ (Nat.lt_of_lt_of_le below above)
  exact { guarded with
    checkpoints := rfl
    issued := by rw [size_revert]; exact guarded.issued
    nested other member := guarded.nested other (List.mem_cons_of_mem _ member)
    kept id old := (same id (Nat.lt_of_lt_of_le old guarded.opened)).trans (guarded.kept id old)
    settled id new old := (pooled?_of_slot? (same id old)).trans (guarded.settled id new old) }

theorem close (guarded : Guarded base memory [] checkpoint) :
    Restored base memory (memory.revert checkpoint base.checkpoints) := by
  have kept (id : BufferId) (old : id < base.slots.size) :
      (memory.revert checkpoint base.checkpoints).slot? id = base.slot? id := by
    rw [slot?_revert_of_lt _ (Nat.lt_of_lt_of_le old guarded.opened), guarded.kept id old]
  refine {
    image := guarded.image
    capacity := guarded.capacity
    checkpoints := rfl
    used := guarded.used
    segments := guarded.segments
    pooled := ?_
    issued := by rw [size_revert]; exact Nat.le_trans guarded.opened guarded.issued
    kept := kept
    permanent := permanent?_revert checkpoint base.checkpoints
    fixed := rfl }
  intro id
  by_cases old : id < base.slots.size
  · exact pooled?_of_slot? (kept id old)
  · -- a slot that came later is released, or was settled when the checkpoint was made
    have unused : base.pooled? id = none := by
      rw [pooled?, slot?_of_size_le (Nat.not_lt.mp old), Option.filter_none]
    rw [unused, pooled?_revert]
    split
    next => rfl
    next below => exact guarded.settled id (Nat.not_lt.mp old) (Nat.not_le.mp below)

end Guarded

theorem InScopeOf.pushState (inside : memory.InScopeOf base) : memory.pushState.InScopeOf base := by
  obtain ⟨_, _, guarded⟩ := inside
  exact ⟨_, _, guarded.pushState⟩

theorem Restored.reopen (restored : Restored base memory after) : after.pushState.InScopeOf base :=
  ⟨[], ⟨after.used, after.slots.size, after.segments⟩, {
    image := restored.image
    capacity := restored.capacity
    checkpoints := congrArg _ restored.checkpoints
    used := restored.used
    segments := restored.segments
    opened := restored.issued
    issued := Nat.le_refl _
    nested := by simp
    kept := restored.kept
    settled id new _ := (restored.pooled id).trans (by
      rw [pooled?, slot?_of_size_le new, Option.filter_none]) }⟩

theorem Restored.refl (memory : Memory) : Restored memory memory memory := by
  constructor <;> simp

/-- Popping a checkpoint leaves the scope open, or closes it at the depth it was opened at. -/
theorem InScopeOf.popState (inside : memory.InScopeOf base)
    (popped : memory.popState = .ok after) :
    after.InScopeOf base ∨
      memory.checkpoints.length = base.checkpoints.length + 1 ∧ Restored base memory after := by
  obtain ⟨inner, checkpoint, guarded⟩ := inside
  cases inner with
  | nil =>
    rw [popState_of_checkpoints guarded.checkpoints] at popped
    cases popped
    exact .inr ⟨by rw [guarded.checkpoints]; rfl, guarded.close⟩
  | cons later inner =>
    rw [popState_of_checkpoints guarded.checkpoints] at popped
    cases popped
    exact .inl ⟨inner, checkpoint, guarded.pop_inner⟩

theorem InScopeOf.depth_lt (inside : memory.InScopeOf base) :
    base.checkpoints.length < memory.checkpoints.length := by
  obtain ⟨inner, checkpoint, guarded⟩ := inside
  rw [guarded.checkpoints, List.length_append, List.length_cons]
  omega

theorem InScopeOf.popState_of_deeper (inside : memory.InScopeOf base)
    (popped : memory.popState = .ok after)
    (deeper : base.checkpoints.length < after.checkpoints.length) : after.InScopeOf base := by
  rcases inside.popState popped with still | ⟨_, restored⟩
  · exact still
  · rw [restored.checkpoints] at deeper
    exact absurd deeper (Nat.lt_irrefl _)

theorem InScopeOf.grow {buffer : Buffer} (inside : memory.InScopeOf base)
    (image : after.image = memory.image) (capacity : after.capacity = memory.capacity)
    (checkpoints : after.checkpoints = memory.checkpoints)
    (slots : after.slots = memory.slots.push (some buffer)) : after.InScopeOf base := by
  obtain ⟨inner, checkpoint, guarded⟩ := inside
  exact ⟨inner, checkpoint, guarded.grow image capacity checkpoints slots⟩

/-- A scope whose content is replaced is saved by a checkpoint that is as good as the old one. -/
theorem InScopeOf.replaceState (inside : memory.InScopeOf base) :
    memory.replaceState.InScopeOf base := by
  unfold Memory.replaceState
  split
  next popped was =>
    rcases inside.popState was with still | ⟨_, restored⟩
    · exact still.pushState
    · exact restored.reopen
  next => exact inside.pushState

theorem InScopeOf.loadRange {load : SegmentLoad} {compression : Compression} {buffer : BufferId}
    (inside : memory.InScopeOf base) (loaded : memory.loadRange load compression = .ok (buffer, after)) :
    after.InScopeOf base := by
  obtain ⟨_, _, _, _, _, _, _, rfl⟩ := loadSegment_eq_ok loaded
  exact inside.grow rfl rfl rfl rfl

theorem InScopeOf.loadFixed {dest : Address} {start stop : Nat} {buffer : BufferId}
    (inside : memory.InScopeOf base) (loaded : memory.loadFixed dest start stop = .ok (buffer, after)) :
    after.InScopeOf base := by
  obtain ⟨_, _, _, _, _, rfl⟩ := loadFixed_eq_ok loaded
  exact inside.grow rfl rfl rfl rfl

/-- What an instruction comes to in memory. -/
inductive Moved (before : Memory) : Instruction → Memory → Prop where
  | kept (instruction : Instruction) : Moved before instruction before
  | pushPool : Moved before .pushPool before.pushState
  | popPool {after : Memory} (popped : before.popState = .ok after) : Moved before .popPool after
  | initLevel : Moved before .initLevel before.pushState
  | clearLevel {after : Memory} (popped : before.popState = .ok after) :
    Moved before .clearLevel after
  | exit {after : Memory} (popped : before.popState = .ok after) : Moved before .exit after
  | loadFixed {dest : Address} {start stop : UInt32} {buffer : BufferId} {after : Memory}
    (loaded : before.loadFixed dest start.toNat stop.toNat = .ok (buffer, after)) :
    Moved before (.loadFixed dest start stop) after
  | loadRaw {load : SegmentLoad} {buffer : BufferId} {after : Memory}
    (loaded : before.loadRange load .raw = .ok (buffer, after)) : Moved before (.loadRaw load) after
  | loadCompressed {load : SegmentLoad} {buffer : BufferId} {after : Memory}
    (loaded : before.loadRange load .mio0 = .ok (buffer, after)) :
    Moved before (.loadCompressed load) after
  | executeUnresolved {load : SegmentLoad} {entry : Address} {buffer : BufferId}
    {loaded after : Memory} (loads : before.pushState.loadRange load .raw = .ok (buffer, loaded))
    (popped : loaded.popState = .ok after) : Moved before (.execute load entry) after
  | execute {load : SegmentLoad} {entry : Address} {buffer : BufferId} {after : Memory}
    (loaded : before.pushState.loadRange load .raw = .ok (buffer, after)) :
    Moved before (.execute load entry) after
  | exitAndExecuteUnloaded {load : SegmentLoad} {entry : Address} :
    Moved before (.exitAndExecute load entry) before.replaceState
  | exitAndExecute {load : SegmentLoad} {entry : Address} {buffer : BufferId} {after : Memory}
    (loaded : before.replaceState.loadRange load .raw = .ok (buffer, after)) :
    Moved before (.exitAndExecute load entry) after

theorem InScopeOf.moved {instruction : Instruction} (inside : memory.InScopeOf base)
    (moved : memory.Moved instruction after)
    (deeper : base.checkpoints.length < after.checkpoints.length) : after.InScopeOf base := by
  cases moved with
  | kept => exact inside
  | pushPool => exact inside.pushState
  | popPool popped => exact inside.popState_of_deeper popped deeper
  | initLevel => exact inside.pushState
  | clearLevel popped => exact inside.popState_of_deeper popped deeper
  | exit popped => exact inside.popState_of_deeper popped deeper
  | loadFixed loaded => exact inside.loadFixed loaded
  | loadRaw loaded => exact inside.loadRange loaded
  | loadCompressed loaded => exact inside.loadRange loaded
  | executeUnresolved loads popped =>
    exact (inside.pushState.loadRange loads).popState_of_deeper popped deeper
  | execute loaded => exact inside.pushState.loadRange loaded
  | exitAndExecuteUnloaded => exact inside.replaceState
  | exitAndExecute loaded => exact inside.replaceState.loadRange loaded

theorem InScopeOf.of_execute {load : SegmentLoad} {entry : Address}
    (moved : base.Moved (.execute load entry) after)
    (deeper : base.checkpoints.length < after.checkpoints.length) : after.InScopeOf base := by
  have opened : base.pushState.InScopeOf base := (Restored.refl base).reopen
  cases moved with
  | kept => exact absurd deeper (Nat.lt_irrefl _)
  | execute loaded => exact opened.loadRange loaded
  | executeUnresolved loads popped => exact (opened.loadRange loads).popState_of_deeper popped deeper

end Memory

namespace Machine

variable {E : Embedding}

theorem memory_popCheckpoint (opcode : Opcode) (machine : Machine E) :
    (machine.popCheckpoint opcode).memory = machine.memory ∨
      machine.memory.popState = .ok (machine.popCheckpoint opcode).memory := by
  rcases machine.popCheckpoint_cases opcode with ⟨after, popped, same⟩ | ⟨_, same⟩
  · rw [same]
    exact .inr popped
  · rw [same]
    exact .inl rfl

theorem exec_memory_moved (instruction : Instruction) (following : Pointer) (machine : Machine E) :
    machine.memory.Moved instruction (machine.exec instruction following).machine.memory := by
  by_cases absent : Part.memory ∉ instruction.footprint
  · rw [(exec_sameExcept instruction following machine).memory absent]
    exact .kept _
  · cases instruction with
    | execute load entry =>
      rcases machine.execute_cases load entry following with
        ⟨_, _, same⟩ | ⟨_, _, same⟩ | ⟨_, _, _, loads, _, popped, same⟩ |
        ⟨_, _, _, _, _, loads, _, same⟩ <;> rw [exec, same]
      · exact .kept _
      · exact .kept _
      · exact .executeUnresolved loads popped
      · exact .execute loads
    | exitAndExecute load entry =>
      rcases machine.exitAndExecute_cases load entry with
        ⟨_, _, same⟩ | ⟨_, _, loads, _, same⟩ | ⟨_, _, _, loads, _, same⟩ <;> rw [exec, same]
      · simp only [next, report, memory_replaceCheckpoint]
        exact .exitAndExecuteUnloaded
      · exact .exitAndExecute loads
      · exact .exitAndExecute loads
    | exit =>
      rcases machine.exit_cases with ⟨_, same⟩ | ⟨_, _, same⟩ | ⟨_, stack, _, same⟩ <;>
        rw [exec, same]
      · exact .kept _
      · exact .kept _
      · rcases memory_popCheckpoint .exit { machine with stack } with kept | popped
        · rw [goto, kept]
          exact .kept _
        · exact .exit popped
    | pushPool => exact .pushPool
    | popPool =>
      rcases machine.memory_popCheckpoint .popPool with kept | popped
      · rw [exec, next, kept]
        exact .kept _
      · exact .popPool popped
    | initLevel => exact .initLevel
    | clearLevel =>
      rcases memory_popCheckpoint .clearLevel { machine with
        scene := machine.scene.clearObjects, level := machine.level.clearAreas } with kept | popped
      · rw [exec, clearLevel, next, kept]
        exact .kept _
      · exact .clearLevel popped
    | loadFixed dest start stop =>
      rcases machine.loadFixed_cases dest start stop with ⟨_, same⟩ | ⟨_, _, loads, same⟩ <;>
        rw [exec, same]
      · exact .kept _
      · exact .loadFixed loads
    | loadRaw load =>
      rcases machine.loadContent_cases .loadRaw load .raw with ⟨_, same⟩ | ⟨_, _, loads, same⟩ <;>
        rw [exec, same]
      · exact .kept _
      · exact .loadRaw loads
    | loadCompressed load =>
      rcases machine.loadContent_cases .loadCompressed load .mio0 with
        ⟨_, same⟩ | ⟨_, _, loads, same⟩ <;> rw [exec, same]
      · exact .kept _
      · exact .loadCompressed loads
    | _ => exact absurd (by simp [Instruction.footprint]) absent

structure KeepsMemory (before after : Machine E) : Prop where
  memory : after.memory = before.memory
  dispatch : after.dispatch = before.dispatch

end Machine

namespace Run

variable {E : Embedding} [Patches E] {run next : Run E}

theorem Step.memory_moved_of_dispatches {command : Command} {instruction : Instruction}
    (table : run.machine.dispatch = .canonical)
    (dispatched : run.machine.Dispatches run.cursor command instruction) (step : run.Step next) :
    run.machine.memory.Moved instruction next.machine.memory := by
  obtain ⟨_, _, followed⟩ := step.of_dispatches table dispatched
  rw [(Machine.sameExcept_of_followed followed).memory (by simp)]
  exact run.machine.exec_memory_moved instruction command.next

theorem Moves.memory_moved (table : run.machine.dispatch = .canonical)
    (move : run.Moves Machine.KeepsMemory next) :
    next.machine.memory = run.machine.memory ∨
    ∃ instruction, run.machine.memory.Moved instruction next.machine.memory := by
  rcases move with step | resumed
  · rcases step.cases table with ⟨_, instruction, _, dispatched, _, _⟩ | ⟨_, paused⟩
    · exact .inr ⟨instruction, step.memory_moved_of_dispatches table dispatched⟩
    · rw [paused]
      exact .inl rfl
  · obtain ⟨ending, finished, edited, ended, same, edit, started⟩ := resumed.cases
    have kept : next.machine.memory = ending.machine.memory := by
      rw [started.memory (by simp), edit.memory, same.memory (by simp)]
    rw [kept]
    rcases ended.cases table with same | ⟨command, instruction, _, _, _, left⟩
    · exact .inl (congrArg Machine.memory same)
    · rw [left]
      exact .inr ⟨instruction, run.machine.exec_memory_moved instruction command.next⟩

/-- A scope is open over a memory, and commands have their canonical meaning. -/
structure InScope (base : Memory) (run : Run E) : Prop where
  table : run.machine.dispatch = .canonical
  inside : run.machine.memory.InScopeOf base

theorem InScope.moves {base : Memory} (scope : run.InScope base)
    (move : run.Moves Machine.KeepsMemory next)
    (deeper : base.checkpoints.length < next.machine.memory.checkpoints.length) :
    next.InScope base := by
  refine ⟨move.dispatch (fun _ _ keeps => keeps.dispatch) scope.table, ?_⟩
  rcases move.memory_moved scope.table with same | ⟨_, moved⟩
  · rw [same]
    exact scope.inside
  · exact scope.inside.moved moved deeper

/-- Once an execute command has opened a scope, an exit that returns at the depth of the scope's
own checkpoint, by whichever frame, restores the memory from before the command. -/
theorem scope_restores_memory {before entered last after : Run E} {command closing : Command}
    {load : SegmentLoad} {entry : Address} (table : before.machine.dispatch = .canonical)
    (dispatched : before.machine.Dispatches before.cursor command (.execute load entry))
    (enters : before.Step entered)
    (inside : entered.Through Machine.KeepsMemory (fun run =>
      before.machine.memory.checkpoints.length < run.machine.memory.checkpoints.length) last)
    (exits : last.machine.Dispatches last.cursor closing .exit)
    (returns : last.machine.stack.frames ≠ [])
    (level : last.machine.memory.checkpoints.length =
      before.machine.memory.checkpoints.length + 1)
    (leaves : last.Step after) :
    Memory.Restored before.machine.memory last.machine.memory after.machine.memory := by
  have opened : entered.InScope before.machine.memory :=
    ⟨enters.dispatch table,
      .of_execute (enters.memory_moved_of_dispatches table dispatched) inside.1⟩
  have scope : last.InScope before.machine.memory :=
    inside.last_of_moves opened fun _ _ scope move deeper => scope.moves move deeper
  obtain ⟨_, went, followed⟩ := leaves.of_dispatches scope.table exits
  rw [(Machine.sameExcept_of_followed followed).memory (by simp)]
  rcases last.machine.exit_cases with ⟨top, _⟩ | ⟨_, _, faulted⟩ | ⟨_, stack, _, closed⟩
  · exact absurd top returns
  · rw [Machine.exec, faulted] at went
    cases went
  · rw [Machine.exec, closed, Machine.goto]
    rcases Machine.popCheckpoint_cases .exit { last.machine with stack } with
      ⟨memory, popped, same⟩ | ⟨none, _⟩
    · rw [same]
      rcases scope.inside.popState popped with still | ⟨_, restored⟩
      · have deeper := still.depth_lt
        obtain ⟨_, _, top, rfl⟩ := Memory.popState_eq_ok.mp popped
        have level : last.machine.memory.checkpoints.length = _ := level
        rw [show last.machine.memory.checkpoints = _ from top, List.length_cons] at level
        simp only [Memory.revert] at deeper
        omega
      · exact restored
    · rw [show last.machine.memory.checkpoints = [] from none] at level
      simp at level

/-- Runs content in a scope that saves, loads and pops, loads for good, and is then replaced. -/
def replacing : Run Scripted.embedding := ofScript
  #[0x14, 4, 0, 0,
    0x17, 12, 5, 0, 0, 0, 0, 0, 4, 0, 0, 0,
    0x15, 4, 0, 0,
    0x16, 16, 0, 0, 0, 0, 0, 7, 0, 0, 0, 0, 4, 0, 0, 0,
    0x01, 16, 14, 0, 52, 0, 0, 0, 56, 0, 0, 0, 0, 0, 0, 14,
    0x02, 4, 0, 0]
  #[0x00, 16, 14, 0, 0, 0, 0, 0, 56, 0, 0, 0, 0, 0, 0, 14,
    0x02, 4, 0, 0]

theorem scope_restores_memory_replacing :
    ∃ entered last after, replacing.Step entered ∧
      entered.Through Machine.KeepsMemory (fun run =>
        replacing.machine.memory.checkpoints.length < run.machine.memory.checkpoints.length) last ∧
      last.Step after ∧
      Memory.Restored replacing.machine.memory last.machine.memory after.machine.memory := by
  let entered := replacing.next?.get (by decide +kernel)
  have enters : replacing.Step entered := (Option.some_get _).symm
  let last := (entered.ahead? (fun run =>
    replacing.machine.memory.checkpoints.length < run.machine.memory.checkpoints.length) 5).get
      (by decide +kernel)
  have inside : entered.Through Machine.KeepsMemory (fun run =>
      replacing.machine.memory.checkpoints.length < run.machine.memory.checkpoints.length) last :=
    through_of_ahead? (Option.some_get _).symm
  let after := last.next?.get (by decide +kernel)
  have leaves : last.Step after := (Option.some_get _).symm
  have dispatched : replacing.machine.Dispatches replacing.cursor
      ⟨⟨0, 0⟩, 0x00, 16, #[0x00, 16, 14, 0, 0, 0, 0, 0, 56, 0, 0, 0, 0, 0, 0, 14], .standard⟩
      (.execute ⟨14, 0, 56⟩ ⟨0x0E000000⟩) :=
    Machine.fetch?_eq_some.mp (by decide +kernel)
  have exits : last.machine.Dispatches last.cursor
      ⟨⟨4, 0⟩, 0x02, 4, #[0x02, 4, 0, 0], .standard⟩ .exit :=
    Machine.fetch?_eq_some.mp (by decide +kernel)
  exact ⟨entered, last, after, enters, inside, leaves,
    scope_restores_memory (dispatch_ofScript _ _) dispatched enters inside exits
      (by decide +kernel) (by decide +kernel) leaves⟩

end Run

end StageScript
