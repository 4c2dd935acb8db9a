import StageScript.Proofs.Calls
import StageScript.Proofs.Refusal
import StageScript.Proofs.Rollback

/-!
Execution scopes against memory checkpoints. An execute command opens one of each, and an exit
closes one of each when the frame it returns by is a scope's. The counts drift apart only where an
exit returns by the frame of a plain call, and where a scope is closed with no checkpoint popped.
-/

namespace StageScript

namespace Stack

variable {stack after : Stack}

/-- The frame on top is the return frame of the innermost scope. -/
def AtScope (stack : Stack) : Prop := stack.scopes.head? = some stack.depth

instance (stack : Stack) : Decidable stack.AtScope :=
  inferInstanceAs (Decidable (_ = _))

theorem length_scopes_of_pop {top : Frame} (well : stack.WellFormed)
    (popped : stack.pop = .ok (top, after)) :
    stack.scopes.length = after.scopes.length + if stack.AtScope then 1 else 0 := by
  obtain ⟨rest, frames, rfl⟩ := pop_eq_ok.mp popped
  have depth : stack.depth = rest.length + 1 := congrArg List.length frames
  have nested := well.nested
  have based := well.based
  unfold AtScope
  simp only [drop, depth]
  cases scopes : stack.scopes with
  | nil => simp
  | cons first others =>
    rw [scopes] at nested based
    have above := (List.pairwise_cons.mp nested).1
    have low : first ≤ stack.depth := (based first (by simp)).2.1
    by_cases closes : first = rest.length + 1
    · have kept : others.dropWhile (rest.length < ·) = others :=
        dropWhile_eq_self_of_le fun base member => by
          have := above base member
          omega
      simp [closes, kept]
    · have kept : (first :: others).dropWhile (rest.length < ·) = first :: others :=
        List.dropWhile_cons_of_neg (by simp only [decide_eq_true_eq]; omega)
      simp [closes, kept]

theorem not_atScope_of_popLoop {resume : Pointer} {remaining : Int32} (well : stack.WellFormed)
    (popped : stack.popLoop = .ok ((resume, remaining), after)) : ¬ stack.AtScope := by
  intro atScope
  obtain ⟨rest, frames, _⟩ := pop_eq_ok.mp (pop_of_popLoop popped)
  obtain ⟨_, _, back, top⟩ := well.based _ (List.mem_of_mem_head? atScope)
  rw [depth, Nat.sub_self, frames] at top
  simp at top

theorem not_atScope_of_frames (well : stack.WellFormed) (top : stack.frames = []) :
    ¬ stack.AtScope := by
  intro atScope
  have positive := (well.based _ (List.mem_of_mem_head? atScope)).1
  simp [depth, top] at positive

theorem Moved.length_scopes {following : Pointer} {instruction : Instruction}
    {flow : Except Fault Flow} (well : stack.WellFormed)
    (moved : Moved following stack instruction after flow) (opens : ¬ instruction.opensScope)
    (exits : instruction ≠ .exit) (returns : instruction ≠ .ret) :
    after.scopes.length = stack.scopes.length := by
  have pushed {frame : Frame} (pushed : stack.push frame = .ok after) :
      after.scopes.length = stack.scopes.length := by
    obtain ⟨_, rfl⟩ := push_eq_ok.mp pushed
    rfl
  have popped {resume : Pointer} {remaining : Int32}
      (popped : stack.popLoop = .ok ((resume, remaining), after)) :
      after.scopes.length = stack.scopes.length := by
    have length := length_scopes_of_pop well (pop_of_popLoop popped)
    rw [if_neg (not_atScope_of_popLoop well popped)] at length
    exact length.symm
  cases moved with
  | kept => rfl
  | jumpLink _ was => exact pushed was
  | jumpLinkIf _ was => exact pushed was
  | execute => exact absurd rfl opens
  | exitAndExecute => exact absurd rfl opens
  | exit => exact absurd rfl exits
  | ret => exact absurd rfl returns
  | loopBeginCount was => exact pushed was
  | loopBegin was => exact pushed was
  | loopAgain _ left =>
    rcases stack.setRemaining_cases left with same | ⟨_, _, _, _, same⟩ <;> rw [same]
  | loopRepeat was => exact popped was
  | loopUntil was => exact popped was

end Stack

/-- Whether a command deals with checkpoints without being an execute or an exit. -/
def Instruction.savesOrReplaces : Instruction → Bool
  | .pushPool | .popPool | .initLevel | .clearLevel | .exitAndExecute .. => true
  | _ => false

theorem Memory.Moved.checkpoints {memory after : Memory} {instruction : Instruction}
    (moved : memory.Moved instruction after) (plain : ¬ instruction.savesOrReplaces)
    (opens : ¬ instruction.opensScope) (exits : instruction ≠ .exit) :
    after.checkpoints = memory.checkpoints := by
  cases moved with
  | kept => rfl
  | loadFixed loaded =>
    obtain ⟨_, _, _, _, _, rfl⟩ := loadFixed_eq_ok loaded
    rfl
  | loadRaw loaded =>
    obtain ⟨_, _, _, _, _, _, _, rfl⟩ := loadSegment_eq_ok loaded
    rfl
  | loadCompressed loaded =>
    obtain ⟨_, _, _, _, _, _, _, rfl⟩ := loadSegment_eq_ok loaded
    rfl
  | exit => exact absurd rfl exits
  | executeUnresolved => exact absurd rfl opens
  | execute => exact absurd rfl opens
  | exitAndExecuteUnloaded => exact absurd rfl opens
  | exitAndExecute => exact absurd rfl opens
  | _ => exact absurd rfl plain

theorem Instruction.eq_execute_of_opensScope {instruction : Instruction}
    (opens : instruction.opensScope) (plain : ¬ instruction.savesOrReplaces) :
    ∃ load entry, instruction = .execute load entry := by
  cases instruction with
  | execute load entry => exact ⟨load, entry, rfl⟩
  | exitAndExecute => exact absurd rfl plain
  | _ => cases opens

namespace Machine

variable {E : Embedding} {machine : Machine E} {instruction : Instruction}

/-- An exit is about to take a checkpoint away with the frame of a plain call. -/
def StrayExit (machine : Machine E) (instruction : Instruction) : Prop :=
  instruction = .exit ∧ machine.stack.frames ≠ [] ∧ ¬ machine.stack.AtScope ∧
    machine.memory.checkpoints ≠ []

/-- A return, or an exit without a checkpoint to pop, is about to close a scope. -/
def StrayClose (machine : Machine E) (instruction : Instruction) : Prop :=
  machine.stack.AtScope ∧
    (instruction = .ret ∨ instruction = .exit ∧ machine.memory.checkpoints = [])

instance (machine : Machine E) (instruction : Instruction) :
    Decidable (machine.StrayExit instruction) :=
  inferInstanceAs (Decidable (_ ∧ _))

instance (machine : Machine E) (instruction : Instruction) :
    Decidable (machine.StrayClose instruction) :=
  inferInstanceAs (Decidable (_ ∧ _))

theorem checkpoints_popCheckpoint (opcode : Opcode) (machine : Machine E) :
    (machine.popCheckpoint opcode).memory.checkpoints = machine.memory.checkpoints.tail := by
  rcases machine.popCheckpoint_cases opcode with ⟨after, popped, same⟩ | ⟨none, same⟩
  · obtain ⟨_, _, top, rfl⟩ := Memory.popState_eq_ok.mp popped
    rw [same, top]
    rfl
  · rw [same, none]
    exact none

theorem execute_balance (load : SegmentLoad) (entry : Address) (following : Pointer)
    (machine : Machine E) :
    (machine.execute load entry following).machine.memory.checkpoints.length +
        machine.stack.scopes.length =
      machine.memory.checkpoints.length +
        (machine.execute load entry following).machine.stack.scopes.length := by
  rcases machine.execute_cases load entry following with
    ⟨_, _, same⟩ | ⟨_, _, same⟩ | ⟨_, _, _, loads, _, popped, same⟩ |
    ⟨stack, _, _, target, pushed, loads, _, same⟩
  · rw [same]
    rfl
  · rw [same]
    rfl
  · rw [same]
    have depth := (Memory.sameObservations_of_unresolved loads popped).depth
    simp only [fault, depth]
  · rw [same]
    obtain ⟨_, framed, rfl⟩ := Stack.pushScope_eq_ok.mp pushed
    obtain ⟨_, rfl⟩ := Stack.push_eq_ok.mp framed
    obtain ⟨_, _, _, _, _, _, _, rfl⟩ := Memory.loadSegment_eq_ok loads
    simp only [goto, Memory.pushState, List.length_cons]
    omega

theorem exit_balance {flow : Flow} (well : machine.stack.WellFormed)
    (went : machine.exit.flow = .ok flow) :
    machine.exit.machine.memory.checkpoints.length + (if machine.StrayExit .exit then 1 else 0) +
        machine.stack.scopes.length =
      machine.memory.checkpoints.length + (machine.exit.machine.stack.scopes.length +
        if machine.StrayClose .exit then 1 else 0) := by
  rcases machine.exit_cases with ⟨top, same⟩ | ⟨_, _, same⟩ | ⟨_, stack, popped, same⟩
  · rw [same, if_neg (fun stray => stray.2.1 top),
      if_neg (fun stray => Stack.not_atScope_of_frames well top stray.1)]
    rfl
  · rw [same] at went
    cases went
  · have scopes := Stack.length_scopes_of_pop well (Stack.pop_of_popReturn popped)
    have frames : machine.stack.frames ≠ [] := by
      obtain ⟨_, top, _⟩ := Stack.pop_eq_ok.mp (Stack.pop_of_popReturn popped)
      simp [top]
    have kept := (popCheckpoint_sameExcept .exit { machine with stack }).stack (by simp)
    rw [same, goto, checkpoints_popCheckpoint, kept]
    simp only [StrayExit, StrayClose, frames, reduceCtorEq, true_and, false_or, ne_eq,
      not_false_eq_true]
    by_cases closes : machine.stack.AtScope
    · rw [if_pos closes] at scopes
      cases machine.memory.checkpoints with
      | nil => simp [closes, scopes]
      | cons =>
        simp [closes]
        omega
    · rw [if_neg closes] at scopes
      cases machine.memory.checkpoints with
      | nil => simp [closes, scopes]
      | cons => simp [closes, scopes]

theorem ret_balance {flow : Flow} (well : machine.stack.WellFormed)
    (went : machine.ret.flow = .ok flow) :
    machine.stack.scopes.length =
      machine.ret.machine.stack.scopes.length + if machine.StrayClose .ret then 1 else 0 := by
  unfold Machine.ret at went ⊢
  split
  next faulted =>
    rw [faulted] at went
    cases went
  next popped =>
    have scopes := Stack.length_scopes_of_pop well (Stack.pop_of_popReturn popped)
    simpa [StrayClose, goto] using scopes

/-- What an instruction does to the counts of checkpoints and of scopes. -/
theorem exec_balance {flow : Flow} (well : machine.stack.WellFormed)
    (plain : ¬ instruction.savesOrReplaces) {following : Pointer}
    (went : (machine.exec instruction following).flow = .ok flow) :
    (machine.exec instruction following).machine.memory.checkpoints.length +
        (if machine.StrayExit instruction then 1 else 0) + machine.stack.scopes.length =
      machine.memory.checkpoints.length +
        ((machine.exec instruction following).machine.stack.scopes.length +
          if machine.StrayClose instruction then 1 else 0) := by
  by_cases exits : instruction = .exit
  · subst exits
    exact exit_balance well went
  have noExit : ¬ machine.StrayExit instruction := fun stray => exits stray.1
  by_cases returns : instruction = .ret
  · subst returns
    have memory := (machine.ret_sameExcept).memory (by simp)
    have scopes := ret_balance well went
    rw [if_neg noExit, exec, memory]
    omega
  have noClose : ¬ machine.StrayClose instruction := by
    rintro ⟨_, closes | ⟨closes, _⟩⟩
    · exact returns closes
    · exact exits closes
  rw [if_neg noExit, if_neg noClose]
  by_cases opens : instruction.opensScope
  · obtain ⟨load, entry, rfl⟩ := Instruction.eq_execute_of_opensScope opens plain
    exact machine.execute_balance load entry following
  · rw [(machine.exec_moved instruction following).length_scopes well opens exits returns,
      (machine.exec_memory_moved instruction following).checkpoints plain opens exits]
    rfl

theorem length_checkpoints_of_fault {following : Pointer} {fault : Fault}
    (plain : ¬ instruction.savesOrReplaces)
    (failed : (machine.exec instruction following).flow = .error fault) :
    (machine.exec instruction following).machine.memory.checkpoints.length =
      machine.memory.checkpoints.length := by
  by_cases exits : instruction = .exit
  · subst exits
    rcases machine.exit_cases with ⟨_, same⟩ | ⟨_, _, same⟩ | ⟨_, _, _, same⟩ <;>
      rw [exec, same] at failed ⊢
    · cases failed
    · rfl
    · cases failed
  by_cases opens : instruction.opensScope
  · obtain ⟨load, entry, rfl⟩ := Instruction.eq_execute_of_opensScope opens plain
    have refused : ∀ target, (machine.exec (.execute load entry) following).flow ≠
        .ok (.goto target) := by
      simp [failed]
    exact (machine.execute_refused load entry following refused).depth
  · rw [(machine.exec_memory_moved instruction following).checkpoints plain opens exits]

/-- A change by the host that leaves control, the memory and the dispatch table alone. -/
structure KeepsScopes (before after : Machine E) : Prop where
  stack : after.stack = before.stack
  memory : after.memory = before.memory
  dispatch : after.dispatch = before.dispatch

end Machine

namespace Run

variable {E : Embedding}

def instruction? (run : Run E) : Option Instruction :=
  (run.machine.fetch? run.cursor).map (·.2)

def strayExits (run : Run E) : Nat :=
  match run.instruction? with
  | some instruction => if run.machine.StrayExit instruction then 1 else 0
  | none => 0

def strayCloses (run : Run E) : Nat :=
  match run.instruction? with
  | some instruction => if run.machine.StrayClose instruction then 1 else 0
  | none => 0

/-- The next step deals with checkpoints, if at all, by an execute or an exit command. -/
def Plain (run : Run E) : Prop := run.instruction?.all (! ·.savesOrReplaces)

instance (run : Run E) : Decidable run.Plain := inferInstanceAs (Decidable (_ = _))

theorem Plain.of_instruction? {run : Run E} {instruction : Instruction} (plain : run.Plain)
    (runs : run.instruction? = some instruction) : ¬ instruction.savesOrReplaces := by
  simpa [Plain, runs] using plain

theorem instruction?_of_dispatches {run : Run E} {command : Command} {instruction : Instruction}
    (dispatched : run.machine.Dispatches run.cursor command instruction) :
    run.instruction? = some instruction := by
  rw [instruction?, Machine.fetch?_eq_some.mpr dispatched]
  rfl

variable [Patches E] {first run next last : Run E}

/-- The sessions of scripts that deal with checkpoints by execute and exit commands only, with
the number of stray exits and of stray closes on the way. -/
inductive History (first : Run E) : Run E → Nat → Nat → Prop where
  | start : History first first 0 0
  | step {run next : Run E} {exits closes : Nat} (history : History first run exits closes)
    (plain : run.Plain) (step : run.Step next) :
    History first next (exits + run.strayExits) (closes + run.strayCloses)
  | resume {run next : Run E} {exits closes : Nat} (history : History first run exits closes)
    (plain : run.Plain) (resumed : run.Resumes Machine.KeepsScopes next) : History first next exits closes

theorem exists_history (through : first.Through Machine.KeepsScopes Plain last) :
    ∃ exits closes, History first last exits closes := by
  have start : first.Plain ∧ ∃ exits closes, History first first exits closes :=
    ⟨through.1, 0, 0, .start⟩
  have moved (run next : Run E) : (run.Plain ∧ ∃ exits closes, History first run exits closes) →
      run.Moves Machine.KeepsScopes next → next.Plain →
      next.Plain ∧ ∃ exits closes, History first next exits closes := by
    rintro ⟨plain, exits, closes, history⟩ (step | resumed) later
    · exact ⟨later, _, _, history.step plain step⟩
    · exact ⟨later, _, _, history.resume plain resumed⟩
  exact (through.last_of_moves start moved).2

theorem Step.balance (table : run.machine.dispatch = .canonical)
    (well : run.machine.stack.WellFormed) (plain : run.Plain) (step : run.Step next) :
    next.machine.memory.checkpoints.length + run.strayExits + run.machine.stack.scopes.length =
      run.machine.memory.checkpoints.length +
        (next.machine.stack.scopes.length + run.strayCloses) := by
  cases fetched : run.machine.fetch? run.cursor with
  | some pair =>
    obtain ⟨command, instruction⟩ := pair
    have dispatched := Machine.fetch?_eq_some.mp fetched
    have runs := instruction?_of_dispatches dispatched
    obtain ⟨flow, went, followed⟩ := step.of_dispatches table dispatched
    have kept := Machine.sameExcept_of_followed followed
    have balance := Machine.exec_balance well (plain.of_instruction? runs) went
    simp only [strayExits, strayCloses, runs]
    rw [kept.memory (by simp), kept.stack (by simp)]
    exact balance
  | none =>
    have idle : run.instruction? = none := by
      rw [instruction?, fetched]
      rfl
    simp only [strayExits, strayCloses, idle]
    rcases step.cases table with ⟨_, _, _, dispatched, _⟩ | ⟨_, paused⟩
    · rw [Machine.fetch?_eq_some.mpr dispatched] at fetched
      cases fetched
    · rw [paused]
      rfl

theorem Resumes.length_checkpoints (table : run.machine.dispatch = .canonical) (plain : run.Plain)
    (resumed : run.Resumes Machine.KeepsScopes next) :
    next.machine.memory.checkpoints.length = run.machine.memory.checkpoints.length := by
  obtain ⟨ending, finished, edited, ended, same, edit, started⟩ := resumed.cases
  rw [started.memory (by simp), edit.memory, same.memory (by simp)]
  rcases ended.cases table with same | ⟨command, instruction, fault, dispatched, failed, left⟩
  · rw [same]
  · rw [left]
    exact Machine.length_checkpoints_of_fault
      (plain.of_instruction? (instruction?_of_dispatches dispatched)) failed

/-- What a history keeps: the table, a stack made by the operations of the stack, and the balance
of the counts. -/
structure Balanced (exits closes : Nat) (run : Run E) : Prop where
  table : run.machine.dispatch = .canonical
  built : run.machine.stack.Built
  balance : run.machine.memory.checkpoints.length + exits =
    run.machine.stack.scopes.length + closes

theorem Balanced.step {exits closes : Nat} (balanced : run.Balanced exits closes)
    (plain : run.Plain) (step : run.Step next) :
    next.Balanced (exits + run.strayExits) (closes + run.strayCloses) where
  table := step.dispatch balanced.table
  built := step.built balanced.table balanced.built
  balance := by
    have before := balanced.balance
    have change := step.balance balanced.table balanced.built.wellFormed plain
    omega

theorem Balanced.resume {exits closes : Nat} (balanced : run.Balanced exits closes)
    (plain : run.Plain) (resumed : run.Resumes Machine.KeepsScopes next) : next.Balanced exits closes := by
  have stack := resumed.stack (fun _ _ keeps => keeps.stack) balanced.table
  have move : run.Moves Machine.KeepsScopes next := .inr resumed
  exact {
    table := move.dispatch (fun _ _ keeps => keeps.dispatch) balanced.table
    built := by rw [stack]; exact balanced.built
    balance := by rw [resumed.length_checkpoints balanced.table plain, stack]; exact balanced.balance }

theorem History.balanced {exits closes : Nat} (start : first.Balanced 0 0)
    (history : History first last exits closes) : last.Balanced exits closes := by
  induction history with
  | start => exact start
  | step _ plain step ih => exact ih.step plain step
  | resume _ plain resumed ih => exact ih.resume plain resumed

/-- From an empty start, the open checkpoints and those that stray exits took away are as many as
the open scopes and those that were closed without popping a checkpoint. -/
theorem checkpoints_balance_scopes {exits closes : Nat}
    (table : first.machine.dispatch = .canonical) (empty : first.machine.stack = .empty)
    (unsaved : first.machine.memory.checkpoints = []) (history : History first last exits closes) :
    last.machine.memory.checkpoints.length + exits =
      last.machine.stack.scopes.length + closes := by
  have start : first.Balanced 0 0 :=
    ⟨table, by rw [empty]; exact .empty, by rw [empty, unsaved]; rfl⟩
  exact (history.balanced start).balance

/-- Runs content in a scope that it leaves by a return. -/
def returning : Run Scripted.embedding := ofScript
  #[0x07, 4, 0, 0]
  #[0x00, 16, 14, 0, 0, 0, 0, 0, 4, 0, 0, 0, 0, 0, 0, 14,
    0x02, 4, 0, 0]

theorem checkpoints_balance_scopes_returning :
    ∃ last, History returning last 0 1 ∧
      last.machine.memory.checkpoints.length + 0 = last.machine.stack.scopes.length + 1 := by
  let inside := returning.next?.get (by decide +kernel)
  have enters : returning.Step inside := (Option.some_get _).symm
  have entered : History returning inside 0 0 := by
    have history := History.start.step (by decide +kernel) enters
    rwa [show returning.strayExits = 0 by decide +kernel,
      show returning.strayCloses = 0 by decide +kernel] at history
  let last := inside.next?.get (by decide +kernel)
  have leaves : inside.Step last := (Option.some_get _).symm
  have left : History returning last 0 1 := by
    have history := entered.step (by decide +kernel) leaves
    rwa [show inside.strayExits = 0 by decide +kernel,
      show inside.strayCloses = 1 by decide +kernel] at history
  exact ⟨last, left, checkpoints_balance_scopes (dispatch_ofScript _ _) (stack_ofScript _ _)
    (by decide +kernel) left⟩

/-- A scope that is left by a return keeps its checkpoint open. -/
theorem checkpoint_without_scope_returning :
    returning.machine.dispatch = .canonical ∧ returning.machine.stack = .empty ∧
      returning.machine.memory.checkpoints = [] ∧
      ∃ last, returning.Through Machine.KeepsScopes Plain last ∧
        last.machine.memory.checkpoints.length ≠ last.machine.stack.scopes.length := by
  let last := (returning.ahead? Plain 2).get (by decide +kernel)
  have through : returning.Through Machine.KeepsScopes Plain last :=
    through_of_ahead? (Option.some_get _).symm
  exact ⟨dispatch_ofScript _ _, stack_ofScript _ _, by decide +kernel, last, through,
    by decide +kernel⟩

end Run

end StageScript
