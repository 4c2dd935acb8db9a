import Mathlib.Logic.Relation
import StageScript.Machine.Scripted
import StageScript.Proofs.Dispatch

/-!
Sessions. A run is a machine with the cursor of its next step. A session takes the steps of a
run, and when the run ends its host may start the next one where the last one stopped, after
changes of its own to the machine. Every execution is the beginning of such a session.
-/

namespace StageScript

structure Run (E : Embedding) where
  canonical : Bool
  cursor : Pointer
  machine : Machine E

namespace Run

variable {E : Embedding}

def start (cursor : Pointer) (machine : Machine E) : Run E :=
  let (canonical, selected) := machine.begin.selectTable
  let (resolved, followed) := selected.followOverrides cursor
  ⟨canonical, resolved, followed⟩

def dispatched? (run : Run E) : Option (Handler E.Patch × Command) :=
  if run.machine.context.status = .running then run.machine.dispatched? run.canonical run.cursor
  else none

def runs? (run : Run E) : Option (Command × Instruction) := do
  let (handler, command) ← run.dispatched?
  match handler with
  | .canonical opcode => return (command, ← (Instruction.read opcode command).toOption)
  | .patch _ => none

theorem dispatched?_of_runs? {run : Run E} {command : Command} {instruction : Instruction}
    (runs : run.runs? = some (command, instruction)) : ∃ opcode,
      run.dispatched? = some (.canonical opcode, command) ∧
      Instruction.read opcode command = .ok instruction := by
  simp only [runs?, Option.bind_eq_bind, Option.bind_eq_some_iff] at runs
  obtain ⟨⟨handler, called⟩, dispatched, runs⟩ := runs
  cases handler with
  | patch patch => cases runs
  | canonical opcode =>
    simp only [Option.bind_eq_some_iff, toOption_eq_some, Option.pure_def,
      Option.some.injEq, Prod.mk.injEq] at runs
    obtain ⟨_, read, rfl, rfl⟩ := runs
    exact ⟨opcode, dispatched, read⟩

theorem running_of_dispatched? {run : Run E} {called : Handler E.Patch × Command}
    (dispatched : run.dispatched? = some called) : run.machine.context.status = .running ∧
      run.machine.dispatched? run.canonical run.cursor = some called := by
  unfold dispatched? at dispatched
  split at dispatched
  next running => exact ⟨running, dispatched⟩
  next => cases dispatched

variable [Patches E]

/-- The run one step later, absent when it waits, has exited, or faults. -/
def next? (run : Run E) : Option (Run E) :=
  if run.machine.context.status ≠ .running then none
  else
    match run.machine.step run.canonical run.cursor with
    | (.error _, _) => none
    | (.ok cursor, machine) => some ⟨run.canonical, cursor, machine⟩

def Step (run next : Run E) : Prop := run.next? = some next

inductive Ends (run : Run E) : Machine.Ending E → Prop where
  | yields (waits : run.machine.context.status ≠ .running) :
    Ends run ⟨.ok run.cursor, run.cursor, run.machine⟩
  | stops (running : run.machine.context.status = .running)
    (limited : run.machine.config.stepLimit ≠ 0) :
    Ends run ⟨.error (.stepLimitExceeded run.machine.config.stepLimit), run.cursor, run.machine⟩
  | faults {fault : Fault} {machine : Machine E} (running : run.machine.context.status = .running)
    (faulted : run.machine.step run.canonical run.cursor = (.error fault, machine)) :
    Ends run ⟨.error fault, run.cursor, machine⟩

/-- The next run of a session, started where this one ended. -/
inductive Resumes (edit : Machine E → Machine E → Prop) (run : Run E) : Run E → Prop where
  | intro {ending : Machine.Ending E} {machine : Machine E} (ended : run.Ends ending)
    (edited : edit (Machine.finish ending).2 machine) : Resumes edit run (start ending.cursor machine)

def Moves (edit : Machine E → Machine E → Prop) (run next : Run E) : Prop :=
  run.Step next ∨ run.Resumes edit next

/-- The session leads from one run to another, and everything on the way has the property. -/
def Through (edit : Machine E → Machine E → Prop) (property : Run E → Prop) (first last : Run E) :
    Prop :=
  property first ∧
    Relation.ReflTransGen (fun run next => run.Moves edit next ∧ property next) first last

theorem step_iff {run next : Run E} :
    run.Step next ↔ run.machine.context.status = .running ∧
      run.machine.step run.canonical run.cursor = (.ok next.cursor, next.machine) ∧
      next.canonical = run.canonical := by
  unfold Step next?
  constructor
  · intro taken
    split at taken
    next => simp at taken
    next running =>
      split at taken
      next => simp at taken
      next cursor machine stepped =>
        simp only [Option.some.injEq] at taken
        subst taken
        exact ⟨Decidable.of_not_not running, stepped, rfl⟩
  · rintro ⟨running, stepped, canonical⟩
    simp only [running, ne_eq, not_true_eq_false, if_false, stepped]
    rw [← canonical]

theorem Step.unique {run next other : Run E} (step : run.Step next) (same : run.Step other) :
    other = next :=
  Option.some.inj (same.symm.trans step)

theorem Step.keeps {run next : Run E} {property : Machine E → Prop} (step : run.Step next)
    (kept : property (run.machine.step run.canonical run.cursor).2) : property next.machine := by
  rwa [(step_iff.mp step).2.1] at kept

theorem Ends.keeps {run : Run E} {property : Machine E → Prop} {ending : Machine.Ending E}
    (ended : run.Ends ending) (holds : property run.machine)
    (kept : property (run.machine.step run.canonical run.cursor).2) : property ending.machine := by
  cases ended with
  | yields => exact holds
  | stops => exact holds
  | faults _ faulted => rwa [faulted] at kept

theorem Resumes.of_waits {edit : Machine E → Machine E → Prop} {run next : Run E}
    (resumes : run.Resumes edit next) (waits : run.machine.context.status ≠ .running) :
    ∃ machine, edit (Machine.finish ⟨.ok run.cursor, run.cursor, run.machine⟩).2 machine ∧
      next = start run.cursor machine := by
  cases resumes with
  | intro ended edited =>
    cases ended with
    | yields => exact ⟨_, edited, rfl⟩
    | stops running => exact absurd running waits
    | faults running => exact absurd running waits

theorem step_of_runs? {run : Run E} {command : Command} {instruction : Instruction}
    (runs : run.runs? = some (command, instruction)) :
    run.machine.step run.canonical run.cursor =
      Machine.settle command.next run.cursor (run.machine.exec instruction command.next) := by
  obtain ⟨opcode, dispatched, read⟩ := dispatched?_of_runs? runs
  rw [Machine.step_of_dispatched (running_of_dispatched? dispatched).2]
  simp only [Machine.dispatchCommand, read]

theorem step_keeps {property : Machine E → Prop} {run : Run E}
    (running : run.machine.context.status = .running)
    (ran : ∀ command instruction, run.runs? = some (command, instruction) →
      property (run.machine.exec instruction command.next).machine)
    (patched : ∀ patch command, run.dispatched? = some (.patch patch, command) →
      property (Machine.dispatchCommand (.patch patch) command run.machine).machine)
    (idle : run.runs? = none →
      property run.machine ∧ property (run.machine.setStatus .paused))
    (followed : ∀ pointer after, property after →
      property (after.followOverrides pointer).2) :
    property (run.machine.step run.canonical run.cursor).2 := by
  have dispatches : run.dispatched? = run.machine.dispatched? run.canonical run.cursor :=
    if_pos running
  cases found : run.machine.dispatched? run.canonical run.cursor with
  | none =>
    have silent : run.runs? = none := by simp [runs?, dispatches, found]
    rcases Machine.step_of_undispatched found with paused | ⟨fault, faulted⟩
    · rw [paused _ (.refl _ _)]
      exact (idle silent).2
    · rw [faulted _ (.refl _ _)]
      exact (idle silent).1
  | some called =>
    obtain ⟨handler, command⟩ := called
    rw [Machine.step_of_dispatched found]
    refine Machine.settle_keeps ?_ followed command.next run.cursor
    cases handler with
    | patch patch => exact patched patch command (dispatches.trans found)
    | canonical opcode =>
      simp only [Machine.dispatchCommand]
      cases read : Instruction.read opcode command with
      | error fault => exact (idle (by simp [runs?, dispatches, found, read, Except.toOption])).1
      | ok instruction =>
        exact ran command instruction (by simp [runs?, dispatches, found, read, Except.toOption])

theorem Step.cases {run next : Run E} (table : run.machine.dispatch = .canonical)
    (step : run.Step next) :
    (∃ command instruction flow, run.machine.Dispatches run.cursor command instruction ∧
      (run.machine.exec instruction command.next).flow = .ok flow ∧
      (run.machine.exec instruction command.next).machine.followOverrides
        (flow.target command.next run.cursor) = (next.cursor, next.machine)) ∨
    next.cursor = run.cursor ∧ next.machine = run.machine.setStatus .paused := by
  obtain ⟨_, stepped, _⟩ := step_iff.mp step
  rcases Machine.step_cases table run.canonical run.cursor with
    ⟨command, instruction, dispatched, settled⟩ | paused | ⟨fault, faulted⟩
  · rw [settled] at stepped
    obtain ⟨flow, went, followed⟩ := Machine.settle_eq_ok.mp stepped
    exact .inl ⟨command, instruction, flow, dispatched, went, followed⟩
  · rw [paused] at stepped
    simp only [Prod.mk.injEq, Except.ok.injEq] at stepped
    exact .inr ⟨stepped.1.symm, stepped.2.symm⟩
  · simp [faulted] at stepped

theorem Step.of_dispatches {run next : Run E} {command : Command} {instruction : Instruction}
    (table : run.machine.dispatch = .canonical)
    (dispatched : run.machine.Dispatches run.cursor command instruction) (step : run.Step next) :
    ∃ flow, (run.machine.exec instruction command.next).flow = .ok flow ∧
      (run.machine.exec instruction command.next).machine.followOverrides
        (flow.target command.next run.cursor) = (next.cursor, next.machine) := by
  obtain ⟨_, stepped, _⟩ := step_iff.mp step
  rw [Machine.step_of_dispatches table dispatched] at stepped
  exact Machine.settle_eq_ok.mp stepped

theorem Ends.cases {run : Run E} {ending : Machine.Ending E}
    (table : run.machine.dispatch = .canonical) (ended : run.Ends ending) :
    ending.machine = run.machine ∨
    ∃ command instruction fault, run.machine.Dispatches run.cursor command instruction ∧
      (run.machine.exec instruction command.next).flow = .error fault ∧
      ending.machine = (run.machine.exec instruction command.next).machine := by
  cases ended with
  | yields => exact .inl rfl
  | stops => exact .inl rfl
  | faults _ faulted =>
    rcases Machine.step_cases table run.canonical run.cursor with
      ⟨command, instruction, dispatched, settled⟩ | paused | ⟨fault, unchanged⟩
    · rw [settled] at faulted
      obtain ⟨failed, left⟩ := Machine.settle_eq_error.mp faulted
      exact .inr ⟨command, instruction, _, dispatched, failed, left.symm⟩
    · simp [paused] at faulted
    · rw [unchanged] at faulted
      simp only [Prod.mk.injEq] at faulted
      exact .inl faulted.2.symm

/-- What a session keeps at every move holds at its last run. -/
theorem Through.last_of_moves {edit : Machine E → Machine E → Prop} {property kept : Run E → Prop}
    {first last : Run E} (through : Through edit property first last) (initially : kept first)
    (moved : ∀ run next, kept run → run.Moves edit next → property next → kept next) :
    kept last := by
  obtain ⟨_, moves⟩ := through
  induction moves with
  | refl => exact initially
  | tail _ move ih => exact moved _ _ ih move.1 move.2

def ahead? (property : Run E → Prop) [DecidablePred property] : Nat → Run E → Option (Run E)
  | 0, run => if property run then some run else none
  | count + 1, run => if property run then run.next? >>= ahead? property count else none

theorem through_of_ahead? {edit : Machine E → Machine E → Prop} {property : Run E → Prop}
    [DecidablePred property] {count : Nat} {first last : Run E}
    (ahead : ahead? property count first = some last) : first.Through edit property last := by
  induction count generalizing first with
  | zero =>
    simp only [ahead?, Option.ite_none_right_eq_some, Option.some.injEq] at ahead
    obtain ⟨holds, rfl⟩ := ahead
    exact ⟨holds, .refl⟩
  | succ count ih =>
    simp only [ahead?, Option.ite_none_right_eq_some, Option.bind_eq_bind,
      Option.bind_eq_some_iff] at ahead
    obtain ⟨holds, next, step, ahead⟩ := ahead
    obtain ⟨later, moves⟩ := ih ahead
    exact ⟨holds, .head ⟨.inl step, later⟩ moves⟩

theorem ends_of_steps {canonical : Bool} {fuel taken : Nat} {cursor : Pointer}
    {machine : Machine E} {ending : Machine.Ending E}
    (ran : Machine.steps canonical fuel taken cursor machine = some ending) :
    ∃ last, Relation.ReflTransGen Step ⟨canonical, cursor, machine⟩ last ∧ last.Ends ending := by
  induction fuel generalizing taken cursor machine with
  | zero => simp [Machine.steps] at ran
  | succ fuel ih =>
    unfold Machine.steps at ran
    split at ran
    next waits =>
      simp only [Option.some.injEq] at ran
      subst ran
      exact ⟨_, .refl, .yields waits⟩
    next running =>
      split at ran
      next limited =>
        simp only [Option.some.injEq] at ran
        subst ran
        exact ⟨_, .refl, .stops (Decidable.of_not_not running) limited.1⟩
      next =>
        split at ran
        next fault machine faulted =>
          simp only [Option.some.injEq] at ran
          subst ran
          exact ⟨_, .refl, .faults (Decidable.of_not_not running) faulted⟩
        next target machine stepped =>
          obtain ⟨last, steps, ended⟩ := ih ran
          have first : Step ⟨canonical, cursor, _⟩ ⟨canonical, target, machine⟩ :=
            step_iff.mpr ⟨Decidable.of_not_not running, stepped, rfl⟩
          exact ⟨last, .head first steps, ended⟩

theorem ends_of_execute? {fuel : Nat} {cursor : Pointer} {machine after : Machine E}
    {result : Except Fault Pointer} (ran : machine.execute? fuel cursor = some (result, after)) :
    ∃ last ending, Relation.ReflTransGen Step (start cursor machine) last ∧ last.Ends ending ∧
      Machine.finish ending = (result, after) := by
  unfold Machine.execute? at ran
  simp only [Option.map_eq_some_iff] at ran
  obtain ⟨ending, stepped, finished⟩ := ran
  obtain ⟨last, steps, ended⟩ := ends_of_steps stepped
  exact ⟨last, ending, steps, ended, finished⟩

/-- A script that runs from its start, mapped at segment 16, with content behind it. -/
def ofScript (image script : Bytes) : Run Scripted.embedding :=
  let machine : Machine Scripted.embedding := .ofImage .standard image
  let (buffer, memory) := machine.memory.install script
  let mapped := { memory with segments := memory.segments.set 0x10 (some ⟨buffer, 0⟩) }
  start (.startOf buffer) { machine with memory := mapped }

end Run

end StageScript
