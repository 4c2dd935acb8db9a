import StageScript.Proofs.Delays
import StageScript.Proofs.Loops
import StageScript.Proofs.Resumption

/-!
Timing. A script waits nowhere but at a sleeping command, and it waits there for as many executions as
the command says, as long as no override leads it away. Each of them finds the command at its beginning
and comes back to it at once, with one frame less on the delay; the execution after the last one goes on
behind the command. Every delay is used up when the script is not waiting on it.
-/

namespace StageScript

open Machine (countDown)

section CountDown

variable {left : Int32} {frames : Int16} {count : Nat}

theorem ne_zero_of_toNatClampNeg (some : left.toNatClampNeg = count + 1) :
    0 ≤ left ∧ left ≠ 0 := by
  have zero : Int32.toInt 0 = 0 := rfl
  change left.toInt.toNat = count + 1 at some
  rw [Int32.le_iff_toInt_le, ne_eq, ← Int32.toInt_inj, zero]
  omega

theorem countDown_of_more (more : left.toNatClampNeg = count + 2) (frames : Int16) :
    (countDown left frames).2 = true ∧ (countDown left frames).1.toNatClampNeg = count + 1 := by
  obtain ⟨above, some⟩ := ne_zero_of_toNatClampNeg more
  have less := toNatClampNeg_sub_one above some
  rw [more, Nat.add_sub_assoc (by omega)] at less
  rw [countDown_of_ne some]
  exact ⟨bne_iff_ne.mpr (ne_zero_of_toNatClampNeg less).2, less⟩

theorem countDown_of_last (last : left.toNatClampNeg = 1) (frames : Int16) :
    countDown left frames = (0, false) := by
  have one : left = 1 := by
    change left.toInt.toNat = 1 at last
    apply Int32.toInt_inj.mp
    change left.toInt = 1
    omega
  rw [one]
  rfl

end CountDown

/-- However often the function is called, it overrides nothing where nothing is overridden. -/
def Embedding.StaysBare (E : Embedding) (function : E.HostFn) : Prop :=
  ∀ later, E.Becomes function later → ∀ (context : HostContext) argument register,
    context.overrides.overrides = [] →
      (E.callHost later context argument register).context.overrides.overrides = []

theorem Embedding.StaysBare.later {E : Embedding} {function : E.HostFn}
    (bare : E.StaysBare function) (context : HostContext) (argument : Int16) (register : Int32) :
    E.StaysBare (E.callHost function context argument register).later :=
  fun later becomes => bare later (.head ⟨context, argument, register, rfl⟩ becomes)

namespace Machine

variable {E : Embedding} {machine between after : Machine E} {delay : Delay} {place : Pointer}

/-- Nothing is overridden, and no canonical command will change that. -/
structure Bare (machine : Machine E) : Prop where
  table : machine.dispatch = .canonical
  overrides : machine.overrides.overrides = []
  hosts : machine.AllHosts E.StaysBare

namespace Bare

variable (bare : machine.Bare)
include bare

theorem of_sameExcept {parts : List Part} (same : machine.SameExcept parts after)
    (others : .overrides ∉ parts ∧ .hosts ∉ parts) : after.Bare where
  table := same.dispatch.trans bare.table
  overrides := by rw [same.overrides others.1, bare.overrides]
  hosts := bare.hosts.of_hosts (same.hosts others.2)

theorem exec (instruction : Instruction) (following : Pointer) :
    (machine.exec instruction following).machine.Bare where
  table := (exec_sameExcept instruction following machine).dispatch.trans bare.table
  overrides := exec_overrides_keeps (·.overrides = [])
    (fun id function known => bare.hosts id function known function .refl) bare.overrides
    instruction following
  hosts := bare.hosts.exec (fun _ bare => bare.later) instruction following

theorem step [Patches E] (canonical : Bool) (cursor : Pointer) :
    (machine.step canonical cursor).2.Bare := by
  have paused : (machine.setStatus .paused).Bare :=
    ⟨bare.table, bare.overrides, bare.hosts.of_hosts rfl⟩
  refine step_keeps bare paused ?_ ?_
  · intro handler command called
    obtain ⟨opcode, _, rfl⟩ := canonical_of_dispatched (.inr bare.table) called
    exact dispatchCommand_keeps bare (bare.exec · command.next)
  · intro pointer after settled
    exact settled.of_sameExcept (after.followOverrides_sameExcept pointer) (by simp)

end Bare

theorem Dispatches.of_sameExcept {parts : List Part} {command : Command} {instruction : Instruction}
    (dispatched : machine.Dispatches place command instruction) (same : machine.SameExcept parts after)
    (memory : .memory ∉ parts) : after.Dispatches place command instruction := by
  refine ⟨?_, dispatched.meant⟩
  rw [same.memory memory, same.config]
  exact dispatched.decoded

/-- Nothing has changed but the delay, and what says where a script stands and what it has reported. -/
structure Undisturbed (delay : Delay) (before after : Machine E) : Prop where
  same : before.SameExcept [.context, .activeOwner, .reporter] after
  register : after.context.register = before.context.register
  others : ∀ other, other ≠ delay → other.left after.context = other.left before.context

theorem Undisturbed.trans (first : machine.Undisturbed delay between)
    (second : between.Undisturbed delay after) : machine.Undisturbed delay after where
  same := first.same.trans second.same
  register := second.register.trans first.register
  others other another := (second.others other another).trans (first.others other another)

theorem Undisturbed.of_context {left : Int32} {status : Status}
    (same : machine.SameExcept [.context, .activeOwner, .reporter] after)
    (context : after.context = { delay.put left machine.context with status }) :
    machine.Undisturbed delay after where
  same := same
  register := by
    rw [context]
    cases delay <;> rfl
  others other another := by
    rw [context, Delay.left_of_status, Delay.left_put_of_ne another]

theorem undisturbed_finish (delay : Delay) (ending : Ending E) :
    ending.machine.Undisturbed delay (finish ending).2 where
  same := (finish_sameExcept ending).mono (by simp)
  register := rfl
  others other _ := left_finish other ending

theorem undisturbed_start (delay : Delay) (pointer : Pointer) (machine : Machine E) :
    machine.Undisturbed delay (Run.start pointer machine).machine where
  same := Run.start_sameExcept pointer machine
  register := by rw [Run.start_context]
  others other _ := by rw [Run.start_context, Delay.left_of_status]

/-- The script has paused at the place on the delay. -/
structure Dozes (delay : Delay) (place : Pointer) (before after : Machine E) : Prop
    extends before.Undisturbed delay after where
  status : after.context.status = delay.status
  cursor : after.context.cursor = some place

/-- An execution from one pointer comes back with another, given fuel enough. -/
def Returns [Patches E] (pointer place : Pointer) (machine after : Machine E) : Prop :=
  ∃ enough, ∀ fuel, enough < fuel → machine.execute? fuel pointer = some (.ok place, after)

/-- So many executions in a row, the first from a pointer and each further one from where the one before
has come back, all come back to the place, where the script dozes. -/
inductive Naps [Patches E] (delay : Delay) (place : Pointer) (awake : Machine E) :
    Nat → Pointer → Machine E → Machine E → Prop where
  | rested (pointer : Pointer) (machine : Machine E) : Naps delay place awake 0 pointer machine machine
  | nap {count : Nat} {pointer : Pointer} {machine between after : Machine E}
    (returns : machine.Returns pointer place between) (dozes : awake.Dozes delay place between)
    (naps : Naps delay place awake count place between after) :
    Naps delay place awake (count + 1) pointer machine after

end Machine

namespace Run

variable {E : Embedding} {run next : Run E} {delay : Delay} {frames : Int16} {command : Command}
  {pointer : Pointer} {machine : Machine E}

/-- The overrides lead the run nowhere else while it is at a command that sleeps. -/
def RestsInPlace (run : Run E) : Prop :=
  ∀ (delay : Delay) frames, run.Sleeps delay frames → run.InPlace

/-- The script waits on the delay: it is at a command that sleeps on it, where it has paused or where an
execution begins. -/
structure Awaits (delay : Delay) (run : Run E) : Prop where
  sleeps : ∃ command frames, run.machine.Dispatches run.cursor command (delay.sleep frames)
  inPlace : run.InPlace
  stays : run.machine.context.status = delay.status ∨ ∃ pointer machine, run = start pointer machine

structure Visiting (delay : Delay) (frames : Int16) (command : Command) (run : Run E) : Prop where
  table : run.machine.dispatch = .canonical
  inPlace : run.InPlace
  running : run.machine.context.status = .running
  dispatched : run.machine.Dispatches run.cursor command (delay.sleep frames)

theorem InPlace.of_undisturbed {instruction : Instruction} (inPlace : run.InPlace)
    (dispatched : run.machine.Dispatches run.cursor command instruction)
    (undisturbed : run.machine.Undisturbed delay next.machine) (cursor : next.cursor = run.cursor) :
    next.InPlace ∧ next.machine.Dispatches next.cursor command instruction := by
  constructor
  · rw [InPlace, undisturbed.same.overrides (by simp), cursor, inPlace]
  · rw [cursor]
    exact dispatched.of_sameExcept undisturbed.same (by simp)

theorem restsInPlace_of_bare (bare : run.machine.overrides.overrides = []) : run.RestsInPlace :=
  fun _ _ _ => by simp [InPlace, Registry.resolve, bare]

theorem runs?_eq_some_iff (table : run.machine.dispatch = .canonical) {instruction : Instruction} :
    run.runs? = some (command, instruction) ↔ run.machine.context.status = .running ∧
      run.machine.Dispatches run.cursor command instruction := by
  constructor
  · intro runs
    obtain ⟨opcode, called, read⟩ := dispatched?_of_runs? runs
    obtain ⟨running, dispatched⟩ := running_of_dispatched? called
    obtain ⟨bytes, live, decoded, _⟩ := Machine.dispatched?_eq_some.mp dispatched
    obtain ⟨_, known, same⟩ := Machine.canonical_of_dispatched (.inr table) dispatched
    cases same
    exact ⟨running, ⟨bytes, live, decoded⟩, _, known, read⟩
  · rintro ⟨running, ⟨bytes, live, decoded⟩, opcode, known, read⟩
    have handler : run.machine.handler? run.canonical command.code = some (.canonical opcode) := by
      rw [Machine.handler?_of_canonical table]
      exact congrArg (Option.map Handler.canonical) known
    have called : run.dispatched? = some (.canonical opcode, command) :=
      (if_pos running).trans (Machine.dispatched?_eq_some.mpr ⟨bytes, live, decoded, handler⟩)
    simp [runs?, called, read, Except.toOption]

/-- In this state of a session, a delay that is not used up is waited on, by a command that is not
overridden. -/
structure Punctual (run : Run E) : Prop where
  table : run.machine.dispatch = .canonical
  rests : run.RestsInPlace
  waits : ∀ delay : Delay, delay.left run.machine.context = 0 ∨ run.Awaits delay

theorem punctual_start (table : machine.dispatch = .canonical)
    (rested : ∀ delay : Delay, delay.left machine.context = 0)
    (rests : (start pointer machine).RestsInPlace) : (start pointer machine).Punctual where
  table := (start_sameExcept pointer machine).dispatch.trans table
  rests := rests
  waits delay := by
    rw [start_context, Delay.left_of_status]
    exact .inl (rested delay)

theorem Punctual.visiting (punctual : run.Punctual)
    (runs : run.runs? = some (command, delay.sleep frames)) : run.Visiting delay frames command := by
  obtain ⟨running, dispatched⟩ := (runs?_eq_some_iff punctual.table).mp runs
  have inPlace := punctual.rests delay frames (sleeps_iff.mpr ⟨command, runs⟩)
  exact ⟨punctual.table, inPlace, running, dispatched⟩

theorem Punctual.left_eq_zero (punctual : run.Punctual)
    (running : run.machine.context.status = .running)
    (awake : ∀ frames, ¬ run.Sleeps delay frames) : delay.left run.machine.context = 0 := by
  refine (punctual.waits delay).resolve_right fun awaits => ?_
  obtain ⟨command, frames, dispatched⟩ := awaits.sleeps
  exact awake frames (sleeps_iff.mpr ⟨command,
    (runs?_eq_some_iff punctual.table).mpr ⟨running, dispatched⟩⟩)

theorem Visiting.again (visiting : run.Visiting delay frames command)
    (dozes : run.machine.Dozes delay run.cursor machine) :
    let next := start run.cursor machine
    next.Visiting delay frames command ∧ next.cursor = run.cursor ∧
      delay.left next.machine.context = delay.left machine.context ∧
      run.machine.Undisturbed delay next.machine := by
  intro next
  have undisturbed := dozes.toUndisturbed.trans (Machine.undisturbed_start delay run.cursor machine)
  have cursor : next.cursor = run.cursor := by
    rw [start_cursor, dozes.same.overrides (by simp), visiting.inPlace]
  have context : next.machine.context = { machine.context with status := .running } :=
    start_context run.cursor machine
  obtain ⟨inPlace, dispatched⟩ :=
    visiting.inPlace.of_undisturbed visiting.dispatched undisturbed cursor
  have table := undisturbed.same.dispatch.trans visiting.table
  refine ⟨⟨table, inPlace, by rw [context], dispatched⟩, cursor, ?_, undisturbed⟩
  rw [context, Delay.left_of_status]

variable [Patches E]

/-- The next step goes on from a place, with the delay used up and nothing else changed. -/
def GoesOnFrom (delay : Delay) (place : Pointer) (before : Machine E) (run : Run E) : Prop :=
  ∃ next, run.Step next ∧ next.cursor = place ∧ next.machine.context.status = .running ∧
    delay.left next.machine.context = 0 ∧ before.Undisturbed delay next.machine

section Visit

variable (visiting : run.Visiting delay frames command)
include visiting

theorem Visiting.stays (waits : (countDown (delay.left run.machine.context) frames).2 = true) :
    ∃ next, run.Step next ∧ next.cursor = run.cursor ∧
      next.machine.context.status = delay.status ∧
      delay.left next.machine.context = (countDown (delay.left run.machine.context) frames).1 ∧
      run.machine.Undisturbed delay next.machine := by
  have stepped := Machine.step_of_dispatches visiting.table visiting.dispatched run.canonical
  rw [Machine.exec_sleep] at stepped
  simp only [waits, if_true] at stepped
  obtain ⟨next, step, same, context, cursor⟩ := exists_step_of_settled visiting.running stepped
  refine ⟨next, step, cursor.trans visiting.inPlace, by rw [context], ?_, .of_context same context⟩
  rw [context, Delay.left_of_status, Delay.left_put]

theorem Visiting.goesOn (awake : (countDown (delay.left run.machine.context) frames).2 = false) :
    run.GoesOnFrom delay (run.machine.overrides.resolve command.next).pointer run.machine := by
  have stepped := Machine.step_of_dispatches visiting.table visiting.dispatched run.canonical
  rw [Machine.exec_sleep] at stepped
  simp only [awake, Bool.false_eq_true, if_false] at stepped
  obtain ⟨next, step, same, context, cursor⟩ := exists_step_of_settled visiting.running stepped
  have status : next.machine.context.status = .running := by
    rw [context, Delay.status_put, visiting.running]
  refine ⟨next, step, cursor, status, ?_, .of_context same context⟩
  rw [context, Delay.left_put, countDown_eq_zero_iff, awake]

theorem Visiting.exists_returns {taken : Nat} (arrives : (start pointer machine).Arrives taken run)
    (allowed : run.Allows taken)
    (waits : (countDown (delay.left run.machine.context) frames).2 = true) :
    ∃ after, machine.Returns pointer run.cursor after ∧ run.machine.Dozes delay run.cursor after ∧
      delay.left after.context = (countDown (delay.left run.machine.context) frames).1 := by
  obtain ⟨next, step, cursor, status, left, undisturbed⟩ := visiting.stays waits
  let ending : Machine.Ending E := ⟨.ok next.cursor, next.cursor, next.machine⟩
  have asleep : next.machine.context.status ≠ .running := status ▸ delay.status_ne_running
  have lasts : (start pointer machine).Lasts (taken + 1) ending :=
    .waits (.step arrives allowed step) asleep
  have finished := undisturbed.trans (Machine.undisturbed_finish delay ending)
  refine ⟨(Machine.finish ending).2, ⟨taken + 1, fun fuel enough => ?_⟩,
    ⟨finished, status, congrArg some cursor⟩, ?_⟩
  · rw [execute?_of_lasts lasts enough, ← cursor]
    rfl
  · rw [Machine.left_finish, left]

end Visit

namespace Punctual

variable (punctual : run.Punctual)
include punctual

theorem left_of_awake (running : run.machine.context.status = .running)
    (awake : ∀ frames, ¬ run.Sleeps delay frames) :
    delay.left (run.machine.step run.canonical run.cursor).2.context =
      delay.left run.machine.context :=
  left_of_awake_of_canonical punctual.table running awake

theorem left_of_step (step : run.Step next) (delay : Delay) :
    delay.left next.machine.context = 0 ∨ next.Awaits delay ∧
      (∃ frames, run.Sleeps delay frames) ∧ next.machine.context.status = delay.status := by
  obtain ⟨running, stepped, _⟩ := step_iff.mp step
  by_cases sleeps : ∃ frames, run.Sleeps delay frames
  · obtain ⟨frames, sleeps⟩ := sleeps
    obtain ⟨command, runs⟩ := sleeps_iff.mp sleeps
    have visiting := punctual.visiting runs
    cases waits : (countDown (delay.left run.machine.context) frames).2 with
    | true =>
      obtain ⟨other, stays, cursor, status, _, undisturbed⟩ := visiting.stays waits
      obtain rfl := step.unique stays
      obtain ⟨inPlace, dispatched⟩ :=
        visiting.inPlace.of_undisturbed visiting.dispatched undisturbed cursor
      exact .inr ⟨⟨⟨command, frames, dispatched⟩, inPlace, .inl status⟩, ⟨frames, sleeps⟩, status⟩
    | false =>
      obtain ⟨other, goesOn, _, _, used, _⟩ := visiting.goesOn waits
      obtain rfl := step.unique goesOn
      exact .inl used
  · have awake := not_exists.mp sleeps
    have kept := punctual.left_of_awake running awake
    rw [stepped] at kept
    exact .inl (kept.trans (punctual.left_eq_zero running awake))

theorem step (step : run.Step next) (rests : next.RestsInPlace) : next.Punctual where
  table := step.dispatch punctual.table
  rests := rests
  waits delay := (punctual.left_of_step step delay).imp_right And.left

theorem left_of_ends {ending : Machine.Ending E} (ended : run.Ends ending) (delay : Delay) :
    delay.left ending.machine.context = delay.left run.machine.context := by
  cases ended with
  | yields => rfl
  | stops => rfl
  | faults running faulted =>
    have awake frames : ¬ run.Sleeps delay frames := not_sleeps_of_faults faulted
    have kept := punctual.left_of_awake running awake
    rwa [faulted] at kept

theorem ends_of_awaits {ending : Machine.Ending E} (ended : run.Ends ending)
    (awaits : run.Awaits delay) : ending.cursor = run.cursor ∧ ending.machine = run.machine := by
  cases ended with
  | yields => exact ⟨rfl, rfl⟩
  | stops => exact ⟨rfl, rfl⟩
  | faults running faulted =>
    obtain ⟨command, frames, dispatched⟩ := awaits.sleeps
    have runs := (runs?_eq_some_iff punctual.table).mpr ⟨running, dispatched⟩
    exact absurd (sleeps_iff.mpr ⟨command, runs⟩) (not_sleeps_of_faults faulted)

theorem resumes (resumes : run.Resumes Eq next) (rests : next.RestsInPlace) : next.Punctual := by
  have table : next.machine.dispatch = .canonical :=
    Moves.dispatch (fun _ _ same => by rw [same]) punctual.table (.inr resumes)
  refine ⟨table, rests, fun delay => ?_⟩
  cases resumes with
  | @intro ending machine ended edited =>
    subst edited
    refine (punctual.waits delay).imp (fun none => ?_) fun awaits => ?_
    · rw [start_context, Delay.left_of_status, Machine.left_finish, punctual.left_of_ends ended, none]
    · obtain ⟨stays, same⟩ := punctual.ends_of_awaits ended awaits
      have finished := Machine.undisturbed_finish delay ending
      rw [same] at finished
      have cursor : (start ending.cursor (Machine.finish ending).2).cursor = run.cursor := by
        rw [start_cursor, finished.same.overrides (by simp), stays, awaits.inPlace]
      obtain ⟨command, frames, dispatched⟩ := awaits.sleeps
      obtain ⟨inPlace, there⟩ := awaits.inPlace.of_undisturbed dispatched
        (finished.trans (Machine.undisturbed_start delay _ _)) cursor
      exact ⟨⟨command, frames, there⟩, inPlace, .inr ⟨_, _, rfl⟩⟩

end Punctual

theorem Through.punctual (table : machine.dispatch = .canonical)
    (rested : ∀ delay : Delay, delay.left machine.context = 0)
    (session : (start pointer machine).Through Eq RestsInPlace run) : run.Punctual := by
  refine session.last_of_moves (punctual_start table rested session.1) ?_
  rintro before after punctual (step | resumes) rests
  · exact punctual.step step rests
  · exact punctual.resumes resumes rests

/-- Nothing is overridden in a session that begins so and whose host functions override nothing. -/
theorem Through.bare (bare : machine.Bare)
    (session : (start pointer machine).Through Eq (fun _ => True) run) :
    (start pointer machine).Through Eq RestsInPlace run := by
  have started (pointer : Pointer) {machine : Machine E} (bare : machine.Bare) :
      (start pointer machine).machine.Bare :=
    bare.of_sameExcept (start_sameExcept pointer machine) (by simp)
  suffices kept : (start pointer machine).Through Eq (·.machine.Bare) run from
    ⟨restsInPlace_of_bare kept.1.overrides,
      kept.2.lift id fun _ _ move => ⟨move.1, restsInPlace_of_bare move.2.overrides⟩⟩
  obtain ⟨_, moves⟩ := session
  induction moves with
  | refl => exact ⟨started pointer bare, .refl⟩
  | @tail before after _ move ih =>
    refine ⟨ih.1, ih.2.tail ⟨move.1, ?_⟩⟩
    have there := ih.holds
    have stepped := there.step before.canonical before.cursor
    rcases move.1 with step | ⟨ended, rfl⟩
    · exact step.keeps stepped
    · exact started _
        ((ended.keeps there stepped).of_sameExcept (Machine.finish_sameExcept _) (by simp))

section Naps

variable (visiting : run.Visiting delay frames command)
include visiting

/-- A script that dozes with so many frames and one more left on its delay naps that often, and has one
frame left then. -/
theorem Visiting.exists_naps (count : Nat) (dozes : run.machine.Dozes delay run.cursor machine)
    (left : (delay.left machine.context).toNatClampNeg = count + 1) :
    ∃ last, Machine.Naps delay run.cursor run.machine count run.cursor machine last ∧
      run.machine.Dozes delay run.cursor last ∧ (delay.left last.context).toNatClampNeg = 1 := by
  induction count generalizing machine with
  | zero => exact ⟨machine, .rested run.cursor machine, dozes, left⟩
  | succ count ih =>
    obtain ⟨again, cursor, same, undisturbed⟩ := visiting.again dozes
    rw [← same] at left
    obtain ⟨waits, less⟩ := countDown_of_more left frames
    obtain ⟨between, returns, naps, counted⟩ :=
      again.exists_returns .start (Nat.eq_zero_or_pos _) waits
    rw [cursor] at returns naps
    rw [← counted] at less
    have further : run.machine.Dozes delay run.cursor between :=
      ⟨undisturbed.trans naps.toUndisturbed, naps.status, naps.cursor⟩
    obtain ⟨last, others, dozes, left⟩ := ih further less
    exact ⟨last, .nap returns further others, dozes, left⟩

theorem Visiting.goesOn_of_dozes (dozes : run.machine.Dozes delay run.cursor machine)
    (left : (delay.left machine.context).toNatClampNeg = 1) :
    (start run.cursor machine).GoesOnFrom delay
      (run.machine.overrides.resolve command.next).pointer run.machine := by
  obtain ⟨again, _, same, undisturbed⟩ := visiting.again dozes
  rw [← same] at left
  obtain ⟨next, step, cursor, running, used, further⟩ :=
    again.goesOn (by rw [countDown_of_last left])
  rw [undisturbed.same.overrides (by simp)] at cursor
  exact ⟨next, step, cursor, running, used, undisturbed.trans further⟩

theorem Visiting.lasts {taken : Nat} (none : delay.left run.machine.context = 0) (many : 0 < frames)
    (arrives : (start pointer machine).Arrives taken run) (allowed : run.Allows taken) :
    ∃ last, Machine.Naps delay run.cursor run.machine frames.toNatClampNeg pointer machine last ∧
      (start run.cursor last).GoesOnFrom delay
        (run.machine.overrides.resolve command.next).pointer run.machine := by
  have counted := countDown_zero frames
  rw [← none, if_pos many] at counted
  obtain ⟨first, returns, dozes, left⟩ := visiting.exists_returns arrives allowed (by rw [counted])
  obtain ⟨count, number⟩ := Nat.exists_eq_succ_of_ne_zero (Nat.ne_of_gt (frames_pos_iff.mp many))
  have more : (delay.left first.context).toNatClampNeg = count + 1 := by
    rw [left, counted, toNatClampNeg_toInt32, number]
  obtain ⟨last, naps, dozes', one⟩ := visiting.exists_naps count dozes more
  rw [number]
  exact ⟨last, .nap returns dozes naps, visiting.goesOn_of_dozes dozes' one⟩

end Naps

/-- A session that begins with nothing left on its delays, and that overrides never lead away from a
command that sleeps, always has nothing left on a delay that it does not wait on: an execution returns
with what it has come to, and after a step something is left only if the step has paused at a command
that sleeps. When the session comes to a command that sleeps for some frames, that many executions in a
row come back to the command, with the status of its delay and nothing else changed, and the next one
goes on behind the command, where the overrides lead from there; one that sleeps for no frames is gone
past at once. -/
theorem sleep_isExact (table : machine.dispatch = .canonical)
    (rested : ∀ delay : Delay, delay.left machine.context = 0)
    (session : (start pointer machine).Through Eq RestsInPlace run) :
    (∀ delay : Delay, delay.left run.machine.context = 0 ∨ run.Awaits delay) ∧
    (∀ ending, run.Ends ending → ∀ delay : Delay,
      delay.left (Machine.finish ending).2.context = delay.left run.machine.context) ∧
    (∀ next, run.Step next → ∀ delay : Delay, delay.left next.machine.context = 0 ∨
      (∃ frames, run.Sleeps delay frames) ∧ next.machine.context.status = delay.status) ∧
    ∀ (delay : Delay) (command : Command) (frames : Int16),
      run.runs? = some (command, delay.sleep frames) → delay.left run.machine.context = 0 →
      let behind := (run.machine.overrides.resolve command.next).pointer
      (frames ≤ 0 → run.GoesOnFrom delay behind run.machine) ∧
      (0 < frames → ∀ (called : Machine E) (origin : Pointer) (taken : Nat),
        (start origin called).Arrives taken run → run.Allows taken →
        ∃ last, Machine.Naps delay run.cursor run.machine frames.toNatClampNeg origin called last ∧
          (start run.cursor last).GoesOnFrom delay behind run.machine) := by
  have punctual := session.punctual table rested
  refine ⟨punctual.waits, fun ending ended delay => ?_, fun next step delay => ?_, ?_⟩
  · rw [Machine.left_finish, punctual.left_of_ends ended]
  · exact (punctual.left_of_step step delay).imp_right And.right
  · intro delay command frames runs none behind
    have visiting := punctual.visiting runs
    refine ⟨fun few => visiting.goesOn ?_, fun many called origin taken arrives allowed =>
      visiting.lasts none many arrives allowed⟩
    rw [none, countDown_zero, if_neg (Int16.not_lt.mpr few)]

/-- Sleeps for three frames in each of two rounds, then for one. -/
def nappingScript : Bytes := #[
  0x08, 4, 2, 0,
  0x04, 4, 3, 0,
  0x09, 4, 0, 0,
  0x03, 4, 1, 0,
  0x02, 4, 0, 0]

def napping : Machine Scripted.embedding := (ofScript #[] nappingScript).machine

/-- Three executions come back to the first command that sleeps. -/
theorem sleep_isExact_napping : ∃ run last, (start ⟨0, 0⟩ napping).Step run ∧
    run.cursor = ⟨0, 4⟩ ∧
      Machine.Naps .secondary run.cursor run.machine 3 ⟨0, 0⟩ napping last := by
  let run := ((start ⟨0, 0⟩ napping).next?).get (by decide +kernel)
  have step : (start ⟨0, 0⟩ napping).Step run := (Option.some_get _).symm
  have table : napping.dispatch = .canonical := dispatch_ofScript #[] nappingScript
  have bare : napping.Bare := ⟨table, by decide +kernel, allHosts_ofScript #[] nappingScript _⟩
  have session := Through.bare bare ⟨trivial, .single ⟨.inl step, trivial⟩⟩
  have rested (delay : Delay) : delay.left napping.context = 0 := by
    cases delay <;> decide +kernel
  have sleeps : run.Sleeps .secondary 3 := by decide +kernel
  obtain ⟨command, runs⟩ := sleeps_iff.mp sleeps
  have arrives : (start ⟨0, 0⟩ napping).Arrives 1 run := .step .start (by decide +kernel) step
  obtain ⟨_, _, _, exact⟩ := sleep_isExact table rested session
  obtain ⟨last, naps, _⟩ := (exact .secondary command 3 runs (by decide +kernel)).2 (by decide)
    napping ⟨0, 0⟩ 1 arrives (by decide +kernel)
  exact ⟨run, last, step, by decide +kernel, naps⟩

/-- Calls two functions, sleeps for one frame, sets the register, and sleeps for three. -/
def divertingScript : Bytes := #[
  0x11, 8, 0, 0, 5, 0, 0, 0,
  0x11, 8, 0, 0, 6, 0, 0, 0,
  0x03, 4, 1, 0,
  0x13, 4, 9, 0,
  0x03, 4, 3, 0,
  0x02, 4, 0, 0]

/-- The functions override what is behind the first command that sleeps by the second one, and that by
the end of the script. -/
def diverting : Machine Scripted.embedding :=
  ((ofScript #[] divertingScript).machine.registerHost 5 (.override ⟨⟨0, 24⟩, ⟨0, 28⟩, 1⟩)).registerHost 6
    (.override ⟨⟨0, 20⟩, ⟨0, 24⟩, 1⟩)

def diverted : Nat → Machine Scripted.embedding
  | 0 => diverting
  | count + 1 =>
    (((diverted count).execute? 9 ((diverted count).context.cursor.getD ⟨0, 0⟩)).map Prod.snd).getD
      (diverted count)

theorem execute?_diverted {count : Nat} {cursor place : Pointer}
    (stands : (diverted count).context.cursor.getD ⟨0, 0⟩ = cursor)
    (returns : ((diverted count).execute? 9 cursor).map Prod.fst = some (.ok place)) :
    (diverted count).execute? 9 cursor = some (.ok place, diverted (count + 1)) := by
  obtain ⟨⟨_, after⟩, ran, rfl⟩ := Option.map_eq_some_iff.mp returns
  rw [diverted, stands, ran]
  rfl

/-- The second execution goes on from the first command that sleeps, but not with the command behind it;
and it is led away from the second one when it pauses there, so that the third execution exits with all
three frames left. -/
theorem sleep_ledAway :
    diverting.dispatch = .canonical ∧ diverting.overrides.overrides = [] ∧
      (∀ delay : Delay, delay.left diverting.context = 0) ∧
      diverting.execute? 9 ⟨0, 0⟩ = some (.ok ⟨0, 16⟩, diverted 1) ∧
      (diverted 1).execute? 9 ⟨0, 16⟩ = some (.ok ⟨0, 28⟩, diverted 2) ∧
      ((diverted 1).fetch? ⟨0, 20⟩).map Prod.snd = some (.setRegister 9) ∧
      (diverted 2).context.register = 0 ∧ (diverted 2).context.status = .paused ∧
      Delay.primary.left (diverted 2).context = 3 ∧
      ((diverted 2).fetch? ⟨0, 24⟩).map Prod.snd = some (.sleep 3) ∧
      (diverted 2).execute? 9 ⟨0, 28⟩ = some (.ok ⟨0, 28⟩, diverted 3) ∧
      (diverted 3).context.status = .exited ∧ Delay.primary.left (diverted 3).context = 3 := by
  have table : diverting.dispatch = .canonical := dispatch_ofScript #[] divertingScript
  have rested (delay : Delay) : delay.left diverting.context = 0 := by
    cases delay <;> decide +kernel
  have first : (diverted 0).execute? 9 ⟨0, 0⟩ = some (.ok ⟨0, 16⟩, diverted 1) :=
    execute?_diverted (by decide +kernel) (by decide +kernel)
  have second : (diverted 1).execute? 9 ⟨0, 16⟩ = some (.ok ⟨0, 28⟩, diverted 2) :=
    execute?_diverted (by decide +kernel) (by decide +kernel)
  have third : (diverted 2).execute? 9 ⟨0, 28⟩ = some (.ok ⟨0, 28⟩, diverted 3) :=
    execute?_diverted (by decide +kernel) (by decide +kernel)
  refine ⟨table, by decide +kernel, rested, first, second, ?_, ?_, ?_, ?_, ?_, third, ?_, ?_⟩
  all_goals decide +kernel

end Run

end StageScript
