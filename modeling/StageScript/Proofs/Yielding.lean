import StageScript.Proofs.Timing

/-!
Why a script stops. Of all instructions only a few hold a script where it stands, and each of them
gives it a status of its own: an exit at top level, a sleep that is not over, a looping call that
was answered zero. Together with a code that is no opcode, these are what an execution returns at, so
that its host can tell from the status what the script waits for. A script that has exited stays so
however often it is executed again.
-/

namespace StageScript

open Machine (countDown)

namespace Machine

variable {E : Embedding} {machine : Machine E}

/-- The machine that an instruction leaves when it holds the script where it stands. -/
inductive Halts (machine : Machine E) : Instruction → Machine E → Prop where
  | exits (top : machine.stack.frames = []) : Halts machine .exit (machine.setStatus .exited)
  | sleeps {delay : Delay} {frames : Int16}
    (waits : (countDown (delay.left machine.context) frames).2 = true) :
    Halts machine (delay.sleep frames) { machine with
      context := { delay.put (countDown (delay.left machine.context) frames).1 machine.context with
        status := delay.status } }
  | calls {argument : Int16} {function : UInt32} {called : Machine E}
    (answered : machine.invokeHost function argument = .ok (0, called)) :
    Halts machine (.callLoop argument function) ((called.setRegister 0).setStatus .paused)
  | callsToken {argument : Int16} {token : UInt32} {called : Machine E}
    (answered : machine.callToken .callLoopExt argument token = .ok (0, called)) :
    Halts machine (.callLoopExt argument token) (called.setStatus .paused)

theorem Halts.sameExcept {instruction : Instruction} {halted : Machine E}
    (halts : machine.Halts instruction halted) : machine.SameExcept
      [.context, .overrides, .level, .tokens, .hosts, .reporter] halted := by
  cases halts with
  | exits => constructor <;> simp [setStatus]
  | sleeps => constructor <;> simp
  | @calls _ _ called answered =>
    have held : called.SameExcept [.context] ((called.setRegister 0).setStatus .paused) := by
      constructor <;> simp [setRegister, setStatus]
    exact ((sameExcept_of_invokeHost answered).mono (by simp)).trans (held.mono (by simp))
  | @callsToken _ _ called answered =>
    have held : called.SameExcept [.context] (called.setStatus .paused) := by
      constructor <;> simp [setStatus]
    exact ((sameExcept_of_callToken answered).mono (by simp)).trans (held.mono (by simp))

theorem context_of_callToken {opcode : Opcode} {argument : Int16} {token : UInt32} {value : Int32}
    {called : Machine E}
    (answered : machine.callToken opcode argument token = .ok (value, called)) :
    called.context = { machine.context with register := value } := by
  simp only [callToken, bind, Except.bind] at answered
  split at answered
  next => cases answered
  next =>
    split at answered
    next =>
      cases answered
      rfl
    next => cases answered

/-- The script runs on, or the instruction has held it. -/
def RunsOnOrHalts (machine : Machine E) (instruction : Instruction) (outcome : Outcome E) : Prop :=
  outcome.machine.context.status = machine.context.status ∨
    ∃ halted, machine.Halts instruction halted ∧ outcome = halted.hold

theorem sleep_runsOnOrHalts (delay : Delay) (frames : Int16) (following : Pointer) :
    machine.RunsOnOrHalts (delay.sleep frames) (machine.exec (delay.sleep frames) following) := by
  rw [exec_sleep]
  cases waits : (countDown (delay.left machine.context) frames).2 with
  | true =>
    simp only [waits, if_true]
    exact .inr ⟨_, .sleeps waits, rfl⟩
  | false =>
    simp only [waits, Bool.false_eq_true, if_false]
    exact .inl (delay.status_put _ machine.context)

theorem exit_runsOnOrHalts : machine.RunsOnOrHalts .exit machine.exit := by
  rcases machine.exit_cases with ⟨top, same⟩ | ⟨fault, _, same⟩ | ⟨resume, stack, _, same⟩
  · exact .inr ⟨_, .exits top, same⟩
  · rw [same]
    exact .inl rfl
  · rw [same]
    have popped := popCheckpoint_sameExcept .exit { machine with stack }
    exact .inl (congrArg Context.status (popped.context (by simp)))

theorem status_of_invokeHost {id : UInt32} {argument : Int16} {value : Int32} {called : Machine E}
    (answered : machine.invokeHost id argument = .ok (value, called)) :
    called.context.status = machine.context.status :=
  congrArg Context.status ((sameExcept_of_invokeHost answered).context (by simp))

theorem callLoop_runsOnOrHalts (argument : Int16) (function : UInt32) :
    machine.RunsOnOrHalts (.callLoop argument function) (machine.callLoop argument function) := by
  unfold callLoop
  split
  next => exact .inl rfl
  next value called answered =>
    unfold holdWhileZero
    split
    next zero =>
      subst zero
      exact .inr ⟨_, .calls answered, rfl⟩
    next =>
      have same := status_of_invokeHost answered
      exact .inl same

theorem callLoopExt_runsOnOrHalts (argument : Int16) (token : UInt32) :
    machine.RunsOnOrHalts (.callLoopExt argument token) (machine.callLoopExt argument token) := by
  unfold callLoopExt
  split
  next => exact .inl rfl
  next value called answered =>
    unfold holdWhileZero
    split
    next zero =>
      subst zero
      exact .inr ⟨_, .callsToken answered, rfl⟩
    next =>
      have same := congrArg Context.status (context_of_callToken answered)
      exact .inl same

theorem exec_runsOnOrHalts (instruction : Instruction) (following : Pointer) (machine : Machine E) :
    machine.RunsOnOrHalts instruction (machine.exec instruction following) := by
  by_cases absent : Part.context ∉ instruction.footprint
  · have same := (exec_sameExcept instruction following machine).context absent
    exact .inl (congrArg Context.status same)
  · cases instruction with
    | sleep frames => exact sleep_runsOnOrHalts .primary frames following
    | sleepBeforeExit frames => exact sleep_runsOnOrHalts .secondary frames following
    | exit => exact exit_runsOnOrHalts
    | callLoop argument function => exact callLoop_runsOnOrHalts argument function
    | callLoopExt argument token => exact callLoopExt_runsOnOrHalts argument token
    | setRegister value => exact .inl rfl
    | call argument function =>
      simp only [exec, call]
      split
      next => exact .inl rfl
      next value called answered =>
        have same := status_of_invokeHost answered
        exact .inl same
    | getOrSet mode var =>
      simp only [exec, getOrSet]
      split
      next => exact .inl rfl
      next =>
        split
        next => exact .inl rfl
        next => split <;> exact .inl rfl
    | callExt argument token =>
      simp only [exec, callExt]
      cases answered : machine.callToken .callExt argument token with
      | error => exact .inl rfl
      | ok reply =>
        have same := congrArg Context.status (context_of_callToken answered)
        exact .inl same
    | _ => exact absurd (by simp [Instruction.footprint]) absent

/-- What an execution has come back at: the command at a place, as the machine that is left shows it, and
where the overrides lead from there. -/
inductive Yields (before : Machine E) (place : Pointer) (after : Machine E) : Pointer → Prop where
  | exited {command : Command} (there : after.Dispatches place command .exit)
    (status : after.context.status = .exited) (top : after.stack.frames = []) :
    Yields before place after (after.overrides.resolve place).pointer
  | asleep {command : Command} {frames : Int16} (delay : Delay)
    (there : after.Dispatches place command (delay.sleep frames))
    (status : after.context.status = delay.status) (left : 0 < delay.left after.context) :
    Yields before place after (after.overrides.resolve place).pointer
  | unanswered {command : Command} {argument : Int16} {function : UInt32} {called : Machine E}
    (there : after.Dispatches place command (.callLoop argument function))
    (answered : before.invokeHost function argument = .ok (0, called))
    (status : after.context.status = .paused) (register : after.context.register = 0) :
    Yields before place after (after.overrides.resolve place).pointer
  | unansweredToken {command : Command} {argument : Int16} {token : UInt32} {called : Machine E}
    (there : after.Dispatches place command (.callLoopExt argument token))
    (answered : before.callToken .callLoopExt argument token = .ok (0, called))
    (status : after.context.status = .paused) (register : after.context.register = 0) :
    Yields before place after (after.overrides.resolve place).pointer
  | unknown {bytes : Bytes} {code : UInt8}
    (live : after.memory.buffer? place.buffer = some bytes)
    (read : Command.codeAt bytes place = .ok code) (none : Opcode.ofCode? code = none)
    (status : after.context.status = .paused) : Yields before place after place

theorem Yields.not_running {before after : Machine E} {place cursor : Pointer}
    (yields : before.Yields place after cursor) : after.context.status ≠ .running := by
  cases yields with
  | exited _ status => rw [status]; exact nofun
  | asleep delay _ status => rw [status]; exact delay.status_ne_running
  | unanswered _ _ status => rw [status]; exact nofun
  | unansweredToken _ _ status => rw [status]; exact nofun
  | unknown _ _ _ status => rw [status]; exact nofun

theorem Yields.eq_place {before after : Machine E} {place cursor : Pointer}
    (yields : before.Yields place after cursor) (bare : after.overrides.overrides = []) :
    cursor = place := by
  cases yields with
  | unknown => rfl
  | _ => simp [Registry.resolve, bare]

/-- So many executions in a row, each from the place, have all come back to the place. -/
inductive Repeats [Patches E] (place : Pointer) : Nat → Machine E → Machine E → Prop where
  | none (machine : Machine E) : Repeats place 0 machine machine
  | again {count : Nat} {machine between after : Machine E}
    (returns : machine.Returns place place between) (repeats : Repeats place count between after) :
    Repeats place (count + 1) machine after

/-- The script has exited at a place that the overrides leave where it is. -/
structure Exited (place : Pointer) (machine : Machine E) : Prop where
  table : machine.dispatch = .canonical
  there : ∃ command, machine.Dispatches place command .exit
  top : machine.stack.frames = []
  status : machine.context.status = .exited
  cursor : machine.context.cursor = some place
  inPlace : (machine.overrides.resolve place).pointer = place

theorem SameExcept.of_context {parts : List Part} {after : Machine E}
    (same : machine.SameExcept (.context :: parts) after)
    (context : after.context = machine.context) : machine.SameExcept parts after where
  config := same.config
  dispatch := same.dispatch
  context _ := context
  stack absent := same.stack (by simp [absent])
  overrides absent := same.overrides (by simp [absent])
  activeOwner absent := same.activeOwner (by simp [absent])
  level absent := same.level (by simp [absent])
  memory absent := same.memory (by simp [absent])
  tokens absent := same.tokens (by simp [absent])
  scene absent := same.scene (by simp [absent])
  presentation absent := same.presentation (by simp [absent])
  hosts absent := same.hosts (by simp [absent])
  reporter absent := same.reporter (by simp [absent])

theorem Exited.of_sameExcept {place : Pointer} {after : Machine E} (exited : machine.Exited place)
    (same : machine.SameExcept [.activeOwner, .reporter] after) : after.Exited place where
  table := same.dispatch.trans exited.table
  there := exited.there.imp fun _ there => there.of_sameExcept same (by simp)
  top := by rw [same.stack (by simp), exited.top]
  status := by rw [same.context (by simp), exited.status]
  cursor := by rw [same.context (by simp), exited.cursor]
  inPlace := by rw [same.overrides (by simp), exited.inPlace]

theorem Yields.stays_exited {before after : Machine E} {place cursor : Pointer}
    (yields : before.Yields place after cursor) (table : after.dispatch = .canonical)
    (status : after.context.status = .exited) (stands : after.context.cursor = some cursor)
    (stays : cursor = place) : after.Exited cursor := by
  cases yields with
  | exited there _ top =>
    rw [← stays] at there
    exact ⟨table, ⟨_, there⟩, top, status, stands, by rw [stays]; exact stays⟩
  | asleep delay _ sleeps => cases delay <;> cases sleeps.symm.trans status
  | unanswered _ _ paused => cases paused.symm.trans status
  | unansweredToken _ _ paused => cases paused.symm.trans status
  | unknown _ _ _ paused => cases paused.symm.trans status

theorem countDown_pos {left : Int32} {frames : Int16} (above : 0 ≤ left)
    (waits : (countDown left frames).2 = true) : 0 < (countDown left frames).1 := by
  have rest := countDown_nonneg above frames
  have some : (countDown left frames).1 ≠ 0 := by
    rw [ne_eq, countDown_eq_zero_iff, waits]
    exact nofun
  rw [Int32.lt_iff_le_and_ne]
  exact ⟨rest, some.symm⟩

theorem Halts.yields {instruction : Instruction} {halted after : Machine E} {place : Pointer}
    {command : Command} {cursor : Option Pointer} (halts : machine.Halts instruction halted)
    (above : ∀ delay : Delay, 0 ≤ delay.left machine.context)
    (dispatched : machine.Dispatches place command instruction)
    (same : halted.SameExcept [.context, .activeOwner, .reporter] after)
    (context : after.context = { halted.context with cursor }) :
    machine.Yields place after (after.overrides.resolve place).pointer := by
  have there := (dispatched.of_sameExcept halts.sameExcept (by simp)).of_sameExcept same (by simp)
  cases halts with
  | exits top => exact .exited there (by rw [context]; rfl) (by rw [same.stack (by simp)]; exact top)
  | @sleeps delay frames waits =>
    refine .asleep delay there (by rw [context]) ?_
    have left : delay.left after.context = (countDown (delay.left machine.context) frames).1 := by
      rw [context]
      cases delay <;> rfl
    rw [left]
    exact countDown_pos (above delay) waits
  | calls answered => exact .unanswered there answered (by rw [context]; rfl) (by rw [context]; rfl)
  | callsToken answered =>
    have register := congrArg Context.register (context_of_callToken answered)
    exact .unansweredToken there answered (by rw [context]; rfl) (by rw [context]; exact register)

end Machine

namespace Run

variable {E : Embedding} [Patches E] {run next : Run E} {pointer cursor : Pointer}
  {machine after : Machine E}

theorem Step.dispatches_or_unknown (table : run.machine.dispatch = .canonical)
    (step : run.Step next) :
    (∃ command instruction, run.machine.Dispatches run.cursor command instruction) ∨
    ∃ bytes code, run.machine.memory.buffer? run.cursor.buffer = some bytes ∧
      Command.codeAt bytes run.cursor = .ok code ∧ Opcode.ofCode? code = none ∧
      next.cursor = run.cursor ∧ next.machine = run.machine.setStatus .paused := by
  obtain ⟨_, stepped, _⟩ := step_iff.mp step
  unfold Machine.step at stepped
  split at stepped
  next => cases stepped
  next bytes live =>
    split at stepped
    next => cases stepped
    next code found =>
      simp only [Machine.handler?_of_canonical table] at stepped
      cases known : Opcode.ofCode? code with
      | none =>
        simp only [known, Option.map_none, Prod.mk.injEq, Except.ok.injEq] at stepped
        exact .inr ⟨bytes, code, live, found, known, stepped.1.symm, stepped.2.symm⟩
      | some opcode =>
        simp only [known, Option.map_some] at stepped
        split at stepped
        next => cases stepped
        next command decoded =>
          rw [← Command.code_of_decode decoded found] at known
          cases read : Instruction.read opcode command with
          | error fault =>
            simp only [Machine.dispatchCommand, read, Machine.fault] at stepped
            cases stepped
          | ok instruction =>
            exact .inl ⟨command, instruction, ⟨bytes, live, decoded⟩, opcode, known, read⟩

theorem Step.left_nonneg (table : run.machine.dispatch = .canonical)
    (above : ∀ delay : Delay, 0 ≤ delay.left run.machine.context) (step : run.Step next)
    (delay : Delay) : 0 ≤ delay.left next.machine.context := by
  obtain ⟨running, stepped, _⟩ := step_iff.mp step
  by_cases sleeps : ∃ frames, run.Sleeps delay frames
  · obtain ⟨frames, sleeps⟩ := sleeps
    rw [(sleeps.visits step).left]
    exact Machine.countDown_nonneg (above delay) frames
  · have kept := left_of_awake_of_canonical table running (not_exists.mp sleeps)
    rw [stepped] at kept
    rw [kept]
    exact above delay

theorem Arrives.left_nonneg {first : Run E} {taken : Nat}
    (table : first.machine.dispatch = .canonical)
    (above : ∀ delay : Delay, 0 ≤ delay.left first.machine.context)
    (arrives : first.Arrives taken run) (delay : Delay) : 0 ≤ delay.left run.machine.context := by
  induction arrives generalizing delay with
  | start => exact above delay
  | step arrives _ step ih => exact step.left_nonneg (arrives.dispatch table) ih delay

section Yields

variable (table : run.machine.dispatch = .canonical)
  (above : ∀ delay : Delay, 0 ≤ delay.left run.machine.context) (step : run.Step next)
  (waits : next.machine.context.status ≠ .running)
include table above step waits

theorem Step.yields_of_dispatches {command : Command} {instruction : Instruction}
    (dispatched : run.machine.Dispatches run.cursor command instruction) :
    let after := (Machine.finish ⟨.ok next.cursor, next.cursor, next.machine⟩).2
    run.machine.Yields run.cursor after next.cursor := by
  intro after
  obtain ⟨flow, went, followed⟩ := step.of_dispatches table dispatched
  have same := Machine.sameExcept_of_followed followed
  rcases run.machine.exec_runsOnOrHalts instruction command.next with runs | ⟨halted, halts, held⟩
  · rw [same.context (by simp), runs] at waits
    exact absurd (step_iff.mp step).1 waits
  · rw [held] at went followed same
    cases went
    have settled : halted.SameExcept [.context, .activeOwner, .reporter] after :=
      (same.mono (by simp)).trans <| (Machine.finish_sameExcept
        ⟨.ok next.cursor, next.cursor, next.machine⟩).mono (by simp)
    have context : after.context = { halted.context with cursor := some next.cursor } := by
      rw [← show next.machine.context = halted.context from same.context (by simp)]
      rfl
    have cursor : next.cursor = (after.overrides.resolve run.cursor).pointer := by
      rw [settled.overrides (by simp)]
      exact (congrArg Prod.fst followed).symm
    rw [cursor]
    exact halts.yields above dispatched settled context

/-- A step after which the script runs no longer has come to what the script yields at. -/
theorem Step.yields :
    let after := (Machine.finish ⟨.ok next.cursor, next.cursor, next.machine⟩).2
    run.machine.Yields run.cursor after next.cursor := by
  rcases step.dispatches_or_unknown table with
    ⟨command, instruction, dispatched⟩ | ⟨bytes, code, live, read, unknown, cursor, paused⟩
  · exact step.yields_of_dispatches table above waits dispatched
  · rw [cursor, paused]
    exact .unknown live read unknown rfl

end Yields

section Exited

variable {place : Pointer}

theorem returns_of_exited (exited : machine.Exited place) :
    ∃ later, machine.Returns place place later ∧
      machine.SameExcept [.activeOwner, .reporter] later := by
  let run := start place machine
  have started : machine.SameExcept [.context, .activeOwner, .reporter] run.machine :=
    start_sameExcept place machine
  have cursor : run.cursor = place := (start_cursor place machine).trans exited.inPlace
  have context : run.machine.context = { machine.context with status := .running } :=
    start_context place machine
  obtain ⟨command, there⟩ := exited.there
  have dispatched : run.machine.Dispatches run.cursor command .exit := by
    rw [cursor]
    exact there.of_sameExcept started (by simp)
  have went : run.machine.exec .exit command.next = (run.machine.setStatus .exited).hold := by
    rw [Machine.exec, Machine.exit, started.stack (by simp), exited.top]
  have stepped := Machine.step_of_dispatches (started.dispatch.trans exited.table) dispatched
    run.canonical
  rw [went] at stepped
  obtain ⟨next, step, same, ended, held⟩ := exists_step_of_settled (by rw [context]) stepped
  have stays : next.cursor = place := by
    rw [held, Flow.target, cursor, started.overrides (by simp), exited.inPlace]
  let ending : Machine.Ending E := ⟨.ok next.cursor, next.cursor, next.machine⟩
  have lasts : run.Lasts 1 ending :=
    .waits (.step .start (Nat.eq_zero_or_pos _) step) (by simp [ended])
  have returned : Machine.finish ending = (.ok place, (Machine.finish ending).2) := by
    rw [← stays]
    rfl
  refine ⟨(Machine.finish ending).2, ⟨1, fun fuel enough => ?_⟩, ?_⟩
  · rw [execute?_of_lasts lasts enough, returned]
  · have whole : machine.SameExcept [.context, .activeOwner, .reporter] (Machine.finish ending).2 :=
      (started.trans same).trans ((Machine.finish_sameExcept ending).mono (by simp))
    refine whole.of_context ?_
    calc (Machine.finish ending).2.context
        = { next.machine.context with cursor := some next.cursor } := rfl
      _ = { machine.context with cursor := some place, status := .exited } := by
        rw [ended, stays, context]
      _ = machine.context := by rw [← exited.cursor, ← exited.status]

theorem repeats_of_exited (exited : machine.Exited place) (count : Nat) :
    ∃ later, machine.Repeats place count later ∧
      machine.SameExcept [.activeOwner, .reporter] later := by
  induction count generalizing machine with
  | zero => exact ⟨machine, .none machine, .refl _ _⟩
  | succ count ih =>
    obtain ⟨between, returns, same⟩ := returns_of_exited exited
    obtain ⟨later, repeats, further⟩ := ih (exited.of_sameExcept same)
    exact ⟨later, .again returns repeats, same.trans further⟩

end Exited

/-- An execution that returns has come, running, to a command that it returns at: to an exit with the
control stack empty, to a sleep with frames left on its delay, to a looping call that was answered zero,
or to a code that is no opcode. The status tells these kinds of commands apart and is never that of a
running script. The execution returns the place of the command, or where host functions have overridden
it to lead. A script that has exited at the place returned comes back there however often it is executed
from there, with nothing changed but what it has reported and whose command it was. -/
theorem status_saysWhy {fuel : Nat} (table : machine.dispatch = .canonical)
    (above : ∀ delay : Delay, 0 ≤ delay.left machine.context)
    (ran : machine.execute? fuel pointer = some (.ok cursor, after)) :
    after.context.status ≠ .running ∧ after.context.cursor = some cursor ∧
    ∃ taken last, (start pointer machine).Arrives taken last ∧
      last.machine.context.status = .running ∧ last.machine.Yields last.cursor after cursor ∧
      (after.overrides.overrides = [] → cursor = last.cursor) ∧
      (after.context.status = .exited → cursor = last.cursor → ∀ count, ∃ later,
        after.Repeats cursor count later ∧ after.SameExcept [.activeOwner, .reporter] later) := by
  obtain ⟨dispatched, ending, lasts, finished⟩ := exists_lasts_of_execute? ran
  cases lasts with
  | stops => cases finished
  | faults => cases finished
  | @waits _ run arrives waits =>
    cases finished
    have started := start_sameExcept pointer machine
    have table' := started.dispatch.trans table
    have above' (delay : Delay) : 0 ≤ delay.left (start pointer machine).machine.context := by
      rw [start_context, Delay.left_of_status]
      exact above delay
    cases arrives with
    | start =>
      rw [start_context] at waits
      exact absurd rfl waits
    | @step taken last _ arrives allowed step =>
      have last' := arrives.dispatch table'
      have yields := step.yields last' (arrives.left_nonneg table' above') waits
      refine ⟨waits, rfl, taken, last, arrives, (step_iff.mp step).1, yields, yields.eq_place, ?_⟩
      intro exited same count
      exact repeats_of_exited (yields.stays_exited (step.dispatch last') exited rfl same) count

/-- Calls a host function until it answers something else than zero, and exits. -/
def askingScript : Bytes := #[
  0x12, 8, 0, 0, 5, 0, 0, 0,
  0x02, 4, 0, 0]

def asking (function : Scripted.Function) : Machine Scripted.embedding :=
  (ofScript #[] askingScript).machine.registerHost 5 function

def asked (function : Scripted.Function) : Machine Scripted.embedding :=
  (((asking function).execute? 9 ⟨0, 0⟩).map Prod.snd).getD (asking function)

theorem execute?_asking {function : Scripted.Function} {cursor : Pointer}
    (returns : ((asking function).execute? 9 ⟨0, 0⟩).map Prod.fst = some (.ok cursor)) :
    (asking function).execute? 9 ⟨0, 0⟩ = some (.ok cursor, asked function) := by
  obtain ⟨⟨_, after⟩, ran, rfl⟩ := Option.map_eq_some_iff.mp returns
  rw [asked, ran]
  rfl

/-- The function answers one, so that the script exits, and it stays at its exit. -/
theorem status_saysWhy_answered :
    (asking (.callback (.const 1))).execute? 9 ⟨0, 0⟩ =
        some (.ok ⟨0, 8⟩, asked (.callback (.const 1))) ∧
      (asked (.callback (.const 1))).context.status = .exited ∧
      ∀ count, ∃ later, (asked (.callback (.const 1))).Repeats ⟨0, 8⟩ count later ∧
        (asked (.callback (.const 1))).SameExcept [.activeOwner, .reporter] later := by
  have table : (asking (.callback (.const 1))).dispatch = .canonical :=
    dispatch_ofScript #[] askingScript
  have above (delay : Delay) : 0 ≤ delay.left (asking (.callback (.const 1))).context := by
    cases delay <;> decide +kernel
  have ran := @execute?_asking (.callback (.const 1)) ⟨0, 8⟩ (by decide +kernel)
  obtain ⟨-, -, _, last, -, -, -, stays, again⟩ := status_saysWhy table above ran
  have exited : (asked (.callback (.const 1))).context.status = .exited := by decide +kernel
  exact ⟨ran, exited, again exited (stays (by decide +kernel))⟩

/-- The function answers zero and overrides the call, so that the script is paused at its exit. -/
theorem call_redirected :
    (asking (.override ⟨⟨0, 0⟩, ⟨0, 8⟩, 1⟩)).dispatch = .canonical ∧
      (asking (.override ⟨⟨0, 0⟩, ⟨0, 8⟩, 1⟩)).overrides.overrides = [] ∧
      (∀ delay : Delay, 0 ≤ delay.left (asking (.override ⟨⟨0, 0⟩, ⟨0, 8⟩, 1⟩)).context) ∧
      (asking (.override ⟨⟨0, 0⟩, ⟨0, 8⟩, 1⟩)).execute? 9 ⟨0, 0⟩ =
        some (.ok ⟨0, 8⟩, asked (.override ⟨⟨0, 0⟩, ⟨0, 8⟩, 1⟩)) ∧
      (asked (.override ⟨⟨0, 0⟩, ⟨0, 8⟩, 1⟩)).context.status = .paused ∧
      ((asked (.override ⟨⟨0, 0⟩, ⟨0, 8⟩, 1⟩)).fetch? ⟨0, 8⟩).map Prod.snd = some .exit :=
  ⟨dispatch_ofScript #[] askingScript, by decide +kernel,
    fun delay => by cases delay <;> decide +kernel, execute?_asking (by decide +kernel),
    by decide +kernel, by decide +kernel⟩

end Run

end StageScript
