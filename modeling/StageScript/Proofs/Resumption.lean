import StageScript.Proofs.Invisibility
import StageScript.Proofs.Reporting

/-!
Step limits. An execution under a step limit takes the steps that it takes without one, as long as
the limit lasts. When the limit has stopped it, another execution from where it stands goes on as if
nothing had happened, provided that the overrides leave it there; so an execution in pieces comes to
the end of the one that is never stopped.
-/

namespace StageScript

namespace Machine

variable {E : Embedding} {machine : Machine E}

/-- The machine under another step limit; zero is none. -/
def limitedTo (limit : Nat) (machine : Machine E) : Machine E :=
  { machine with config := { machine.config with stepLimit := limit } }

/-- Executes, and whenever the step limit stops an execution, executes again from where it stands. -/
def resumed? [Patches E] : (times : Nat) → Pointer → Machine E →
    Option (Except Fault Pointer × Machine E)
  | 0, _, _ => none
  | times + 1, pointer, machine =>
    match machine.run pointer with
    | (.error (.stepLimitExceeded _), stopped) => do
      stopped.resumed? times (← stopped.context.cursor)
    | ended => some ended

section Resumed

variable [Patches E] {pointer cursor : Pointer} {after : Machine E} {times : Nat}

theorem resumed?_of_ended {result : Except Fault Pointer} (ran : machine.run pointer = (result, after))
    (own : ∀ limit, result ≠ .error (.stepLimitExceeded limit)) :
    machine.resumed? (times + 1) pointer = some (result, after) := by
  unfold resumed?
  split
  next limit stopped same =>
    rw [ran, Prod.mk.injEq] at same
    exact absurd same.1 (own limit)
  next => rw [ran]

theorem resumed?_of_stopped {limit : Nat}
    (ran : machine.run pointer = (.error (.stepLimitExceeded limit), after))
    (stands : after.context.cursor = some cursor) :
    machine.resumed? (times + 1) pointer = after.resumed? times cursor := by
  simp only [resumed?, ran, stands]
  rfl

end Resumed

theorem onward_ne {outcome : Outcome E} {limit : Nat} (onward : outcome.Onward) :
    outcome.flow ≠ .error (.stepLimitExceeded limit) := by
  rcases onward with went | stayed
  · rw [went]
    exact nofun
  · rw [stayed]
    exact nofun

section Unlimited

variable (limit : Nat)

theorem push_ne_stepLimit (frame : Frame) (flow : Flow) (machine : Machine E) :
    (machine.push frame flow).flow ≠ .error (.stepLimitExceeded limit) := by
  unfold push
  split <;> exact nofun

theorem jump_ne_stepLimit (target : Address) (machine : Machine E) :
    (machine.jump target).flow ≠ .error (.stepLimitExceeded limit) := by
  unfold jump
  split <;> exact nofun

theorem jumpLink_ne_stepLimit (target : Address) (back : Pointer) (machine : Machine E) :
    (machine.jumpLink target back).flow ≠ .error (.stepLimitExceeded limit) := by
  unfold jumpLink
  split
  next => exact nofun
  next => exact push_ne_stepLimit limit _ _ machine

theorem whenHolds_ne_stepLimit {jump : Address → Machine E → Outcome E}
    (jumps : ∀ address, (jump address machine).flow ≠ .error (.stepLimitExceeded limit))
    (condition : Condition) (target : Except ReadFault Address) :
    (machine.whenHolds condition target jump).flow ≠ .error (.stepLimitExceeded limit) := by
  unfold whenHolds
  split
  next =>
    split
    next => exact nofun
    next address => exact jumps address
  next => exact nofun

theorem skipPast_ne_stepLimit (passedOver : Option Opcode → Bool) (following : Pointer)
    (machine : Machine E) :
    (machine.skipPast passedOver following).flow ≠ .error (.stepLimitExceeded limit) := by
  unfold skipPast
  split
  next => exact nofun
  next => split <;> exact nofun

theorem exec_ne_stepLimit (instruction : Instruction) (following : Pointer) :
    (machine.exec instruction following).flow ≠ .error (.stepLimitExceeded limit) := by
  by_cases onward : instruction.isOnward
  · exact onward_ne (onward_exec onward following machine)
  · cases instruction with
    | execute load entry =>
      simp only [exec]
      rcases machine.execute_cases load entry following with
        ⟨_, _, same⟩ | ⟨_, _, same⟩ | ⟨_, _, _, _, _, _, same⟩ | ⟨_, _, _, _, _, _, _, same⟩ <;>
        rw [same] <;> rintro ⟨⟩
    | exitAndExecute load entry =>
      simp only [exec]
      rcases machine.exitAndExecute_cases load entry with
        ⟨_, _, same⟩ | ⟨_, _, _, _, same⟩ | ⟨_, _, _, _, _, same⟩ <;> rw [same] <;> rintro ⟨⟩
    | exit =>
      simp only [exec]
      rcases machine.exit_cases with ⟨_, same⟩ | ⟨_, _, same⟩ | ⟨_, _, _, same⟩ <;> rw [same] <;>
        rintro ⟨⟩
    | jump target => exact jump_ne_stepLimit limit target machine
    | jumpLink target => exact jumpLink_ne_stepLimit limit target following machine
    | ret =>
      simp only [exec, ret]
      split <;> rintro ⟨⟩
    | loopBeginCount count => exact push_ne_stepLimit limit _ _ machine
    | loopBegin => exact push_ne_stepLimit limit _ _ machine
    | loopRepeat =>
      simp only [exec, loopRepeat]
      split
      next => rintro ⟨⟩
      next => split <;> rintro ⟨⟩
    | loopUntil condition =>
      simp only [exec, loopUntil]
      split
      next => rintro ⟨⟩
      next => split <;> rintro ⟨⟩
    | jumpIf condition target =>
      exact whenHolds_ne_stepLimit limit (jump_ne_stepLimit limit · machine) condition target
    | jumpLinkIf condition target =>
      exact whenHolds_ne_stepLimit limit (jumpLink_ne_stepLimit limit · following machine) condition
        target
    | skipIf condition =>
      simp only [exec, skipIf]
      split
      next => rintro ⟨⟩
      next => exact skipPast_ne_stepLimit limit _ following machine
    | skip => exact skipPast_ne_stepLimit limit _ following machine
    | placeObjectExt2 position angle behaviorArg modelToken behaviorToken acts =>
      simp only [exec, placeObjectExt2]
      split
      next => rintro ⟨⟩
      next =>
        split
        next => rintro ⟨⟩
        next => exact onward_ne (onward_attempt _)
    | _ => exact absurd rfl onward

end Unlimited

theorem step_ne_stepLimit [Patches E] (table : machine.dispatch = .canonical) (canonical : Bool)
    (cursor : Pointer) (limit : Nat) :
    (machine.step canonical cursor).1 ≠ .error (.stepLimitExceeded limit) := by
  intro failed
  unfold step at failed
  split at failed
  next => cases failed
  next bytes live =>
    split at failed
    next => cases failed
    next code found =>
      split at failed
      next => cases failed
      next handler called =>
        rw [handler?_of_canonical table] at called
        obtain ⟨opcode, _, rfl⟩ := Option.map_eq_some_iff.mp called
        split at failed
        next => cases failed
        next command decoded =>
          simp only [dispatchCommand] at failed
          cases read : Instruction.read opcode command with
          | error fault =>
            simp only [read, Machine.fault] at failed
            cases failed
          | ok instruction =>
            simp only [read] at failed
            split at failed
            next fault faulted =>
              cases failed
              exact exec_ne_stepLimit limit instruction command.next faulted
            next => cases failed

theorem selectTable_of_canonical (table : machine.dispatch = .canonical) :
    machine.selectTable = (false, machine) := by
  have whole : (DispatchTable.canonical : DispatchTable E.Patch).tampered = [] := by
    rw [DispatchTable.tampered, List.filter_eq_nil_iff]
    intro opcode _
    simp [DispatchTable.handler?_canonical, Opcode.ofCode?_code, Handler.isCanonicalFor]
  simp only [selectTable, table, whole]

theorem followOverrides_of_fixed {pointer : Pointer}
    (fixed : (machine.overrides.resolve pointer).pointer = pointer) :
    ∃ reporter, machine.followOverrides pointer =
      (pointer, { machine with activeOwner := machine.overrides.author pointer, reporter }) := by
  have author : machine.overrides.author pointer = (machine.overrides.resolve pointer).owner.or
      (machine.overrides.streamOwner (machine.overrides.resolve pointer).pointer.buffer) := rfl
  simp only [followOverrides, author, fixed]
  cases (machine.overrides.resolve pointer).owner with
  | none => exact ⟨_, rfl⟩
  | some owner =>
    simp only
    split <;> exact ⟨_, rfl⟩

end Machine

def Machine.Ending.withLedger {E : Embedding} (ledger : Ledger) (ending : Machine.Ending E) :
    Machine.Ending E :=
  ⟨ending.result, ending.cursor, ending.machine.withLedger ledger⟩

def Ledger.begun (ledger : Ledger) : Ledger :=
  { ledger with reporter := ledger.reporter.beginRun }

namespace Run

variable {E : Embedding}

def withLedger (ledger : Ledger) (run : Run E) : Run E :=
  ⟨run.canonical, run.cursor, run.machine.withLedger ledger⟩

/-- The overrides leave the run where it is, with the author that it has. -/
def Settled (run : Run E) : Prop :=
  (run.machine.overrides.resolve run.cursor).pointer = run.cursor ∧
    run.machine.overrides.author run.cursor = run.machine.activeOwner

theorem not_allows_iff {run : Run E} {taken : Nat} : ¬ run.Allows taken ↔
    run.machine.config.stepLimit ≠ 0 ∧ run.machine.config.stepLimit ≤ taken := by
  unfold Allows
  omega

theorem start_withLedger (pointer : Pointer) (machine : Machine E) :
    ∃ said, (start pointer machine).machine.ledger = machine.ledger.begun.told said ∧
      ∀ ledger, start pointer (machine.withLedger ledger) =
        (start pointer machine).withLedger (ledger.begun.told said) := by
  have begun ledger : (machine.withLedger ledger).begin = machine.begin.withLedger ledger.begun := rfl
  obtain ⟨first, selected⟩ := machine.begin.selectTable_withLedger
  obtain ⟨more, followed⟩ := machine.begin.selectTable.2.followOverrides_withLedger pointer
  have same ledger : start pointer (machine.withLedger ledger) =
      (start pointer machine).withLedger (ledger.begun.told (first ++ more)) := by
    simp only [start, begun, selected, Prod.map, followed, Ledger.told_append]
    rfl
  refine ⟨first ++ more, ?_, same⟩
  have itself := same machine.ledger
  rw [Machine.withLedger_ledger] at itself
  rw [itself]
  rfl

/-- A run that the overrides leave where it is goes on from there in another execution as it would
have gone on in the first one. -/
theorem start_of_settled {run : Run E} (table : run.machine.dispatch = .canonical)
    (plain : run.canonical = false)
    (running : run.machine.context.status = .running) (settled : run.Settled) (ledger : Ledger)
    (fault : Fault) :
    ∃ reporter, start run.cursor
        (Machine.finish ⟨.error fault, run.cursor, run.machine.withLedger ledger⟩).2 =
      run.withLedger ⟨ledger.stepLimit, some run.cursor, reporter⟩ := by
  obtain ⟨canonical, cursor, machine⟩ := run
  obtain ⟨fixed, author⟩ := settled
  simp only at table plain running fixed author
  let stopped := (Machine.finish ⟨.error fault, cursor, machine.withLedger ledger⟩).2
  have selected : stopped.begin.selectTable = (false, stopped.begin) :=
    Machine.selectTable_of_canonical table
  have context : stopped.begin.context = { machine.context with cursor := some cursor } := by
    change { machine.context with cursor := some cursor, status := .running } = _
    rw [← running]
  have author' : stopped.begin.overrides.author cursor = machine.activeOwner := author
  have fixed' : (stopped.begin.overrides.resolve cursor).pointer = cursor := fixed
  obtain ⟨reporter, followed⟩ := Machine.followOverrides_of_fixed fixed'
  rw [author'] at followed
  have resumed : start cursor stopped = ⟨false, cursor,
      { stopped.begin with activeOwner := machine.activeOwner, reporter }⟩ := by
    simp only [start, selected, followed]
  refine ⟨reporter, ?_⟩
  change start cursor stopped = _
  rw [resumed, plain]
  simp only [context]
  rfl

variable [Patches E] {first run next last : Run E} {taken more dispatched : Nat}
  {ending : Machine.Ending E}

theorem Step.config (table : run.machine.dispatch = .canonical) (step : run.Step next) :
    next.machine.config = run.machine.config := by
  rcases step.cases table with ⟨_, _, _, _, _, followed⟩ | ⟨_, paused⟩
  · rw [(Machine.sameExcept_of_followed followed).config, (Machine.exec_sameExcept ..).config]
  · rw [paused]
    rfl

/-- An execution dispatches so many commands until it ends. -/
inductive Lasts (first : Run E) : (dispatched : Nat) → Machine.Ending E → Prop where
  | waits {taken : Nat} {run : Run E} (arrives : first.Arrives taken run)
    (waits : run.machine.context.status ≠ .running) :
    Lasts first taken ⟨.ok run.cursor, run.cursor, run.machine⟩
  | stops {taken : Nat} {run : Run E} (arrives : first.Arrives taken run)
    (running : run.machine.context.status = .running) (spent : ¬ run.Allows taken) :
    Lasts first taken
      ⟨.error (.stepLimitExceeded run.machine.config.stepLimit), run.cursor, run.machine⟩
  | faults {taken : Nat} {run : Run E} {fault : Fault} {machine : Machine E}
    (arrives : first.Arrives taken run) (running : run.machine.context.status = .running)
    (allowed : run.Allows taken)
    (faulted : run.machine.step run.canonical run.cursor = (.error fault, machine)) :
    Lasts first (taken + 1) ⟨.error fault, run.cursor, machine⟩

theorem Arrives.canonical (arrives : first.Arrives taken run) : run.canonical = first.canonical := by
  induction arrives with
  | start => rfl
  | step _ _ step ih => rw [(step_iff.mp step).2.2, ih]

theorem Lasts.steps_eq (lasts : first.Lasts dispatched ending) {fuel : Nat}
    (enough : dispatched < fuel) :
    Machine.steps first.canonical fuel 0 first.cursor first.machine = some ending := by
  have fueled {taken : Nat} {run : Run E} (arrives : first.Arrives taken run)
      (enough : taken < fuel) :
      ∃ left, Machine.steps first.canonical fuel 0 first.cursor first.machine =
        Machine.steps run.canonical (left + 1) taken run.cursor run.machine := by
    refine ⟨fuel - taken - 1, ?_⟩
    rw [← arrives.steps_eq, show taken + (fuel - taken - 1 + 1) = fuel by omega]
  cases lasts with
  | waits arrives waits =>
    obtain ⟨left, same⟩ := fueled arrives enough
    rw [same, Machine.steps, if_pos waits]
  | stops arrives running spent =>
    obtain ⟨left, same⟩ := fueled arrives enough
    rw [same, Machine.steps, if_neg (Decidable.not_not.mpr running), if_pos (not_allows_iff.mp spent)]
  | faults arrives running allowed faulted =>
    obtain ⟨left, same⟩ := fueled arrives (Nat.lt_of_succ_lt enough)
    rw [same, Machine.steps, if_neg (Decidable.not_not.mpr running), if_neg allowed.not_limited, faulted]

theorem exists_lasts_of_steps {fuel : Nat} (arrives : first.Arrives taken run)
    (ran : Machine.steps run.canonical fuel taken run.cursor run.machine = some ending) :
    ∃ dispatched, first.Lasts dispatched ending := by
  induction fuel generalizing taken run with
  | zero => cases ran
  | succ fuel ih =>
    rw [Machine.steps] at ran
    split at ran
    next waits =>
      cases ran
      exact ⟨taken, .waits arrives waits⟩
    next running =>
      rw [Decidable.not_not] at running
      split at ran
      next spent =>
        cases ran
        exact ⟨taken, .stops arrives running (not_allows_iff.mpr spent)⟩
      next left =>
        have allowed : run.Allows taken := Decidable.not_not.mp (mt not_allows_iff.mp left)
        split at ran
        next fault machine faulted =>
          cases ran
          exact ⟨taken + 1, .faults arrives running allowed faulted⟩
        next target machine went =>
          have step : run.Step ⟨run.canonical, target, machine⟩ := step_iff.mpr ⟨running, went, rfl⟩
          exact ih (.step arrives allowed step) ran

theorem lasts_or_arrives (first : Run E) (count : Nat) :
    (∃ dispatched ≤ count, ∃ ending, first.Lasts dispatched ending) ∨
      ∃ run, first.Arrives count run := by
  induction count with
  | zero => exact .inr ⟨first, .start⟩
  | succ count ih =>
    rcases ih with ⟨dispatched, few, ending, lasts⟩ | ⟨run, arrives⟩
    · exact .inl ⟨dispatched, Nat.le_succ_of_le few, ending, lasts⟩
    · by_cases running : run.machine.context.status = .running
      · by_cases allowed : run.Allows count
        · cases stepped : run.machine.step run.canonical run.cursor with
          | mk result machine =>
            cases result with
            | error fault =>
              exact .inl ⟨count + 1, Nat.le_refl _, _, .faults arrives running allowed stepped⟩
            | ok target =>
              have step : run.Step ⟨run.canonical, target, machine⟩ :=
                step_iff.mpr ⟨running, stepped, rfl⟩
              exact .inr ⟨_, .step arrives allowed step⟩
        · exact .inl ⟨count, Nat.le_succ count, _, .stops arrives running allowed⟩
      · exact .inl ⟨count, Nat.le_succ count, _, .waits arrives running⟩

theorem Arrives.running (arrives : first.Arrives taken run)
    (running : run.machine.context.status = .running) :
    first.machine.context.status = .running := by
  induction arrives with
  | start => exact running
  | step _ _ step ih => exact ih (step_iff.mp step).1

section Canonical

variable (table : first.machine.dispatch = .canonical)
include table

theorem Arrives.dispatch (arrives : first.Arrives taken run) : run.machine.dispatch = .canonical := by
  induction arrives with
  | start => exact table
  | step _ _ step ih => exact step.dispatch ih

theorem Arrives.config (arrives : first.Arrives taken run) :
    run.machine.config = first.machine.config := by
  induction arrives with
  | start => rfl
  | step arrives _ step ih => rw [step.config (arrives.dispatch table), ih]

theorem Lasts.le_stepLimit (limited : first.machine.config.stepLimit ≠ 0)
    (lasts : first.Lasts dispatched ending) : dispatched ≤ first.machine.config.stepLimit := by
  have allows {taken : Nat} {run : Run E} (arrives : first.Arrives taken run)
      (allowed : run.Allows taken) : taken < first.machine.config.stepLimit := by
    unfold Allows at allowed
    rw [arrives.config table] at allowed
    omega
  have reached {taken : Nat} {run : Run E} (arrives : first.Arrives taken run) :
      taken ≤ first.machine.config.stepLimit := by
    cases arrives with
    | start => exact Nat.zero_le _
    | step before allowed _ => exact allows before allowed
  cases lasts with
  | waits arrives => exact reached arrives
  | stops arrives => exact reached arrives
  | faults arrives _ allowed => exact allows arrives allowed

theorem exists_lasts (limited : first.machine.config.stepLimit ≠ 0) :
    ∃ dispatched ending, first.Lasts dispatched ending := by
  rcases first.lasts_or_arrives first.machine.config.stepLimit with
    ⟨dispatched, _, ending, lasts⟩ | ⟨run, arrives⟩
  · exact ⟨dispatched, ending, lasts⟩
  · by_cases running : run.machine.context.status = .running
    · refine ⟨_, _, .stops arrives running ?_⟩
      rw [not_allows_iff, arrives.config table]
      exact ⟨limited, Nat.le_refl _⟩
    · exact ⟨_, _, .waits arrives running⟩

theorem Arrives.withLedger (arrives : first.Arrives taken run) :
    ∃ said, run.machine.ledger = first.machine.ledger.told said ∧
      ∀ ledger, ledger.stepLimit = 0 ∨ taken ≤ ledger.stepLimit →
        (first.withLedger ledger).Arrives taken (run.withLedger (ledger.told said)) := by
  induction arrives with
  | start => exact ⟨[], rfl, fun ledger _ => .start⟩
  | @step taken run next arrives _ step ih =>
    obtain ⟨said, own, same⟩ := ih
    obtain ⟨running, went, canonical⟩ := step_iff.mp step
    obtain ⟨more, added, alike⟩ :=
      Machine.step_withLedger (arrives.dispatch table) run.canonical run.cursor
    rw [went] at added alike
    refine ⟨said ++ more, ?_, fun ledger lasting => ?_⟩
    · rw [added, own, Ledger.told_append]
    · have before := same ledger (by omega)
      have allowed : (run.withLedger (ledger.told said)).Allows taken := by
        change ledger.stepLimit = 0 ∨ taken < ledger.stepLimit
        omega
      refine .step before allowed (step_iff.mpr ⟨running, ?_, canonical⟩)
      rw [Ledger.told_append]
      exact alike (ledger.told said)

theorem Lasts.withLedger (unlimited : first.machine.config.stepLimit = 0)
    (lasts : first.Lasts dispatched ending) :
    ∃ said, ending.machine.ledger = first.machine.ledger.told said ∧
      ∀ ledger, ledger.stepLimit = 0 ∨ dispatched ≤ ledger.stepLimit →
        (first.withLedger ledger).Lasts dispatched (ending.withLedger (ledger.told said)) := by
  cases lasts with
  | waits arrives waits =>
    obtain ⟨said, own, same⟩ := arrives.withLedger table
    exact ⟨said, own, fun ledger lasting => .waits (same ledger lasting) waits⟩
  | stops arrives _ spent =>
    rw [not_allows_iff, arrives.config table] at spent
    exact absurd unlimited spent.1
  | @faults taken run fault machine arrives running _ faulted =>
    obtain ⟨said, own, same⟩ := arrives.withLedger table
    obtain ⟨more, added, alike⟩ :=
      Machine.step_withLedger (arrives.dispatch table) run.canonical run.cursor
    rw [faulted] at added alike
    refine ⟨said ++ more, ?_, fun ledger lasting => ?_⟩
    · rw [added, own, Ledger.told_append]
    · have before := same ledger (by omega)
      have allowed : (run.withLedger (ledger.told said)).Allows taken := by
        change ledger.stepLimit = 0 ∨ taken < ledger.stepLimit
        omega
      have ended := Lasts.faults before running allowed (alike (ledger.told said))
      rw [Ledger.told_append]
      exact ended

end Canonical

theorem execute?_eq (fuel : Nat) (pointer : Pointer) (machine : Machine E) :
    machine.execute? fuel pointer =
      (Machine.steps (start pointer machine).canonical fuel 0 (start pointer machine).cursor
        (start pointer machine).machine).map Machine.finish :=
  rfl

theorem execute?_of_lasts {pointer : Pointer} {machine : Machine E}
    (lasts : (start pointer machine).Lasts dispatched ending) {fuel : Nat}
    (enough : dispatched < fuel) :
    machine.execute? fuel pointer = some (Machine.finish ending) := by
  rw [execute?_eq, lasts.steps_eq enough]
  rfl

theorem exists_lasts_of_execute? {fuel : Nat} {pointer : Pointer} {machine after : Machine E}
    {result : Except Fault Pointer} (ran : machine.execute? fuel pointer = some (result, after)) :
    ∃ dispatched ending, (start pointer machine).Lasts dispatched ending ∧
      Machine.finish ending = (result, after) := by
  rw [execute?_eq] at ran
  obtain ⟨ending, stepped, finished⟩ := Option.map_eq_some_iff.mp ran
  obtain ⟨dispatched, lasts⟩ := exists_lasts_of_steps .start stepped
  exact ⟨dispatched, ending, lasts, finished⟩

theorem run_of_lasts {pointer : Pointer} {machine : Machine E}
    (table : machine.dispatch = .canonical) (limited : machine.config.stepLimit ≠ 0)
    (lasts : (start pointer machine).Lasts dispatched ending) :
    machine.run pointer = Machine.finish ending := by
  have same := start_sameExcept pointer machine
  have bound := lasts.le_stepLimit (same.dispatch.trans table) (by rwa [same.config])
  rw [same.config] at bound
  have enough : dispatched < machine.enoughFuel := by
    rw [Machine.enoughFuel, if_neg limited]
    omega
  rw [Machine.run, execute?_of_lasts lasts enough]
  rfl

section Unlimited

variable (table : first.machine.dispatch = .canonical)
  (unlimited : first.machine.config.stepLimit = 0)
include table unlimited

theorem Arrives.trans (arrives : first.Arrives taken run) (further : run.Arrives more last) :
    first.Arrives (taken + more) last := by
  induction further with
  | start => exact arrives
  | step before _ step ih =>
    exact .step ih (.inl (by rw [ih.config table, unlimited])) step

theorem Arrives.split (arrives : first.Arrives taken last) {earlier : Nat} (sooner : earlier ≤ taken) :
    ∃ run, first.Arrives earlier run ∧ run.Arrives (taken - earlier) last := by
  induction arrives with
  | start =>
    obtain rfl : earlier = 0 := by omega
    exact ⟨first, .start, .start⟩
  | @step taken run next arrives allowed step ih =>
    by_cases all : earlier = taken + 1
    · subst all
      rw [Nat.sub_self]
      exact ⟨next, .step arrives allowed step, .start⟩
    · obtain ⟨before, came, goes⟩ := ih (by omega)
      refine ⟨before, came, ?_⟩
      rw [show taken + 1 - earlier = taken - earlier + 1 by omega]
      exact .step goes (.inl (by rw [arrives.config table, unlimited])) step

theorem Lasts.split (lasts : first.Lasts dispatched ending) {earlier : Nat}
    (sooner : earlier < dispatched) :
    ∃ run, first.Arrives earlier run ∧ run.machine.context.status = .running ∧
      run.Lasts (dispatched - earlier) ending := by
  have always {taken : Nat} {run : Run E} (arrives : first.Arrives taken run) (count : Nat) :
      run.Allows count :=
    .inl (by rw [arrives.config table, unlimited])
  cases lasts with
  | waits arrives waits =>
    cases arrives with
    | start => cases sooner
    | @step taken before last arrives _ step =>
      obtain ⟨run, came, goes⟩ := arrives.split table unlimited (Nat.le_of_lt_succ sooner)
      refine ⟨run, came, goes.running (step_iff.mp step).1, ?_⟩
      rw [Nat.succ_sub (Nat.le_of_lt_succ sooner)]
      exact .waits (.step goes (always arrives _) step) waits
  | stops arrives _ spent => exact absurd (always arrives _) spent
  | @faults taken last fault machine arrives running _ faulted =>
    obtain ⟨run, came, goes⟩ := arrives.split table unlimited (Nat.le_of_lt_succ sooner)
    refine ⟨run, came, goes.running running, ?_⟩
    rw [Nat.succ_sub (Nat.le_of_lt_succ sooner)]
    exact .faults goes running (always arrives _) faulted

theorem Lasts.ne_stepLimit (lasts : first.Lasts dispatched ending) (limit : Nat) :
    ending.result ≠ .error (.stepLimitExceeded limit) := by
  cases lasts with
  | waits => exact nofun
  | stops arrives _ spent =>
    rw [not_allows_iff, arrives.config table] at spent
    exact absurd unlimited spent.1
  | @faults taken last fault machine arrives _ _ faulted =>
    have other := Machine.step_ne_stepLimit (arrives.dispatch table) last.canonical last.cursor limit
    rwa [faulted] at other

end Unlimited

/-- Whenever so many further steps have been taken and the run goes on, the overrides leave it where
it is. -/
def SettledEvery (limit : Nat) (first : Run E) : Prop :=
  ∀ rounds run, 0 < rounds → first.Arrives (rounds * limit) run →
    run.machine.context.status = .running → run.Settled

/-- Executions under a step limit, each resumed where the one before has stopped, come to the end of the
execution that is never stopped. -/
theorem resumed?_of_lasts {limit : Nat} (positive : 0 < limit) {pointer : Pointer}
    {machine : Machine E} {ledger : Ledger} (table : first.machine.dispatch = .canonical)
    (plain : first.canonical = false) (unlimited : first.machine.config.stepLimit = 0)
    (settled : first.SettledEvery limit) (lasts : first.Lasts dispatched ending)
    (started : start pointer machine = first.withLedger ledger) (limited : ledger.stepLimit = limit) :
    ∃ times reporter, machine.resumed? times pointer = some (ending.result,
      (Machine.finish ending).2.withLedger ⟨limit, some ending.cursor, reporter⟩) := by
  induction dispatched using Nat.strongRecOn generalizing first pointer machine ledger with
  | ind dispatched ih =>
    have same := start_sameExcept pointer machine
    rw [started] at same
    have table' : machine.dispatch = .canonical := same.dispatch.symm.trans table
    have limited' : machine.config.stepLimit = limit := by
      rw [← same.config]
      exact limited
    have ran {dispatched : Nat} {ending : Machine.Ending E}
        (lasts : (first.withLedger ledger).Lasts dispatched ending) :
        machine.run pointer = Machine.finish ending := by
      rw [← started] at lasts
      exact run_of_lasts table' (by omega) lasts
    by_cases enough : dispatched ≤ limit
    · obtain ⟨said, _, alike⟩ := lasts.withLedger table unlimited
      have ended := ran (alike ledger (.inr (by rwa [limited])))
      refine ⟨1, ((ledger.told said).reporter).finishRun, ?_⟩
      have own := lasts.ne_stepLimit table unlimited
      rw [Machine.resumed?_of_ended ended own, ← limited]
      rfl
    · obtain ⟨run, came, running, rest⟩ := lasts.split table unlimited (Nat.lt_of_not_le enough)
      obtain ⟨said, _, alike⟩ := came.withLedger table
      have arrives := alike ledger (.inr (Nat.le_of_eq limited.symm))
      have spent : ¬ (run.withLedger (ledger.told said)).Allows limit := by
        rw [not_allows_iff]
        change ledger.stepLimit ≠ 0 ∧ ledger.stepLimit ≤ limit
        omega
      have stopped := ran (.stops arrives running spent)
      have now : run.Settled := settled 1 run Nat.one_pos (by rwa [Nat.one_mul]) running
      obtain ⟨reporter, restarted⟩ := start_of_settled (came.dispatch table)
        (came.canonical.trans plain) running now (ledger.told said) (.stepLimitExceeded _)
      have later : run.SettledEvery limit := by
        intro rounds next many goes stays
        have further := came.trans table unlimited goes
        rw [Nat.add_comm, ← Nat.succ_mul] at further
        exact settled (rounds + 1) next (Nat.succ_pos rounds) further stays
      obtain ⟨times, reporter, resumed⟩ := ih (dispatched - limit) (by omega)
        (came.dispatch table) (came.canonical.trans plain) (by rw [came.config table, unlimited]) later
        rest restarted limited
      exact ⟨times + 1, reporter, (Machine.resumed?_of_stopped stopped rfl).trans resumed⟩

theorem exists_lasts_within {machine : Machine E} (table : machine.dispatch = .canonical)
    (limited : machine.config.stepLimit ≠ 0) (pointer : Pointer) :
    ∃ dispatched ≤ machine.config.stepLimit, ∃ ending,
      (start pointer machine).Lasts dispatched ending ∧
        machine.run pointer = Machine.finish ending := by
  have same := start_sameExcept pointer machine
  have table' := same.dispatch.trans table
  have limited' : (start pointer machine).machine.config.stepLimit ≠ 0 := by rwa [same.config]
  obtain ⟨dispatched, ending, lasts⟩ := exists_lasts table' limited'
  have few := lasts.le_stepLimit table' limited'
  rw [same.config] at few
  exact ⟨dispatched, few, ending, lasts, run_of_lasts table limited lasts⟩

theorem settled_of_no_overrides {target : Pointer} (led : run.Led target)
    (none : run.machine.overrides.overrides = []) : run.Settled := by
  have everywhere (pointer : Pointer) : run.machine.overrides.resolve pointer = ⟨pointer, .none⟩ ∧
      run.machine.overrides.author pointer = .none := by
    simp [Registry.author, Registry.resolve, Registry.streamOwner, none]
  obtain ⟨_, owner⟩ := led.followed
  refine ⟨?_, ?_⟩
  · rw [(everywhere run.cursor).1]
  · rw [owner, (everywhere run.cursor).2, (everywhere target).2]

theorem exists_led_of_arrives {pointer : Pointer} {machine : Machine E}
    (arrives : (start pointer machine).Arrives taken run) : ∃ target, run.Led target := by
  induction arrives with
  | start => exact ⟨pointer, .start machine⟩
  | step _ _ step ih =>
    obtain ⟨_, led⟩ := ih
    have move : Moves (fun _ _ => False) _ _ := .inl step
    exact led.moves move

/-- An execution under a step limit dispatches no more commands than that, and gives the result and the
machine of the execution without one if that takes no longer. If it does, executions under the limit,
each resumed at the cursor where the one before has stopped, come to the same result and, but for
what they have reported, to the same machine, when the overrides that have been registered by then
leave each cursor and its author where they are. They do so as long as there are none. -/
theorem stepLimit_losesNothing {machine : Machine E} (table : machine.dispatch = .canonical)
    {limit : Nat} (positive : 0 < limit) (pointer : Pointer) :
    let limited := machine.limitedTo limit
    let unlimited := machine.limitedTo 0
    (∃ dispatched ≤ limit, ∃ ending, (start pointer limited).Lasts dispatched ending ∧
      limited.run pointer = Machine.finish ending) ∧
    (∀ dispatched ≤ limit, ∀ ending, (start pointer unlimited).Lasts dispatched ending →
      (∀ fuel, dispatched < fuel →
        unlimited.execute? fuel pointer = some (Machine.finish ending)) ∧
      limited.run pointer = Prod.map id (Machine.limitedTo limit) (Machine.finish ending)) ∧
    (∀ fuel result after, unlimited.execute? fuel pointer = some (result, after) →
      (start pointer unlimited).SettledEvery limit →
      ∃ times resumed, limited.resumed? times pointer = some (result, resumed) ∧
        (after.limitedTo limit).SameExcept [.reporter] resumed) ∧
    ∀ taken run, (start pointer unlimited).Arrives taken run → run.machine.overrides.overrides = [] →
      run.Settled := by
  intro limited unlimited
  have limitedTable : limited.dispatch = .canonical := table
  have unlimitedTable : unlimited.dispatch = .canonical := table
  have same := start_sameExcept pointer unlimited
  have table' := same.dispatch.trans unlimitedTable
  have free : (start pointer unlimited).machine.config.stepLimit = 0 := by
    rw [same.config]
    rfl
  have plain : (start pointer unlimited).canonical = false := by
    have selected : unlimited.begin.selectTable = (false, unlimited.begin) :=
      Machine.selectTable_of_canonical table
    simp only [start, selected]
  obtain ⟨said, own, alike⟩ := start_withLedger pointer unlimited
  have started : start pointer limited =
      (start pointer unlimited).withLedger (limited.ledger.begun.told said) := alike limited.ledger
  have bounded : limited.config.stepLimit ≠ 0 := Nat.ne_of_gt positive
  refine ⟨exists_lasts_within limitedTable bounded pointer, ?_, ?_, ?_⟩
  · intro dispatched few ending lasts
    obtain ⟨more, ended, alike'⟩ := lasts.withLedger table' free
    have pieces := alike' (limited.ledger.begun.told said) (.inr few)
    rw [← started] at pieces
    have ledger : (limited.ledger.begun.told said).told more =
        { ending.machine.ledger with stepLimit := limit } := by
      rw [ended, own]
      rfl
    refine ⟨fun fuel enough => execute?_of_lasts lasts enough, ?_⟩
    rw [run_of_lasts limitedTable bounded pieces, ledger]
    rfl
  · intro fuel result after executed settled
    obtain ⟨dispatched, ending, lasts, finished⟩ := exists_lasts_of_execute? executed
    obtain ⟨times, reporter, resumed⟩ :=
      resumed?_of_lasts positive table' plain free settled lasts started rfl
    obtain rfl : ending.result = result := congrArg Prod.fst finished
    obtain rfl : (Machine.finish ending).2 = after := congrArg Prod.snd finished
    refine ⟨times, _, resumed, ?_⟩
    constructor <;> simp [Machine.finish, Machine.withLedger, Machine.limitedTo]
  · intro taken run arrives none
    obtain ⟨_, led⟩ := exists_led_of_arrives arrives
    exact settled_of_no_overrides led none

/-- Calls a host function three times. -/
def tallyingScript : Bytes := #[
  0x08, 4, 3, 0,
  0x11, 8, 0, 0, 5, 0, 0, 0,
  0x09, 4, 0, 0,
  0x02, 4, 0, 0]

def tallying : Machine Scripted.embedding :=
  (ofScript #[] tallyingScript).machine.registerHost 5 (.callback (.add 2))

/-- All three calls are made with two commands to an execution, too. -/
theorem stepLimit_losesNothing_tallying :
    ∃ after, (tallying.limitedTo 0).execute? 9 ⟨0, 0⟩ = some (.ok ⟨0, 16⟩, after) ∧
      after.context.register = 6 ∧
      ∃ times resumed, (tallying.limitedTo 2).resumed? times ⟨0, 0⟩ = some (.ok ⟨0, 16⟩, resumed) ∧
        (after.limitedTo 2).SameExcept [.reporter] resumed := by
  have table : tallying.dispatch = .canonical := dispatch_ofScript #[] tallyingScript
  have hosts : tallying.HostsBlind :=
    (hostsBlind_ofScript #[] tallyingScript).of_insert rfl (blind_callback (.add 2))
  have blind : (tallying.limitedTo 0).Blind fun _ => True :=
    ⟨hosts.of_hosts rfl, fun _ handler _ => by cases handler <;> trivial⟩
  have bare : (tallying.limitedTo 0).overrides.overrides = [] := by decide +kernel
  obtain ⟨-, -, pieces, settles⟩ := stepLimit_losesNothing table Nat.two_pos ⟨0, 0⟩
  have settled : (start ⟨0, 0⟩ (tallying.limitedTo 0)).SettledEvery 2 := by
    intro rounds run _ arrives _
    have under := blindUnder_of_steps patchesBlind_scripted (start_blindUnder blind) arrives.steps
    exact settles _ run arrives (by rw [under.overrides, bare])
  let ended := ((tallying.limitedTo 0).execute? 9 ⟨0, 0⟩).get (by decide +kernel)
  have executed : (tallying.limitedTo 0).execute? 9 ⟨0, 0⟩ = some (.ok ⟨0, 16⟩, ended.2) := by
    have result : ended.1 = .ok ⟨0, 16⟩ := by decide +kernel
    rw [← result]
    exact (Option.some_get _).symm
  exact ⟨ended.2, executed, by decide +kernel, pieces 9 _ _ executed settled⟩

/-- Calls two host functions, then a third from behind an overridden command. -/
def handedOver : Machine Scripted.embedding :=
  (((ofScript #[] #[
    0x11, 8, 0, 0, 5, 0, 0, 0,
    0x11, 8, 0, 0, 6, 0, 0, 0,
    0x30, 4, 0, 0,
    0x02, 4, 0, 0,
    0x11, 8, 0, 0, 7, 0, 0, 0,
    0x02, 4, 0, 0]).machine.registerHost 5 (.override ⟨⟨0, 20⟩, ⟨0, 24⟩, 1⟩)).registerHost 6
      (.override ⟨⟨0, 16⟩, ⟨0, 24⟩, 2⟩)).registerHost 7 .owner

/-- Host functions may register overrides of two owners that lead to the same command. The execution that
is not stopped has come there by way of the later one; an execution that is resumed there by way of the
first, so that the command belongs to somebody else. -/
theorem resumed_forAnotherOwner :
    handedOver.dispatch = .canonical ∧ handedOver.overrides.overrides = [] ∧
      ∃ after resumed, (handedOver.limitedTo 0).execute? 9 ⟨0, 0⟩ = some (.ok ⟨0, 32⟩, after) ∧
        (handedOver.limitedTo 2).resumed? 2 ⟨0, 0⟩ = some (.ok ⟨0, 32⟩, resumed) ∧
        after.context.register = 2 ∧ resumed.context.register = 1 := by
  let ended := ((handedOver.limitedTo 0).execute? 9 ⟨0, 0⟩).get (by decide +kernel)
  let pieces := ((handedOver.limitedTo 2).resumed? 2 ⟨0, 0⟩).get (by decide +kernel)
  refine ⟨dispatch_ofScript _ _, by decide +kernel, ended.2, pieces.2, ?_, ?_, ?_, ?_⟩
  · have result : ended.1 = .ok ⟨0, 32⟩ := by decide +kernel
    rw [← result]
    exact (Option.some_get _).symm
  · have result : pieces.1 = .ok ⟨0, 32⟩ := by decide +kernel
    rw [← result]
    exact (Option.some_get _).symm
  · decide +kernel
  · decide +kernel

end Run

end StageScript
