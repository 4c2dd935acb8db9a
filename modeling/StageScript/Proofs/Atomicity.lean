import StageScript.Proofs.Interior
import StageScript.Proofs.Refusal

/-!
Faults are atomic. A command that faults has changed nothing, unless it was to open or to replace
a scope; then it has changed the memory and reported what it came across, and nothing else. The
execution that it ends answers the fault, pauses, and stands at the command.
-/

namespace StageScript

namespace Machine

variable {E : Embedding} {machine : Machine E}

/-- If the outcome of a command is a fault, it leaves the machine as it was. -/
def Atomic (machine : Machine E) (outcome : Outcome E) : Prop :=
  ∀ fault, outcome.flow = .error fault → outcome.machine = machine

theorem atomic_of_ok {outcome : Outcome E} {flow : Flow} (went : outcome.flow = .ok flow) :
    machine.Atomic outcome := by
  intro fault failed
  rw [went] at failed
  cases failed

theorem atomic_of_onward {outcome : Outcome E} (onward : outcome.Onward) :
    machine.Atomic outcome := by
  rcases onward with went | stayed
  · exact atomic_of_ok went
  · exact atomic_of_ok stayed

theorem atomic_fault (fault : Fault) : machine.Atomic (machine.fault fault) :=
  fun _ _ => rfl

theorem atomic_push (frame : Frame) (flow : Flow) : machine.Atomic (machine.push frame flow) := by
  unfold push
  split
  next => exact atomic_fault _
  next => exact atomic_of_ok rfl

theorem atomic_jump (target : Address) : machine.Atomic (machine.jump target) := by
  unfold jump
  split
  next => exact atomic_fault _
  next => exact atomic_of_ok rfl

theorem atomic_jumpLink (target : Address) (back : Pointer) :
    machine.Atomic (machine.jumpLink target back) := by
  unfold jumpLink
  split
  next => exact atomic_fault _
  next => exact atomic_push _ _

theorem atomic_whenHolds (condition : Condition) (target : Except ReadFault Address)
    {jump : Address → Machine E → Outcome E}
    (atomic : ∀ address, machine.Atomic (jump address machine)) :
    machine.Atomic (machine.whenHolds condition target jump) := by
  unfold whenHolds
  split
  next =>
    split
    next => exact atomic_fault _
    next address => exact atomic address
  next => exact atomic_of_ok rfl

theorem atomic_ret : machine.Atomic machine.ret := by
  unfold ret
  split
  next => exact atomic_fault _
  next => exact atomic_of_ok rfl

theorem atomic_loopRepeat : machine.Atomic machine.loopRepeat := by
  unfold loopRepeat
  split
  next => exact atomic_fault _
  next => simp only; split <;> exact atomic_of_ok rfl

theorem atomic_loopUntil (condition : Condition) : machine.Atomic (machine.loopUntil condition) := by
  unfold loopUntil
  split
  next => exact atomic_fault _
  next => split <;> exact atomic_of_ok rfl

theorem atomic_skipPast (passedOver : Option Opcode → Bool) (following : Pointer) :
    machine.Atomic (machine.skipPast passedOver following) := by
  unfold skipPast
  split
  next => exact atomic_fault _
  next =>
    split
    next => exact atomic_fault _
    next => exact atomic_of_ok rfl

theorem atomic_skipIf (condition : Condition) (following : Pointer) :
    machine.Atomic (machine.skipIf condition following) := by
  unfold skipIf
  split
  next => exact atomic_of_ok rfl
  next => exact atomic_skipPast _ _

theorem atomic_exit : machine.Atomic machine.exit := by
  rcases machine.exit_cases with ⟨_, same⟩ | ⟨_, _, same⟩ | ⟨_, _, _, same⟩ <;> rw [same]
  · exact atomic_of_ok rfl
  · exact atomic_fault _
  · exact atomic_of_ok rfl

theorem atomic_placeObjectExt2 (position angle : Vec3) (behaviorArg modelToken : UInt32)
    (behaviorToken : Except ReadFault UInt32) (acts : UInt8) :
    machine.Atomic
      (machine.placeObjectExt2 position angle behaviorArg modelToken behaviorToken acts) := by
  unfold placeObjectExt2
  split
  next => exact atomic_of_ok rfl
  next =>
    split
    next => exact atomic_fault _
    next => exact atomic_of_onward (onward_attempt _)

/-- Only commands that open or replace scopes can fault with something changed. -/
theorem atomic_exec {instruction : Instruction} (plain : ¬ instruction.opensScope)
    (following : Pointer) : machine.Atomic (machine.exec instruction following) := by
  cases instruction with
  | execute => exact absurd rfl plain
  | exitAndExecute => exact absurd rfl plain
  | exit => exact atomic_exit
  | jump target => exact atomic_jump target
  | jumpLink target => exact atomic_jumpLink target following
  | ret => exact atomic_ret
  | loopBeginCount => exact atomic_push _ _
  | loopRepeat => exact atomic_loopRepeat
  | loopBegin => exact atomic_push _ _
  | loopUntil condition => exact atomic_loopUntil condition
  | jumpIf condition target => exact atomic_whenHolds condition target atomic_jump
  | jumpLinkIf condition target =>
    exact atomic_whenHolds condition target fun address => atomic_jumpLink address following
  | skipIf condition => exact atomic_skipIf condition following
  | skip => exact atomic_skipPast _ following
  | placeObjectExt2 position angle behaviorArg modelToken behaviorToken acts =>
    exact atomic_placeObjectExt2 position angle behaviorArg modelToken behaviorToken acts
  | _ => exact atomic_of_onward (onward_exec rfl following machine)

theorem execute_fault_sameExcept {load : SegmentLoad} {entry : Address} {following : Pointer}
    {fault : Fault} (failed : (machine.execute load entry following).flow = .error fault) :
    machine.SameExcept [.memory, .reporter] (machine.execute load entry following).machine := by
  rcases machine.execute_cases load entry following with
    ⟨_, _, same⟩ | ⟨_, _, same⟩ | ⟨_, _, _, _, _, _, same⟩ | ⟨_, _, _, _, _, _, _, same⟩ <;>
    rw [same] at failed ⊢
  · exact .refl _ _
  · cases failed
  · constructor <;> simp [Machine.fault]
  · cases failed

theorem exitAndExecute_fault_sameExcept {load : SegmentLoad} {entry : Address} {fault : Fault}
    (failed : (machine.exitAndExecute load entry).flow = .error fault) :
    machine.SameExcept [.memory, .reporter] (machine.exitAndExecute load entry).machine := by
  have replaced : machine.SameExcept [.memory, .reporter]
      (machine.replaceCheckpoint .exitAndExecute) :=
    (machine.replaceCheckpoint_sameExcept .exitAndExecute).mono (by simp)
  rcases machine.exitAndExecute_cases load entry with
    ⟨_, _, same⟩ | ⟨_, _, _, _, same⟩ | ⟨_, _, _, _, _, same⟩ <;> rw [same] at failed ⊢
  · cases failed
  · exact replaced.trans (by constructor <;> simp [Machine.fault])
  · cases failed

theorem exec_fault_sameExcept {instruction : Instruction} {following : Pointer} {fault : Fault}
    (failed : (machine.exec instruction following).flow = .error fault) :
    machine.SameExcept [.memory, .reporter] (machine.exec instruction following).machine := by
  by_cases opens : instruction.opensScope
  · cases instruction with
    | execute => exact execute_fault_sameExcept failed
    | exitAndExecute => exact exitAndExecute_fault_sameExcept failed
    | _ => cases opens
  · rw [atomic_exec opens following fault failed]
    exact .refl _ _

theorem dispatchCommand_fault_sameExcept [Patches E] {opcode : Opcode} {command : Command}
    {fault : Fault}
    (failed : (machine.dispatchCommand (.canonical opcode) command).flow = .error fault) :
    machine.SameExcept [.memory, .reporter]
      (machine.dispatchCommand (.canonical opcode) command).machine := by
  simp only [dispatchCommand] at failed ⊢
  cases read : Instruction.read opcode command with
  | error => exact .refl _ _
  | ok instruction =>
    rw [read] at failed
    exact exec_fault_sameExcept failed

end Machine

namespace Run

variable {E : Embedding}

def Allows (run : Run E) (taken : Nat) : Prop :=
  run.machine.config.stepLimit = 0 ∨ taken < run.machine.config.stepLimit

theorem Allows.not_limited {run : Run E} {taken : Nat} (allowed : run.Allows taken) :
    ¬ (run.machine.config.stepLimit ≠ 0 ∧ run.machine.config.stepLimit ≤ taken) := by
  rintro ⟨limited, spent⟩
  rcases allowed with free | left
  · exact limited free
  · omega

variable [Patches E] {first run last : Run E}

/-- An execution comes from its first run to another one in so many steps. -/
inductive Arrives (first : Run E) : Nat → Run E → Prop where
  | start : Arrives first 0 first
  | step {taken : Nat} {run next : Run E} (arrives : Arrives first taken run)
    (allowed : run.Allows taken) (step : run.Step next) : Arrives first (taken + 1) next

/-- The next step of an execution hands a command to the canonical handler of an opcode. -/
structure Hands (run : Run E) (taken : Nat) (opcode : Opcode) (command : Command) : Prop where
  running : run.machine.context.status = .running
  allowed : run.Allows taken
  decoded : ∃ bytes, run.machine.memory.buffer? run.cursor.buffer = some bytes ∧
    Command.decode run.machine.config.layout bytes run.cursor = .ok command
  handler : run.machine.handler? run.canonical command.code = some (.canonical opcode)

theorem Arrives.steps_eq {taken : Nat} (arrives : first.Arrives taken last) (fuel : Nat) :
    Machine.steps first.canonical (taken + fuel) 0 first.cursor first.machine =
      Machine.steps last.canonical fuel taken last.cursor last.machine := by
  induction arrives generalizing fuel with
  | start => rw [Nat.zero_add]
  | step _ allowed step ih =>
    obtain ⟨running, stepped, canonical⟩ := step_iff.mp step
    rw [Nat.add_assoc, Nat.add_comm 1, ih (fuel + 1), Machine.steps, if_neg (by simp [running]),
      if_neg allowed.not_limited, stepped, canonical]

theorem Hands.step_of_fault {taken : Nat} {opcode : Opcode} {command : Command} {fault : Fault}
    (hands : run.Hands taken opcode command)
    (failed : (run.machine.dispatchCommand (.canonical opcode) command).flow = .error fault) :
    run.machine.step run.canonical run.cursor =
      (.error fault, (run.machine.dispatchCommand (.canonical opcode) command).machine) := by
  obtain ⟨bytes, live, decoded⟩ := hands.decoded
  have dispatched := Machine.dispatched?_eq_some.mpr ⟨bytes, live, decoded, hands.handler⟩
  rw [Machine.step_of_dispatched dispatched]
  exact Machine.settle_eq_error.mpr ⟨failed, rfl⟩

/-- A command that faults changes nothing outside the memory, apart from what it has reported. The
execution in which it does so answers its fault, pauses, and stands at the command. -/
theorem fault_isAtomic {machine : Machine E} {opcode : Opcode} {command : Command} {fault : Fault}
    (failed : (machine.dispatchCommand (.canonical opcode) command).flow = .error fault) :
    machine.SameExcept [.memory, .reporter]
        (machine.dispatchCommand (.canonical opcode) command).machine ∧
      ∀ (origin : Machine E) (begins : Pointer) (taken fuel : Nat) (canonical : Bool),
        (start begins origin).Arrives taken ⟨canonical, command.pointer, machine⟩ →
        Hands ⟨canonical, command.pointer, machine⟩ taken opcode command → taken < fuel →
        ∃ after, origin.execute? fuel begins = some (.error fault, after) ∧
          machine.SameExcept [.context, .memory, .reporter] after ∧
          after.context =
            { machine.context with cursor := some command.pointer, status := .paused } := by
  have same := Machine.dispatchCommand_fault_sameExcept failed
  refine ⟨same, ?_⟩
  intro origin begins taken fuel canonical arrives hands enough
  let ending : Machine.Ending E :=
    ⟨.error fault, command.pointer, (machine.dispatchCommand (.canonical opcode) command).machine⟩
  obtain ⟨spare, rfl⟩ : ∃ spare, fuel = taken + (spare + 1) := ⟨fuel - taken - 1, by omega⟩
  have ended : Machine.steps canonical (spare + 1) taken command.pointer machine = some ending := by
    have running := hands.running
    have stepped := hands.step_of_fault failed
    simp only at running stepped
    rw [Machine.steps, if_neg (by simp [running]), if_neg hands.allowed.not_limited, stepped]
  have executed : origin.execute? (taken + (spare + 1)) begins = some (Machine.finish ending) := by
    have steps := arrives.steps_eq (spare + 1)
    rw [ended] at steps
    exact congrArg (Option.map Machine.finish) steps
  have kept : machine.SameExcept [.context, .memory, .reporter] ending.machine :=
    same.mono (by simp)
  refine ⟨_, executed, kept.trans ((Machine.finish_sameExcept ending).mono (by simp)), ?_⟩
  simp only [ending, same.context (by simp)]

/-- Sets the register, and then replaces its content by one with an entry that is not mapped. -/
def misdirected : Run Scripted.embedding := ofScript #[0x02, 4, 0, 0] #[
  0x13, 4, 7, 0,
  0x01, 16, 14, 0, 0, 0, 0, 0, 4, 0, 0, 0, 0, 0, 0, 13]

theorem fault_isAtomic_misdirected :
    ∃ after, misdirected.machine.execute? 2 ⟨0, 0⟩ =
        some (.error (.unresolvedAddress ⟨0x0D000000⟩), after) ∧
      after.context = ⟨some ⟨0, 4⟩, 7, .paused, 0, 0⟩ ∧
      after.stack = misdirected.machine.stack := by
  let first := start ⟨0, 0⟩ misdirected.machine
  let last := first.next?.get (by decide +kernel)
  let command : Command := ⟨⟨0, 4⟩, 0x01, 16,
    #[0x01, 16, 14, 0, 0, 0, 0, 0, 4, 0, 0, 0, 0, 0, 0, 13], .standard⟩
  have reached : Run.mk last.canonical command.pointer last.machine = last := by
    have cursor : last.cursor = command.pointer := by decide +kernel
    rw [← cursor]
  have step : first.Step last := (Option.some_get _).symm
  have arrives : first.Arrives 1 last := .step .start (.inr (by decide +kernel)) step
  have table : last.machine.dispatch = .canonical :=
    step.dispatch ((start_sameExcept _ _).dispatch.trans (dispatch_ofScript _ _))
  have hands : last.Hands 1 .exitAndExecute command := {
    running := by decide +kernel
    allowed := .inr (by decide +kernel)
    decoded := ⟨#[0x13, 4, 7, 0, 0x01, 16, 14, 0, 0, 0, 0, 0, 4, 0, 0, 0, 0, 0, 0, 13],
      by decide +kernel, by decide +kernel⟩
    handler := by rw [Machine.handler?_of_canonical table]; rfl }
  rw [← reached] at arrives hands
  have failed : (last.machine.dispatchCommand (.canonical .exitAndExecute) command).flow =
      .error (.unresolvedAddress ⟨0x0D000000⟩) := by decide +kernel
  obtain ⟨after, executed, same, context⟩ :=
    (fault_isAtomic failed).2 misdirected.machine ⟨0, 0⟩ 1 2 last.canonical arrives hands (by decide)
  refine ⟨after, executed, ?_, ?_⟩
  · rw [context]
    decide +kernel
  · rw [same.stack (by simp)]
    decide +kernel

end Run

end StageScript
