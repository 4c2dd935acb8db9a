import Mathlib.Logic.ExistsUnique
import StageScript.Proofs.Footprint

/-!
Skipping. A skip counts the commands that follow it, whatever bytes they are made of, up to the first
one that it does not pass over, and goes on behind that one. It comes to an end inside the buffer: at
the command that it looks for, or at a place where no command decodes.
-/

namespace StageScript

namespace Command

variable {layout : Layout} {bytes : Bytes} {place : Pointer} {command : Command}

/-- The commands that follow one another from a place on, numbered from zero. Behind a place where
none decodes there are no further ones. -/
def nth (layout : Layout) (bytes : Bytes) (place : Pointer) : Nat → Except ReadFault Command
  | 0 => decode layout bytes place
  | number + 1 => do
    let command ← decode layout bytes place
    nth layout bytes command.next number

theorem nth_succ_of_decode (decoded : decode layout bytes place = .ok command) (number : Nat) :
    nth layout bytes place (number + 1) = nth layout bytes command.next number := by
  rw [nth, decoded]
  rfl

def IsAmong (passed : List Opcode) (command : Command) : Prop :=
  ∃ opcode ∈ passed, command.opcode? = some opcode

/-- The first command from a place on that has none of the opcodes is that with the number, unless
there is none with the number. -/
structure StopsAt (layout : Layout) (bytes : Bytes) (passed : List Opcode) (place : Pointer)
    (number : Nat) : Prop where
  passes : ∀ earlier < number, ∃ command, nth layout bytes place earlier = .ok command ∧
    command.IsAmong passed
  stops : ∀ command, nth layout bytes place number = .ok command → ¬ command.IsAmong passed

namespace StopsAt

variable {passed : List Opcode} {number other : Nat}

theorem le (stopsAt : StopsAt layout bytes passed place number)
    (again : StopsAt layout bytes passed place other) : number ≤ other := by
  refine Nat.le_of_not_lt fun before => ?_
  obtain ⟨command, found, among⟩ := stopsAt.passes other before
  exact again.stops command found among

theorem unique (stopsAt : StopsAt layout bytes passed place number)
    (again : StopsAt layout bytes passed place other) : other = number :=
  Nat.le_antisymm (again.le stopsAt) (stopsAt.le again)

theorem of_error {fault : ReadFault} (failed : decode layout bytes place = .error fault) :
    StopsAt layout bytes passed place 0 where
  passes := nofun
  stops command found := by cases failed.symm.trans found

theorem of_kept (decoded : decode layout bytes place = .ok command)
    (kept : ¬ command.IsAmong passed) : StopsAt layout bytes passed place 0 where
  passes := nofun
  stops other found := by
    cases decoded.symm.trans found
    exact kept

theorem of_passed (decoded : decode layout bytes place = .ok command)
    (among : command.IsAmong passed) (rest : StopsAt layout bytes passed command.next number) :
    StopsAt layout bytes passed place (number + 1) where
  passes
  | 0, _ => ⟨command, decoded, among⟩
  | earlier + 1, before => by
    rw [nth_succ_of_decode decoded]
    exact rest.passes earlier (Nat.lt_of_succ_lt_succ before)
  stops other found := by
    rw [nth_succ_of_decode decoded] at found
    exact rest.stops other found

theorem exists_error_iff (stopsAt : StopsAt layout bytes passed place number) {fault : ReadFault} :
    (∃ earlier ≤ number, nth layout bytes place earlier = .error fault) ↔
      nth layout bytes place number = .error fault := by
  constructor
  · rintro ⟨earlier, before, failed⟩
    rcases Nat.lt_or_eq_of_le before with passed | rfl
    · obtain ⟨_, found, _⟩ := stopsAt.passes earlier passed
      cases failed.symm.trans found
    · exact failed
  · intro failed
    exact ⟨number, Nat.le_refl _, failed⟩

end StopsAt

end Command

namespace Machine

open Command

section Scan

variable {bytes : Bytes} {passed : List Opcode} {passedOver : Option Opcode → Bool}

/-- Looking for a command stops, and at most one command further for every byte there is. -/
theorem exists_stopsAt (layout : Layout)
    (same : ∀ command : Command, passedOver command.opcode? ↔ command.IsAmong passed)
    {place : Pointer} (inside : place.offset ≤ bytes.size) :
    ∃ number, StopsAt layout bytes passed place number ∧ place.offset + number ≤ bytes.size ∧
      pastFirst layout bytes passedOver place = (nth layout bytes place number).map Command.next := by
  induction place using pastFirst.induct layout bytes passedOver with
  | case1 place fault failed =>
    refine ⟨0, .of_error failed, inside, ?_⟩
    rw [pastFirst, nth]
    split
    next again => rw [failed] at again ⊢; cases again; rfl
    next again => cases failed.symm.trans again
  | case2 place command decoded passes ih =>
    have bounds := length_of_decode decoded
    obtain ⟨number, stopsAt, fits, found⟩ := ih bounds.2
    rw [← next_of_decode decoded] at stopsAt found
    refine ⟨number + 1, stopsAt.of_passed decoded ((same command).mp passes), ?_, ?_⟩
    · simp only [Pointer.advance] at fits
      omega
    · rw [nth_succ_of_decode decoded, ← found, pastFirst]
      split
      next again => cases decoded.symm.trans again
      next again =>
        cases decoded.symm.trans again
        rw [if_pos passes, next_of_decode decoded]
  | case3 place command decoded kept =>
    refine ⟨0, .of_kept decoded fun among => kept ((same command).mpr among), inside, ?_⟩
    rw [pastFirst, nth]
    split
    next again => cases decoded.symm.trans again
    next again =>
      cases decoded.symm.trans again
      rw [if_neg kept, decoded, ← next_of_decode decoded]
      rfl

end Scan

variable {E : Embedding} {machine : Machine E}

/-- What a step comes to that looks behind a place for the first command with none of the opcodes, if it
is the one with the number: it goes on behind that command, or faults since none is to be decoded. -/
structure Skips (bytes : Bytes) (passed : List Opcode) (place : Pointer) (machine : Machine E)
    (result : Except Fault Pointer × Machine E) (number : Nat) : Prop where
  stopsAt : StopsAt machine.config.layout bytes passed place number
  inside : place.offset + number ≤ bytes.size
  lands : ∀ last, nth machine.config.layout bytes place number = .ok last →
    result = (machine.followOverrides last.next).map .ok id
  faults : ∀ fault after, result = (.error fault, after) ↔ after = machine ∧
    ∃ earlier ≤ number, ∃ reason,
      nth machine.config.layout bytes place earlier = .error reason ∧ fault = .read reason

section Skips

variable {bytes : Bytes} {passed : List Opcode} {place cursor : Pointer} {number : Nat}
  (stopsAt : StopsAt machine.config.layout bytes passed place number)
  (inside : place.offset + number ≤ bytes.size)
include stopsAt inside

theorem skips_of_command {last : Command}
    (there : nth machine.config.layout bytes place number = .ok last) :
    machine.Skips bytes passed place (settle place cursor (machine.goto last.next)) number where
  stopsAt := stopsAt
  inside := inside
  lands other found := by
    cases there.symm.trans found
    rfl
  faults fault after := by
    rw [settle_eq_error]
    constructor
    · rintro ⟨failed, _⟩
      cases failed
    · rintro ⟨_, earlier, before, reason, failed, _⟩
      cases there.symm.trans (stopsAt.exists_error_iff.mp ⟨earlier, before, failed⟩)

theorem skips_of_fault {reason : ReadFault}
    (missing : nth machine.config.layout bytes place number = .error reason) :
    machine.Skips bytes passed place (settle place cursor (machine.fault (.read reason))) number where
  stopsAt := stopsAt
  inside := inside
  lands last found := by cases missing.symm.trans found
  faults fault after := by
    rw [settle_eq_error]
    constructor
    · rintro ⟨failed, rfl⟩
      cases failed
      exact ⟨rfl, number, Nat.le_refl _, reason, missing, rfl⟩
    · rintro ⟨rfl, earlier, before, other, failed, rfl⟩
      cases missing.symm.trans (stopsAt.exists_error_iff.mp ⟨earlier, before, failed⟩)
      exact ⟨rfl, rfl⟩

end Skips

theorem exists_skips {bytes : Bytes} {passed : List Opcode} {passedOver : Option Opcode → Bool}
    {place cursor : Pointer} (live : machine.memory.buffer? place.buffer = some bytes)
    (same : ∀ command : Command, passedOver command.opcode? ↔ command.IsAmong passed)
    (inside : place.offset ≤ bytes.size) :
    ∃! number, machine.Skips bytes passed place
      (settle place cursor (machine.skipPast passedOver place)) number := by
  obtain ⟨number, stopsAt, fits, found⟩ := exists_stopsAt machine.config.layout same inside
  refine ⟨number, ?_, fun other again => stopsAt.unique again.stopsAt⟩
  cases there : nth machine.config.layout bytes place number with
  | ok last =>
    rw [there] at found
    have went : machine.skipPast passedOver place = machine.goto last.next := by
      simp only [skipPast, live, found, Except.map]
    rw [went]
    exact skips_of_command stopsAt fits there
  | error reason =>
    rw [there] at found
    have failed : machine.skipPast passedOver place = machine.fault (.read reason) := by
      simp only [skipPast, live, found, Except.map]
    rw [failed]
    exact skips_of_fault stopsAt fits there

variable [Patches E]

theorem isSkipNop_iff (command : Command) :
    isSkipNop command.opcode? ↔ command.IsAmong [.skipNop] := by
  simp [isSkipNop, Command.IsAmong]

theorem isSkipOrSkipNop_iff (command : Command) :
    isSkipOrSkipNop command.opcode? ↔ command.IsAmong [.skip, .skipNop] := by
  simp [isSkipOrSkipNop, Command.IsAmong]

/-- A skip goes on behind the first of the commands following it that is no `skipNop`, and a `skipIf`
whose condition does not hold behind the first that is neither that nor a skip, whatever opcode or none
it has otherwise; a `skipIf` whose condition holds goes on with the command that follows. The command
that is looked for comes no later than the bytes of the buffer end. The step faults just when one of the
commands up to there does not decode, with the fault of that one, and then nothing has changed. Only
where the step goes on do the overrides apply. -/
theorem skip_stopsAtFirst {bytes : Bytes} {cursor : Pointer} {command : Command} {canonical : Bool}
    (plain : canonical = true ∨ machine.dispatch = .canonical)
    (live : machine.memory.buffer? cursor.buffer = some bytes)
    (decoded : Command.decode machine.config.layout bytes cursor = .ok command) :
    let result := machine.step canonical cursor
    (command.opcode? = some .skip →
      ∃! number, machine.Skips bytes [.skipNop] command.next result number) ∧
    ∀ condition, command.opcode? = some .skipIf → command.condition = .ok condition →
      if condition.holds machine.context.register then
        result = (machine.followOverrides command.next).map .ok id
      else ∃! number, machine.Skips bytes [.skip, .skipNop] command.next result number := by
  intro result
  have behind := next_of_decode decoded
  have following : machine.memory.buffer? command.next.buffer = some bytes := by
    rw [behind]
    exact live
  have inside : command.next.offset ≤ bytes.size := by
    rw [behind]
    exact (length_of_decode decoded).2
  have handler {opcode : Opcode} (known : command.opcode? = some opcode) :
      machine.handler? canonical command.code = some (.canonical opcode) := by
    rw [handler?_of_plain plain]
    exact congrArg (Option.map _) known
  refine ⟨fun known => ?_, fun condition known read => ?_⟩
  · have stepped : result = settle command.next cursor (machine.skipPast isSkipNop command.next) :=
      step_of_handler live decoded (handler known) rfl
    rw [stepped]
    exact exists_skips following isSkipNop_iff inside
  · have instruction : Instruction.read .skipIf command = .ok (.skipIf condition) := by
      rw [Instruction.read, read]
      rfl
    have stepped : result = settle command.next cursor (machine.skipIf condition command.next) :=
      step_of_handler live decoded (handler known) instruction
    rw [stepped]
    unfold skipIf
    split
    next => rfl
    next => exact exists_skips following isSkipOrSkipNop_iff inside

/-- Compares the register with one, and goes on with a skip, a `skipNop`, a code that is no opcode, and
an exit that is overridden. -/
def skippingScript : Bytes := #[
  0x0E, 8, 2, 0, 1, 0, 0, 0,
  0x0F, 4, 0, 0, 0x10, 4, 0, 0, 0xFF, 4, 0, 0,
  0x02, 4, 0, 0]

def skipping : Machine Scripted.embedding :=
  let registry := ((Registry.empty.register ⟨⟨0, 20⟩, ⟨0, 8⟩, 1⟩).2.register ⟨⟨0, 16⟩, ⟨0, 0⟩, 1⟩).2
  { (Run.ofScript #[] skippingScript).machine with overrides := registry }

theorem skip_stopsAtFirst_unknown :
    ∃ command condition, skipping.memory.buffer? 0 = some skippingScript ∧
      Command.decode skipping.config.layout skippingScript ⟨0, 0⟩ = .ok command ∧
      command.opcode? = some .skipIf ∧ command.condition = .ok condition ∧
      ¬ condition.holds skipping.context.register ∧
      (∃! number, skipping.Skips skippingScript [.skip, .skipNop] ⟨0, 8⟩
        (skipping.step false ⟨0, 0⟩) number) ∧
      (skipping.step false ⟨0, 0⟩).1 = .ok ⟨0, 8⟩ := by
  let command : Command := ⟨⟨0, 0⟩, 0x0E, 8, #[0x0E, 8, 2, 0, 1, 0, 0, 0], .standard⟩
  let condition : Condition := ⟨.equal, 1⟩
  have live : skipping.memory.buffer? 0 = some skippingScript := by decide +kernel
  have decoded : Command.decode skipping.config.layout skippingScript ⟨0, 0⟩ = .ok command := by
    decide +kernel
  have known : command.opcode? = some .skipIf := by decide +kernel
  have read : command.condition = .ok condition := by decide +kernel
  have fails : ¬ condition.holds skipping.context.register := by decide +kernel
  have plain : false = true ∨ skipping.dispatch = .canonical :=
    .inr (Run.dispatch_ofScript #[] skippingScript)
  have skips := (skip_stopsAtFirst plain live decoded).2 condition known read
  rw [if_neg fails] at skips
  exact ⟨command, condition, live, decoded, known, read, fails, skips, by decide +kernel⟩

end Machine

end StageScript
