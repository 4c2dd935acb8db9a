import StageScript.Machine.Exec

/-!
Running a script. A step dispatches the command at the cursor and resolves where control goes
through the overrides; a run takes steps until the script waits, exits or faults.
-/

namespace StageScript.Machine

variable {E : Embedding}

/-- Registers an override and reports it when another owner is in its way. -/
def registerOverride (override : Override) (machine : Machine E) : Registration × Machine E :=
  let (registration, overrides) := machine.overrides.register override
  let registered := { machine with overrides }
  match registration with
  | .active => (registration, registered)
  | .shadowed rival =>
    (registration, registered.report (.overrideConflict override.original override.owner rival))

/-- Where a pointer leads under the overrides. The author of the command there becomes the
active owner; a move, or a change of owner by an override, is reported. -/
def followOverrides (pointer : Pointer) (machine : Machine E) : Pointer × Machine E :=
  let resolution := machine.overrides.resolve pointer
  let reported := match resolution.owner with
    | some owner =>
      if resolution.pointer ≠ pointer ∨ machine.activeOwner ≠ some owner then
        machine.report (.overrideResolved pointer resolution.pointer owner)
      else machine
    | none => machine
  let author := resolution.owner.or (machine.overrides.streamOwner resolution.pointer.buffer)
  (resolution.pointer, { reported with activeOwner := author })

/-- Whether this run goes through the canonical table, which it does, and says so, when a
canary of the live table is not canonical. -/
def selectTable (machine : Machine E) : Bool × Machine E :=
  match machine.dispatch.tampered with
  | [] => (false, machine)
  | patched => (true, machine.report (.dispatchTableRestored patched))

def handler? (canonical : Bool) (code : UInt8) (machine : Machine E) : Option (Handler E.Patch) :=
  if canonical then (Opcode.ofCode? code).map .canonical else machine.dispatch.handler? code

def dispatchCommand [Patches E] (handler : Handler E.Patch) (command : Command)
    (machine : Machine E) : Outcome E :=
  match handler with
  | .canonical opcode =>
    match Instruction.read opcode command with
    | .error fault => machine.fault (.read fault)
    | .ok instruction => machine.exec instruction command.next
  | .patch patch => Patches.run patch command machine

/-- Dispatches the command at the cursor. An opcode that is none pauses the script in place. -/
def step [Patches E] (canonical : Bool) (cursor : Pointer) (machine : Machine E) :
    Except Fault Pointer × Machine E :=
  match machine.memory.buffer? cursor.buffer with
  | none => (.error (.danglingPointer cursor), machine)
  | some bytes =>
    match Command.codeAt bytes cursor with
    | .error fault => (.error (.read fault), machine)
    | .ok code =>
      match machine.handler? canonical code with
      | none => (.ok cursor, machine.setStatus .paused)
      | some handler =>
        match Command.decode machine.config.layout bytes cursor with
        | .error fault => (.error (.read fault), machine)
        | .ok command =>
          let outcome := machine.dispatchCommand handler command
          match outcome.flow with
          | .error fault => (.error fault, outcome.machine)
          | .ok flow =>
            let target := match flow with
              | .next => command.next
              | .goto target => target
              | .hold => cursor
            let (resolved, machine) := outcome.machine.followOverrides target
            (.ok resolved, machine)

/-- How a run ends: where to resume, or the fault, with the cursor it stopped at. -/
structure Ending (E : Embedding) where
  result : Except Fault Pointer
  cursor : Pointer
  machine : Machine E

/-- Takes steps while the script is running, at most as many as there is fuel for. -/
def steps [Patches E] (canonical : Bool) : (fuel taken : Nat) → Pointer → Machine E →
    Option (Ending E)
  | 0, _, _, _ => none
  | fuel + 1, taken, cursor, machine =>
    if machine.context.status ≠ .running then some ⟨.ok cursor, cursor, machine⟩
    else if machine.config.stepLimit ≠ 0 ∧ machine.config.stepLimit ≤ taken then
      some ⟨.error (.stepLimitExceeded machine.config.stepLimit), cursor, machine⟩
    else
      match machine.step canonical cursor with
      | (.error fault, machine) => some ⟨.error fault, cursor, machine⟩
      | (.ok target, machine) => steps canonical fuel (taken + 1) target machine

def begin (machine : Machine E) : Machine E :=
  { machine.setStatus .running with activeOwner := none, reporter := machine.reporter.beginRun }

def finish (ending : Ending E) : Except Fault Pointer × Machine E :=
  let machine := ending.machine
  let status := match ending.result with
    | .ok _ => machine.context.status
    | .error _ => .paused
  let context := { machine.context with cursor := some ending.cursor, status }
  (ending.result, { machine with context, reporter := machine.reporter.finishRun })

/-- Runs from a pointer until the script waits, exits or faults; absent when the fuel does not
last that long. -/
def execute? [Patches E] (fuel : Nat) (start : Pointer) (machine : Machine E) :
    Option (Except Fault Pointer × Machine E) :=
  let (canonical, machine) := machine.begin.selectTable
  let (cursor, machine) := machine.followOverrides start
  (steps canonical fuel 0 cursor machine).map finish

/-- Fuel that a run under a step limit never uses up. -/
def enoughFuel (machine : Machine E) : Nat :=
  if machine.config.stepLimit = 0 then 0x4000000000000000 else machine.config.stepLimit + 1

/-- Runs from a pointer with enough fuel. A machine without a step limit that would run for
ever counts as faulting once its fuel is used up. -/
def run [Patches E] (start : Pointer) (machine : Machine E) : Except Fault Pointer × Machine E :=
  (machine.execute? machine.enoughFuel start).getD
    (.error (.stepLimitExceeded machine.enoughFuel), machine)

end StageScript.Machine
