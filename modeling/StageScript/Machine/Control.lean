import StageScript.Machine.State

/-!
Commands that decide where control goes: sleeping, jumps, calls, loops, skips, and calls of
host functions.
-/

namespace StageScript.Machine

variable {E : Embedding}

/-- A delay counter after one visit, and whether the script still waits. A counter of zero is
loaded with the frames to wait; any other loses one frame. -/
def countDown (counter : Int32) (frames : Int16) : Int32 × Bool :=
  if counter = 0 then
    if frames ≤ 0 then (0, false) else (frames.toInt32, true)
  else (counter - 1, counter - 1 != 0)

def sleep (frames : Int16) (machine : Machine E) : Outcome E :=
  let (counter, waiting) := countDown machine.context.delayPrimary frames
  let visited := { machine with context := { machine.context with delayPrimary := counter } }
  if waiting then (visited.setStatus .paused).hold else visited.next

def sleepBeforeExit (frames : Int16) (machine : Machine E) : Outcome E :=
  let (counter, waiting) := countDown machine.context.delaySecondary frames
  let visited := { machine with context := { machine.context with delaySecondary := counter } }
  if waiting then (visited.setStatus .pausedSecondary).hold else visited.next

def jump (target : Address) (machine : Machine E) : Outcome E :=
  match machine.memory.resolve? target with
  | none => machine.fault (.unresolvedAddress target)
  | some pointer => machine.goto pointer

def push (frame : Frame) (machine : Machine E) (flow : Flow) : Outcome E :=
  match machine.stack.push frame with
  | .error fault => machine.fault (.stack fault)
  | .ok stack => ⟨{ machine with stack }, .ok flow⟩

def jumpLink (target : Address) (back : Pointer) (machine : Machine E) : Outcome E :=
  match machine.memory.resolve? target with
  | none => machine.fault (.unresolvedAddress target)
  | some pointer => machine.push (.ret back) (.goto pointer)

def ret (machine : Machine E) : Outcome E :=
  match machine.stack.popReturn with
  | .error fault => machine.fault (.stack fault)
  | .ok (resume, stack) => { machine with stack }.goto resume

/-- One round less, unless the number is already the least there is. -/
def oneLess (remaining : Int32) : Int32 :=
  if remaining = Int32.minValue then remaining else remaining - 1

def loopRepeat (machine : Machine E) : Outcome E :=
  match machine.stack.popLoop with
  | .error fault => machine.fault (.stack fault)
  | .ok ((resume, remaining), popped) =>
    let left := oneLess remaining
    if left ≤ 0 then { machine with stack := popped }.next
    else { machine with stack := machine.stack.setRemaining left }.goto resume

def loopUntil (condition : Condition) (machine : Machine E) : Outcome E :=
  match machine.stack.popLoop with
  | .error fault => machine.fault (.stack fault)
  | .ok ((resume, _), popped) =>
    if condition.holds machine.context.register then { machine with stack := popped }.next
    else machine.goto resume

/-- Runs a jump when the condition holds; only then does its target have to be readable. -/
def whenHolds (condition : Condition) (target : Except ReadFault Address)
    (jump : Address → Machine E → Outcome E) (machine : Machine E) : Outcome E :=
  if condition.holds machine.context.register then
    match target with
    | .error fault => machine.fault (.read fault)
    | .ok address => jump address machine
  else machine.next

/-- The pointer past the first command from a place on that is not to be passed over. -/
def pastFirst (layout : Layout) (bytes : Bytes) (passedOver : Option Opcode → Bool)
    (pointer : Pointer) : Except ReadFault Pointer :=
  match _decoded : Command.decode layout bytes pointer with
  | .error fault => .error fault
  | .ok command =>
    if passedOver command.opcode? then
      pastFirst layout bytes passedOver (pointer.advance command.length)
    else .ok (pointer.advance command.length)
termination_by bytes.size - pointer.offset
decreasing_by
  have bounds := Command.length_of_decode _decoded
  simp only [Pointer.advance]
  omega

def skipPast (passedOver : Option Opcode → Bool) (following : Pointer) (machine : Machine E) :
    Outcome E :=
  match machine.memory.buffer? following.buffer with
  | none => machine.fault (.danglingPointer following)
  | some bytes =>
    match pastFirst machine.config.layout bytes passedOver following with
    | .error fault => machine.fault (.read fault)
    | .ok target => machine.goto target

def isSkipNop (opcode : Option Opcode) : Bool := opcode == some .skipNop

def isSkipOrSkipNop (opcode : Option Opcode) : Bool :=
  opcode == some .skip || opcode == some .skipNop

def skipIf (condition : Condition) (following : Pointer) (machine : Machine E) : Outcome E :=
  if condition.holds machine.context.register then machine.next
  else machine.skipPast isSkipOrSkipNop following

/-- Calls a host function; the register is the caller's business. -/
def invokeHost (id : UInt32) (argument : Int16) (machine : Machine E) :
    Except Diagnostic (Int32 × Machine E) :=
  match machine.hosts[id]? with
  | none => .error (.unknownHostFunction id)
  | some function =>
    let context : HostContext :=
      ⟨machine.overrides, machine.level, machine.activeOwner, #[]⟩
    let reply := E.callHost function context argument machine.context.register
    .ok (reply.value, { machine with
      hosts := machine.hosts.insert id reply.later
      overrides := reply.context.overrides
      level := reply.context.level
      reporter := reply.context.raised.foldl Reporter.emit machine.reporter })

/-- Waits on the command as long as a call answers zero. -/
def holdWhileZero (value : Int32) (machine : Machine E) : Outcome E :=
  if value = 0 then (machine.setStatus .paused).hold else machine.next

def call (argument : Int16) (function : UInt32) (machine : Machine E) : Outcome E :=
  match machine.invokeHost function argument with
  | .error diagnostic => (machine.report diagnostic).next
  | .ok (value, called) => (called.setRegister value).next

def callLoop (argument : Int16) (function : UInt32) (machine : Machine E) : Outcome E :=
  match machine.invokeHost function argument with
  | .error diagnostic => (machine.report diagnostic).next
  | .ok (value, called) => (called.setRegister value).holdWhileZero value

end StageScript.Machine
