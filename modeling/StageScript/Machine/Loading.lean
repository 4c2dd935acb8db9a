import StageScript.Machine.State

/-!
Commands that load content: execution scopes, checkpoints of the memory, and segment loads.
-/

namespace StageScript.Machine

variable {E : Embedding}

/-- Pops a memory checkpoint, or reports that there is none. -/
def popCheckpoint (opcode : Opcode) (machine : Machine E) : Machine E :=
  match machine.memory.popState with
  | .ok memory => { machine with memory }
  | .error _ => machine.report (.poolUnderflow opcode)

def pushCheckpoint (machine : Machine E) : Machine E :=
  { machine with memory := machine.memory.pushState }

def loadFailure (opcode : Opcode) (error : MemoryError) : Diagnostic :=
  .contentLoadFailed opcode error.message

def load (load : SegmentLoad) (compression : Compression) (machine : Machine E) :
    Except MemoryError (Machine E) := do
  let (_, memory) ← machine.memory.loadSegment load.segment.toInt load.start.toNat
    load.stop.toNat compression
  return { machine with memory }

/-- Enters a freshly loaded script in a scope of its own. Without room on the stack nothing is
loaded, and a load or entry that fails gives its checkpoint back. -/
def execute (load : SegmentLoad) (entry : Address) (following : Pointer) (machine : Machine E) :
    Outcome E :=
  match machine.stack.pushScope following with
  | .error fault => machine.fault (.stack fault)
  | .ok stack =>
    let pushed := machine.pushCheckpoint
    match pushed.load load .raw with
    | .error error => ((pushed.popCheckpoint .execute).report (loadFailure .execute error)).next
    | .ok loaded =>
      match loaded.memory.resolve? entry with
      | none => (loaded.popCheckpoint .execute).fault (.unresolvedAddress entry)
      | some target => { loaded with stack }.goto target

/-- Replaces the memory scope by a freshly loaded script and enters it. The frames of the
replaced scope are dropped, its return frame stays. -/
def exitAndExecute (load : SegmentLoad) (entry : Address) (machine : Machine E) : Outcome E :=
  let replaced := (machine.popCheckpoint .exitAndExecute).pushCheckpoint
  match replaced.load load .raw with
  | .error error => (replaced.report (loadFailure .exitAndExecute error)).next
  | .ok loaded =>
    match loaded.memory.resolve? entry with
    | none => loaded.fault (.unresolvedAddress entry)
    | some target => { loaded with stack := loaded.stack.unwindScope.2 }.goto target

/-- Returns from an execution scope, or ends the script at top level. -/
def exit (machine : Machine E) : Outcome E :=
  match machine.stack.frames with
  | [] => (machine.setStatus .exited).hold
  | _ :: _ =>
    match machine.stack.popReturn with
    | .error fault => machine.fault (.stack fault)
    | .ok (resume, stack) => ({ machine with stack }.popCheckpoint .exit).goto resume

def loadFixed (dest : Address) (start stop : UInt32) (machine : Machine E) : Outcome E :=
  machine.attempt <|
    match machine.memory.loadFixed dest start.toNat stop.toNat with
    | .error error => .error (loadFailure .loadFixed error)
    | .ok (_, memory) => .ok { machine with memory }

def loadContent (opcode : Opcode) (load : SegmentLoad) (compression : Compression)
    (machine : Machine E) : Outcome E :=
  machine.attempt <| (machine.load load compression).mapError (loadFailure opcode)

end StageScript.Machine
