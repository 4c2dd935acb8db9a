import StageScript.Proofs.Lifetime
import StageScript.Proofs.Resolution
import StageScript.Proofs.Rollback

/-!
Pointers into buffers that are gone. Scripts, their hosts and patches change the memory by calls
alone, so that a number never comes to mean another buffer. A pointer that outlives its buffer, in
a frame or wherever it is kept, therefore faults when it is followed, unless an override with an
end at that very pointer leads on to a command that is still there.
-/

namespace StageScript

namespace Memory

variable {memory after : Memory}

theorem call_of_outcome {operation : Operation} {answer : Option BufferId}
    (done : operation.outcome memory = .ok (answer, after)) : memory.call operation = after := by
  unfold call
  rw [operation.perform_eq memory, done]

theorem call_popState (popped : memory.popState = .ok after) : memory.call .popState = after := by
  have done : Operation.popState.outcome memory = .ok (none, after) := by
    rw [Operation.outcome, popped]
    rfl
  exact call_of_outcome done

def loadCall (load : SegmentLoad) (compression : Compression) : Operation :=
  .loadSegment load.segment.toInt load.start.toNat load.stop.toNat compression

theorem call_loadCall {load : SegmentLoad} {compression : Compression} {buffer : BufferId}
    (loaded : memory.loadRange load compression = .ok (buffer, after)) :
    memory.call (loadCall load compression) = after := by
  have done : (loadCall load compression).outcome memory = .ok (some buffer, after) :=
    congrArg (Except.map (Prod.map some id)) loaded
  exact call_of_outcome done

theorem call_loadFixed {dest : Address} {start stop : Nat} {buffer : BufferId}
    (loaded : memory.loadFixed dest start stop = .ok (buffer, after)) :
    memory.call (.loadFixed dest start stop) = after := by
  have done : (Operation.loadFixed dest start stop).outcome memory = .ok (some buffer, after) :=
    congrArg (Except.map (Prod.map some id)) loaded
  exact call_of_outcome done

theorem replaceState_eq_calls (memory : Memory) :
    memory.replaceState = memory.calls [.popState, .pushState] := by
  have pushed : memory.calls [.popState, .pushState] = (memory.call .popState).pushState := rfl
  rw [pushed]
  cases popped : memory.popState with
  | ok after => simp only [replaceState, popped, call_popState popped]
  | error error =>
    have kept : memory.call .popState = memory := by
      unfold call
      rw [Operation.perform_eq, Operation.outcome, popped]
      rfl
    simp only [replaceState, popped, kept]

theorem Moved.exists_calls {instruction : Instruction} (moved : memory.Moved instruction after) :
    ∃ operations, after = memory.calls operations := by
  cases moved with
  | kept => exact ⟨[], rfl⟩
  | pushPool => exact ⟨[.pushState], rfl⟩
  | popPool popped => exact ⟨[.popState], (call_popState popped).symm⟩
  | initLevel => exact ⟨[.pushState], rfl⟩
  | clearLevel popped => exact ⟨[.popState], (call_popState popped).symm⟩
  | exit popped => exact ⟨[.popState], (call_popState popped).symm⟩
  | loadFixed loaded => exact ⟨[_], (call_loadFixed loaded).symm⟩
  | loadRaw loaded => exact ⟨[_], (call_loadCall loaded).symm⟩
  | loadCompressed loaded => exact ⟨[_], (call_loadCall loaded).symm⟩
  | @executeUnresolved load _ _ loaded _ loads popped =>
    refine ⟨[.pushState, loadCall load .raw, .popState], ?_⟩
    rw [← call_popState popped, ← call_loadCall loads]
    rfl
  | @execute load _ _ _ loaded =>
    refine ⟨[.pushState, loadCall load .raw], ?_⟩
    rw [← call_loadCall loaded]
    rfl
  | exitAndExecuteUnloaded => exact ⟨[.popState, .pushState], replaceState_eq_calls memory⟩
  | @exitAndExecute load _ _ _ loaded =>
    refine ⟨[.popState, .pushState, loadCall load .raw], ?_⟩
    rw [← call_loadCall loaded, replaceState_eq_calls]
    rfl

end Memory

namespace Machine

variable {E : Embedding} {machine between after : Machine E}

def CallsMemory (machine after : Machine E) : Prop :=
  ∃ operations, after.memory = machine.memory.calls operations

theorem CallsMemory.of_memory (same : after.memory = machine.memory) : machine.CallsMemory after :=
  ⟨[], same⟩

theorem CallsMemory.trans (first : machine.CallsMemory between)
    (second : between.CallsMemory after) : machine.CallsMemory after := by
  obtain ⟨operations, led⟩ := first
  obtain ⟨further, left⟩ := second
  exact ⟨operations ++ further, by rw [left, led, Memory.calls_append]⟩

/-- The handlers that a host has patched in change the memory by calls only. -/
def PatchesCallMemory (E : Embedding) [Patches E] : Prop :=
  ∀ (patch : E.Patch) (command : Command) (machine : Machine E),
    machine.CallsMemory (Patches.run patch command machine).machine

theorem followOverrides_callsMemory (pointer : Pointer) (machine : Machine E) :
    machine.CallsMemory (machine.followOverrides pointer).2 :=
  .of_memory ((machine.followOverrides_sameExcept pointer).memory (by simp))

variable [Patches E]

theorem dispatchCommand_callsMemory (patched : PatchesCallMemory E) (handler : Handler E.Patch)
    (command : Command) (machine : Machine E) :
    machine.CallsMemory (machine.dispatchCommand handler command).machine := by
  cases handler with
  | patch patch => exact patched patch command machine
  | canonical opcode =>
    exact dispatchCommand_keeps (.of_memory rfl) fun instruction =>
      (machine.exec_memory_moved instruction command.next).exists_calls

theorem step_callsMemory (patched : PatchesCallMemory E) (canonical : Bool) (cursor : Pointer)
    (machine : Machine E) : machine.CallsMemory (machine.step canonical cursor).2 := by
  refine step_keeps (.of_memory rfl) (.of_memory rfl) ?_ ?_
  · intro handler command _
    exact machine.dispatchCommand_callsMemory patched handler command
  · intro pointer after called
    exact called.trans (after.followOverrides_callsMemory pointer)

theorem step_of_gone {cursor : Pointer} (gone : machine.memory.buffer? cursor.buffer = none)
    (canonical : Bool) :
    machine.step canonical cursor = (.error (.danglingPointer cursor), machine) := by
  simp only [step, gone]

end Machine

namespace Run

variable {E : Embedding} {run next first last : Run E} {pointer : Pointer}

/-- The next step runs an instruction, as the handler of the command at the cursor has read it. -/
structure Performs (run : Run E) (command : Command) (instruction : Instruction) : Prop where
  decoded : ∃ bytes, run.machine.memory.buffer? run.cursor.buffer = some bytes ∧
    Command.decode run.machine.config.layout bytes run.cursor = .ok command
  handled : ∃ opcode, run.machine.handler? run.canonical command.code = some (.canonical opcode) ∧
    Instruction.read opcode command = .ok instruction

theorem Performs.of_dispatches {command : Command} {instruction : Instruction}
    (table : run.machine.dispatch = .canonical)
    (dispatched : run.machine.Dispatches run.cursor command instruction) :
    run.Performs command instruction := by
  obtain ⟨opcode, known, read⟩ := dispatched.meant
  refine ⟨dispatched.decoded, opcode, ?_, read⟩
  rw [Machine.handler?_of_canonical table]
  exact congrArg (Option.map Handler.canonical) known

variable [Patches E]

theorem Ends.callsMemory (patched : Machine.PatchesCallMemory E) {ending : Machine.Ending E}
    (ended : run.Ends ending) : run.machine.CallsMemory ending.machine :=
  ended.keeps (.of_memory rfl) (run.machine.step_callsMemory patched run.canonical run.cursor)

theorem Moves.callsMemory (patched : Machine.PatchesCallMemory E)
    (move : run.Moves Machine.CallsMemory next) : run.machine.CallsMemory next.machine := by
  rcases move with step | resumed
  · exact step.keeps (run.machine.step_callsMemory patched run.canonical run.cursor)
  · obtain ⟨ending, finished, edited, ended, same, edit, started⟩ := resumed.cases
    have stopped : run.machine.CallsMemory finished :=
      (ended.callsMemory patched).trans (.of_memory (same.memory (by simp)))
    exact stopped.trans (edit.trans (.of_memory (started.memory (by simp))))

theorem Through.callsMemory {property : Run E → Prop} (patched : Machine.PatchesCallMemory E)
    (session : first.Through Machine.CallsMemory property last) :
    first.machine.CallsMemory last.machine := by
  obtain ⟨_, moves⟩ := session
  induction moves with
  | refl => exact .of_memory rfl
  | tail _ move ih => exact ih.trans (move.1.callsMemory patched)

/-- The run has got to its cursor by a pointer that was kept: the one an execution is started at,
or the one in the top frame where a command returns or a loop goes round. -/
inductive Follows (pointer : Pointer) : Run E → Prop where
  | start (machine : Machine E) : Follows pointer (start pointer machine)
  | ret {run next : Run E} {command : Command} {below : List Frame}
    (performs : run.Performs command .ret)
    (top : run.machine.stack.frames = .ret pointer :: below) (step : run.Step next) :
    Follows pointer next
  | exit {run next : Run E} {command : Command} {below : List Frame}
    (performs : run.Performs command .exit)
    (top : run.machine.stack.frames = .ret pointer :: below) (step : run.Step next) :
    Follows pointer next
  | loopRepeat {run next : Run E} {command : Command} {remaining : Int32} {below : List Frame}
    (performs : run.Performs command .loopRepeat)
    (top : run.machine.stack.frames = .loop pointer remaining :: below)
    (again : 0 < Machine.oneLess remaining) (step : run.Step next) : Follows pointer next
  | loopUntil {run next : Run E} {command : Command} {condition : Condition} {remaining : Int32}
    {below : List Frame} (performs : run.Performs command (.loopUntil condition))
    (top : run.machine.stack.frames = .loop pointer remaining :: below)
    (again : ¬ condition.holds run.machine.context.register) (step : run.Step next) :
    Follows pointer next

/-- The next step faults because its command is gone, and does nothing else. -/
def Stranded (run : Run E) : Prop :=
  run.machine.step run.canonical run.cursor = (.error (.danglingPointer run.cursor), run.machine)

/-- The run is at a replacement that is there, by an override with an end at the pointer. -/
def Redirected (run : Run E) (pointer : Pointer) : Prop :=
  ∃ override ∈ run.machine.overrides.overrides, override.covers pointer ∧
    run.cursor = override.replacement ∧ run.machine.memory.isLive run.cursor.buffer

theorem Performs.followed {command : Command} {instruction : Instruction}
    (performs : run.Performs command instruction) (step : run.Step next)
    (went : (run.machine.exec instruction command.next).flow = .ok (.goto pointer)) :
    ∃ machine : Machine E, machine.followOverrides pointer = (next.cursor, next.machine) := by
  obtain ⟨bytes, live, decoded⟩ := performs.decoded
  obtain ⟨opcode, handler, read⟩ := performs.handled
  obtain ⟨_, stepped, _⟩ := step_iff.mp step
  rw [Machine.step_of_handler live decoded handler read] at stepped
  obtain ⟨flow, same, followed⟩ := Machine.settle_eq_ok.mp stepped
  rw [went] at same
  cases same
  exact ⟨_, followed⟩

theorem Follows.followed (follows : run.Follows pointer) :
    ∃ machine : Machine E, machine.followOverrides pointer = (run.cursor, run.machine) := by
  cases follows with
  | start machine => exact ⟨_, rfl⟩
  | ret performs top step =>
    apply performs.followed step
    simp [Machine.exec, Machine.ret, Stack.popReturn, top, Machine.goto]
  | exit performs top step =>
    apply performs.followed step
    simp [Machine.exec, Machine.exit, Stack.popReturn, top, Machine.goto]
  | loopRepeat performs top again step =>
    apply performs.followed step
    have more : ¬ Machine.oneLess _ ≤ 0 := Int32.not_le.mpr again
    simp [Machine.exec, Machine.loopRepeat, Stack.popLoop, top, Machine.goto, more]
  | loopUntil performs top again step =>
    apply performs.followed step
    simp [Machine.exec, Machine.loopUntil, Stack.popLoop, top, Machine.goto, again]

theorem Follows.cases (follows : run.Follows pointer) :
    run.cursor = pointer ∨ ∃ override ∈ run.machine.overrides.overrides,
      override.covers pointer ∧ run.cursor = override.replacement := by
  obtain ⟨machine, followed⟩ := follows.followed
  have overrides : run.machine.overrides = machine.overrides :=
    (Machine.sameExcept_of_followed followed).overrides (by simp)
  have cursor : run.cursor = (machine.overrides.resolve pointer).pointer :=
    (congrArg Prod.fst followed).symm
  rw [cursor, overrides]
  exact machine.overrides.resolve_cases pointer

theorem Follows.detected (follows : run.Follows pointer)
    (gone : run.machine.memory.buffer? pointer.buffer = none) :
    run.Stranded ∨ run.Redirected pointer := by
  cases there : run.machine.memory.buffer? run.cursor.buffer with
  | none => exact .inl (Machine.step_of_gone there run.canonical)
  | some bytes =>
    -- the cursor is not the pointer itself, and only an override can have put it elsewhere
    right
    rcases follows.cases with same | ⟨override, member, covers, cursor⟩
    · rw [same, gone] at there
      cases there
    · refine ⟨override, member, covers, cursor, ?_⟩
      rw [Memory.buffer?_eq, Option.map_eq_some_iff] at there
      obtain ⟨_, live, _⟩ := there
      exact Option.isSome_of_eq_some live

/-- A number is issued once, stands for the same bytes as long as it is live, and for nothing once
its buffer is released. A pointer that is left over from a released buffer faults wherever it turns
up in a session, except where an override leads from it to a command that is live. -/
theorem released_pointer_detected (patched : Machine.PatchesCallMemory E) (image : Bytes)
    (capacity : Nat) (front rest : List Memory.Operation) :
    let initial := Memory.ofImage image capacity
    let earlier := initial.calls front
    let later := earlier.calls rest
    (∀ operation answer left, Memory.Operation.makes operation →
      operation.perform earlier = .ok answer left →
      answer = some (initial.answers front).length ∧
        (initial.answers front).length ∉ initial.answers front ∧
        left.isLive (initial.answers front).length) ∧
    (∀ id bytes, earlier.buffer? id = some bytes →
      later.buffer? id = some bytes ∨ later.buffer? id = none) ∧
    (∀ id ∈ initial.answers front, earlier.buffer? id = none → later.buffer? id = none) ∧
    ∀ (first last : Run E) (pointer : Pointer), first.machine.memory = earlier →
      first.Through Machine.CallsMemory (fun _ => True) last →
      pointer.buffer ∈ initial.answers front → earlier.buffer? pointer.buffer = none →
      (∀ canonical, last.machine.step canonical pointer =
        (.error (.danglingPointer pointer), last.machine)) ∧
      (last.Follows pointer → last.Stranded ∨ last.Redirected pointer) := by
  intro initial earlier later
  have answers : initial.answers front = List.range earlier.slots.size := by
    rw [Memory.answers_eq_range', List.range_eq_range']
    rfl
  have aged := Memory.Aged.calls earlier rest
  rw [answers]
  refine ⟨?_, fun _ _ => aged.bytes, ?_, ?_⟩
  · intro operation answer left makes performed
    have called := (Memory.called_of_perform performed).1
    rw [called.answer_eq.1, if_pos makes, List.length_range]
    exact ⟨rfl, List.not_mem_range_self, called.isLive makes⟩
  · intro id issued released
    exact aged.gone (List.mem_range.mp issued) released
  · intro first last pointer memory session issued released
    obtain ⟨operations, led⟩ := session.callsMemory patched
    have gone : last.machine.memory.buffer? pointer.buffer = none := by
      rw [led, memory]
      exact (Memory.Aged.calls earlier operations).gone (List.mem_range.mp issued) released
    exact ⟨Machine.step_of_gone gone, fun follows => follows.detected gone⟩

theorem dispatch_of_ahead? {property : Run E → Prop} [DecidablePred property] {count : Nat}
    (table : first.machine.dispatch = .canonical) (ahead : first.ahead? property count = some last) :
    last.machine.dispatch = .canonical := by
  have session : first.Through (fun _ _ => False) property last := through_of_ahead? ahead
  clear ahead
  obtain ⟨_, moves⟩ := session
  induction moves with
  | refl => exact table
  | tail _ move ih => exact move.1.dispatch (fun _ _ edited => edited.elim) ih

theorem patchesCallMemory_scripted : Machine.PatchesCallMemory Scripted.embedding := by
  intro patch command machine
  cases patch with
  | addHundred => exact .of_memory rfl
  | storeLength => exact .of_memory rfl
  | hold => exact .of_memory rfl
  | restart => exact .of_memory rfl

/-- Content that calls the script which has loaded it. -/
def evictedContent : Bytes := #[
  0x06, 8, 0, 0, 24, 0, 0, 16,
  0x02, 4, 0, 0]

/-- Loads content under a checkpoint, jumps to it, and pops the checkpoint when the content calls;
the return from the call then goes to a command that is gone. -/
def evictingScript : Bytes := #[
  0x14, 4, 0, 0,
  0x17, 12, 5, 0, 0, 0, 0, 0, 12, 0, 0, 0,
  0x05, 8, 0, 0, 0, 0, 0, 5,
  0x15, 4, 0, 0,
  0x07, 4, 0, 0,
  0x13, 4, 7, 0,
  0x02, 4, 0, 0]

def evicting (overrides : List Override) : Run Scripted.embedding :=
  start ⟨0, 0⟩ { (ofScript evictedContent evictingScript).machine with overrides := ⟨overrides⟩ }

def evictingCalls : List Memory.Operation :=
  [.install evictingScript, .mapSegment 16 0, .pushState, .loadSegment 5 0 12 .raw, .popState]

theorem dispatch_evicting (overrides : List Override) :
    (evicting overrides).machine.dispatch = .canonical :=
  (start_sameExcept _ _).dispatch.trans (dispatch_ofScript _ _)

deriving instance DecidableEq for Memory

theorem released_pointer_detected_evicting :
    ∃ first last : Run Scripted.embedding,
      first.machine.memory = (Memory.ofImage evictedContent 0x400000).calls evictingCalls ∧
      first.Step last ∧ last.Follows ⟨1, 8⟩ ∧ last.Stranded := by
  let ahead := (evicting []).ahead? (fun _ => True) 5
  let first := ahead.get (by decide +kernel)
  let last := first.next?.get (by decide +kernel)
  have step : first.Step last := (Option.some_get _).symm
  have table : first.machine.dispatch = .canonical :=
    dispatch_of_ahead? (dispatch_evicting []) (Option.some_get _).symm
  have memory : first.machine.memory =
      (Memory.ofImage evictedContent 0x400000).calls evictingCalls := by decide +kernel
  have dispatched : first.machine.Dispatches first.cursor
      ⟨⟨0, 28⟩, 0x07, 4, #[0x07, 4, 0, 0], .standard⟩ .ret :=
    Machine.fetch?_eq_some.mp (by decide +kernel)
  have top : first.machine.stack.frames = [.ret ⟨1, 8⟩] := by decide +kernel
  have follows : last.Follows ⟨1, 8⟩ := .ret (.of_dispatches table dispatched) top step
  have session : first.Through Machine.CallsMemory (fun _ => True) last :=
    ⟨trivial, .single ⟨.inl step, trivial⟩⟩
  obtain ⟨_, detected⟩ := (released_pointer_detected patchesCallMemory_scripted evictedContent 0x400000
    evictingCalls []).2.2.2 first last ⟨1, 8⟩ memory session (by decide +kernel) (by decide +kernel)
  refine ⟨first, last, memory, step, follows, ?_⟩
  rcases detected follows with stranded | ⟨override, member, _⟩
  · exact stranded
  · have none : last.machine.overrides.overrides = [] := by decide +kernel
    simp [none] at member

/-- With an override of the command that is gone the return goes on at the replacement. -/
theorem released_pointer_redirected :
    ∃ first last : Run Scripted.embedding,
      (evicting [⟨⟨1, 8⟩, ⟨0, 32⟩, 7⟩]).Through Machine.CallsMemory (fun _ => True) first ∧
      first.machine.memory = (Memory.ofImage evictedContent 0x400000).calls evictingCalls ∧
      1 ∈ (Memory.ofImage evictedContent 0x400000).answers evictingCalls ∧
      first.machine.memory.buffer? 1 = none ∧ first.Step last ∧ last.Follows ⟨1, 8⟩ ∧
      (last.machine.step last.canonical last.cursor).1 = .ok ⟨0, 36⟩ := by
  let ahead := (evicting [⟨⟨1, 8⟩, ⟨0, 32⟩, 7⟩]).ahead? (fun _ => True) 5
  let first := ahead.get (by decide +kernel)
  let last := first.next?.get (by decide +kernel)
  have step : first.Step last := (Option.some_get _).symm
  have table : first.machine.dispatch = .canonical :=
    dispatch_of_ahead? (dispatch_evicting _) (Option.some_get _).symm
  have dispatched : first.machine.Dispatches first.cursor
      ⟨⟨0, 28⟩, 0x07, 4, #[0x07, 4, 0, 0], .standard⟩ .ret :=
    Machine.fetch?_eq_some.mp (by decide +kernel)
  have top : first.machine.stack.frames = [.ret ⟨1, 8⟩] := by decide +kernel
  have follows : last.Follows ⟨1, 8⟩ := .ret (.of_dispatches table dispatched) top step
  refine ⟨first, last, through_of_ahead? (Option.some_get _).symm, ?_, ?_, ?_, step, follows, ?_⟩
  · decide +kernel
  · decide +kernel
  · decide +kernel
  · decide +kernel

end Run

end StageScript
