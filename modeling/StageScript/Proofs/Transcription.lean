import StageScript.Proofs.Confinement
import StageScript.Proofs.Rewriting

/-!
The same script in two layouts. What a machine has of a script written in one layout, a second
machine has of it written in another: places in the script are as many commands from its start.
Commands that are given corresponding places and addresses do the same to both machines.
-/

namespace StageScript

open Assembly

/-- A script that is written in one layout, and in another one in its place. -/
structure Transcript extends Staging where
  source : Layout
  target : Layout

/-- Where a place in the script lies in the target layout; other places stay where they are. -/
def Transcript.move (transcript : Transcript) (pointer : Pointer) : Pointer :=
  if pointer.buffer = transcript.buffer then
    { pointer with offset := pointer.offset * transcript.target.pointerWidth.scale /
        transcript.source.pointerWidth.scale }
  else pointer

section Relocation

variable (move : Pointer → Pointer)

def ReadFault.relocate : ReadFault → ReadFault
  | .outsideBuffer pointer => .outsideBuffer (move pointer)
  | .zeroSize pointer code => .zeroSize (move pointer) code
  | .overrun pointer code bytes => .overrun (move pointer) code bytes
  | .operandOutside pointer code offset width => .operandOutside (move pointer) code offset width
  | .operandUnreachable pointer offset width => .operandUnreachable (move pointer) offset width
  | .invalidComparison pointer comparison => .invalidComparison (move pointer) comparison
  | .notAnAddress pointer value => .notAnAddress (move pointer) value

def Fault.relocate : Fault → Fault
  | .read fault => .read (fault.relocate move)
  | .danglingPointer pointer => .danglingPointer (move pointer)
  | fault => fault

def Flow.relocate : Flow → Flow
  | .goto target => .goto (move target)
  | flow => flow

def Frame.relocate : Frame → Frame
  | .ret resume => .ret (move resume)
  | .loop resume remaining => .loop (move resume) remaining

def Stack.relocate (stack : Stack) : Stack :=
  { stack with frames := stack.frames.map (Frame.relocate move) }

def relocate {α : Type} (change : α → α) : Except Fault α → Except Fault α
  | .ok value => .ok (change value)
  | .error fault => .error (fault.relocate move)

end Relocation

def Transcript.rewrite (transcript : Transcript) : Memory → Memory :=
  .rewrite transcript.buffer (transcript.bytes transcript.target)

def Surroundings.transcribe (transcript : Transcript) (seen : Option Pointer)
    (around : Surroundings) : Surroundings where
  layout := transcript.target
  memory := transcript.rewrite around.memory
  stack := around.stack.relocate transcript.move
  overrides := around.overrides
  cursor := seen

namespace Machine

variable {E : Embedding}

/-- The machine with the script in the target layout. Where the last execution has stopped is of no
concern to the next one and is given. -/
def transcribe (transcript : Transcript) (seen : Option Pointer) (machine : Machine E) :
    Machine E :=
  machine.within (machine.surroundings.transcribe transcript seen)

end Machine

def Outcome.transcribe {E : Embedding} (transcript : Transcript) (seen : Option Pointer)
    (outcome : Outcome E) : Outcome E where
  machine := outcome.machine.transcribe transcript seen
  flow := relocate transcript.move (Flow.relocate transcript.move) outcome.flow

namespace Stack

variable {move : Pointer → Pointer} {stack : Stack}

theorem push_relocate (frame : Frame) :
    (stack.relocate move).push (frame.relocate move) =
      (stack.push frame).map (relocate move) := by
  have slots : (frame.relocate move).slots = frame.slots := by cases frame <;> rfl
  have used : (stack.relocate move).used = stack.used := rfl
  simp only [push, ensureRoom, slots, used]
  by_cases full : stackSlots < stack.used + frame.slots
  · simp only [full, if_true]
    rfl
  · simp only [full, if_false]
    rfl

theorem drop_relocate (stack : Stack) (move : Pointer → Pointer) (top : Frame) (rest : List Frame) :
    (stack.relocate move).drop (top.relocate move) (rest.map (Frame.relocate move)) =
      (stack.drop top rest).relocate move := by
  have slots : (top.relocate move).slots = top.slots := by cases top <;> rfl
  simp only [drop, relocate, slots, List.length_map]

theorem popReturn_relocate :
    (stack.relocate move).popReturn = stack.popReturn.map (Prod.map move (relocate move)) := by
  rcases frames : stack.frames with _ | ⟨top | ⟨top, remaining⟩, rest⟩
  · simp only [popReturn, relocate, frames]
    rfl
  · have dropped := stack.drop_relocate move (.ret top) rest
    simp only [popReturn, frames]
    simp only [relocate, frames, List.map_cons, Frame.relocate] at dropped ⊢
    rw [dropped]
    rfl
  · simp only [popReturn, relocate, frames]
    rfl

theorem popLoop_relocate :
    (stack.relocate move).popLoop =
      stack.popLoop.map (Prod.map (Prod.map move id) (relocate move)) := by
  rcases frames : stack.frames with _ | ⟨top | ⟨top, remaining⟩, rest⟩
  · simp only [popLoop, relocate, frames]
    rfl
  · simp only [popLoop, relocate, frames]
    rfl
  · have dropped := stack.drop_relocate move (.loop top remaining) rest
    simp only [popLoop, frames]
    simp only [relocate, frames, List.map_cons, Frame.relocate] at dropped ⊢
    rw [dropped]
    rfl

theorem setRemaining_relocate (left : Int32) :
    (stack.relocate move).setRemaining left = (stack.setRemaining left).relocate move := by
  rcases frames : stack.frames with _ | ⟨top | ⟨top, remaining⟩, rest⟩ <;>
    simp only [setRemaining, relocate, frames, List.map_nil, List.map_cons, Frame.relocate]

end Stack

namespace Machine

variable {E : Embedding} {machine : Machine E} {transcript : Transcript} {seen : Option Pointer}

theorem attempt_transcribe {changed change : Except Diagnostic (Machine E)}
    (same : changed = change.map (transcribe transcript seen)) :
    (machine.transcribe transcript seen).attempt changed =
      (machine.attempt change).transcribe transcript seen := by
  rw [same]
  cases change <;> rfl

theorem popCheckpoint_transcribe (opcode : Opcode) :
    (machine.transcribe transcript seen).popCheckpoint opcode =
      (machine.popCheckpoint opcode).transcribe transcript seen := by
  have popped : (machine.transcribe transcript seen).memory.popState =
    machine.memory.popState.map transcript.rewrite := Memory.popState_rewrite
  simp only [popCheckpoint, popped]
  cases machine.memory.popState <;> rfl

theorem pushCheckpoint_transcribe :
    (machine.transcribe transcript seen).pushCheckpoint =
      machine.pushCheckpoint.transcribe transcript seen := by
  have pushed : (machine.transcribe transcript seen).memory.pushState =
    transcript.rewrite machine.memory.pushState := Memory.pushState_rewrite
  simp only [pushCheckpoint, pushed]
  rfl

theorem push_transcribe (frame : Frame) (flow : Flow) :
    (machine.transcribe transcript seen).push (frame.relocate transcript.move)
        (flow.relocate transcript.move) =
      (machine.push frame flow).transcribe transcript seen := by
  have pushed : (machine.transcribe transcript seen).stack.push (frame.relocate transcript.move) =
    (machine.stack.push frame).map (.relocate _) := machine.stack.push_relocate frame
  simp only [push, pushed]
  cases machine.stack.push frame <;> rfl

theorem exit_transcribe :
    (machine.transcribe transcript seen).exit = machine.exit.transcribe transcript seen := by
  have popped : (machine.transcribe transcript seen).stack.popReturn =
    machine.stack.popReturn.map (Prod.map transcript.move (.relocate _)) :=
      Stack.popReturn_relocate
  have frames : (machine.transcribe transcript seen).stack.frames =
    machine.stack.frames.map (Frame.relocate transcript.move) := rfl
  simp only [exit, popped, frames]
  cases machine.stack.frames with
  | nil => rfl
  | cons top rest =>
    simp only [List.map_cons]
    cases machine.stack.popReturn with
    | error fault => rfl
    | ok popped =>
      have closed := @popCheckpoint_transcribe E { machine with stack := popped.2 } transcript seen
        .exit
      exact congrArg (goto · (transcript.move popped.1)) closed

theorem ret_transcribe :
    (machine.transcribe transcript seen).ret = machine.ret.transcribe transcript seen := by
  have popped : (machine.transcribe transcript seen).stack.popReturn =
    machine.stack.popReturn.map (Prod.map transcript.move (.relocate _)) :=
      Stack.popReturn_relocate
  simp only [ret, popped]
  cases machine.stack.popReturn <;> rfl

theorem loopRepeat_transcribe :
    (machine.transcribe transcript seen).loopRepeat =
      machine.loopRepeat.transcribe transcript seen := by
  have popped : (machine.transcribe transcript seen).stack.popLoop =
    machine.stack.popLoop.map (Prod.map (Prod.map transcript.move id) (.relocate _)) :=
      Stack.popLoop_relocate
  have set (left : Int32) : (machine.transcribe transcript seen).stack.setRemaining left =
    (machine.stack.setRemaining left).relocate _ := Stack.setRemaining_relocate left
  simp only [loopRepeat, popped, set]
  cases machine.stack.popLoop with
  | error fault => rfl
  | ok popped =>
    simp only [apply_ite (Outcome.transcribe transcript seen)]
    rfl

theorem loopUntil_transcribe (condition : Condition) :
    (machine.transcribe transcript seen).loopUntil condition =
      (machine.loopUntil condition).transcribe transcript seen := by
  have popped : (machine.transcribe transcript seen).stack.popLoop =
    machine.stack.popLoop.map (Prod.map (Prod.map transcript.move id) (.relocate _)) :=
      Stack.popLoop_relocate
  simp only [loopUntil, popped]
  cases machine.stack.popLoop with
  | error fault => rfl
  | ok popped =>
    simp only [apply_ite (Outcome.transcribe transcript seen)]
    rfl

/-- Two addresses lead to a place before and after it is moved. -/
structure Leads (transcript : Transcript) (machine : Machine E) (address other : Address)
    (place : Pointer) : Prop where
  here : machine.memory.resolve? address = some place
  there : machine.memory.resolve? other = some (transcript.move place)

theorem Leads.transcribe {address other : Address} {place : Pointer}
    (leads : machine.Leads transcript address other place) :
    (machine.transcribe transcript seen).memory.resolve? other = some (transcript.move place) :=
  (Memory.resolve?_rewrite other).trans leads.there

theorem jump_transcribe {address other : Address} {place : Pointer}
    (leads : machine.Leads transcript address other place) :
    (machine.transcribe transcript seen).jump other =
      (machine.jump address).transcribe transcript seen := by
  simp only [jump, leads.transcribe, leads.here]
  rfl

theorem jumpLink_transcribe {address other : Address} {place : Pointer}
    (leads : machine.Leads transcript address other place) (back : Pointer) :
    (machine.transcribe transcript seen).jumpLink other (transcript.move back) =
      (machine.jumpLink address back).transcribe transcript seen := by
  simp only [jumpLink, leads.transcribe, leads.here]
  exact push_transcribe (.ret back) (.goto place)

theorem whenHolds_transcribe (condition : Condition) {address other : Address}
    (jump again : Address → Machine E → Outcome E)
    (same : again other (machine.transcribe transcript seen) =
      (jump address machine).transcribe transcript seen) :
    (machine.transcribe transcript seen).whenHolds condition (.ok other) again =
      (machine.whenHolds condition (.ok address) jump).transcribe transcript seen := by
  simp only [whenHolds, same, apply_ite (Outcome.transcribe transcript seen)]
  rfl

theorem holdWhileZero_transcribe (value : Int32) (machine : Machine E) :
    (machine.transcribe transcript seen).holdWhileZero value =
      (machine.holdWhileZero value).transcribe transcript seen := by
  simp only [holdWhileZero, apply_ite (Outcome.transcribe transcript seen)]
  rfl

theorem invokeHost_transcribe (id : UInt32) (argument : Int16) :
    (machine.transcribe transcript seen).invokeHost id argument =
      (machine.invokeHost id argument).map fun reply =>
        (reply.1, reply.2.transcribe transcript seen) := by
  simp only [invokeHost, transcribe, within]
  cases machine.hosts[id]? <;> rfl

theorem call_transcribe (argument : Int16) (function : UInt32) :
    (machine.transcribe transcript seen).call argument function =
      (machine.call argument function).transcribe transcript seen := by
  simp only [call, invokeHost_transcribe]
  cases machine.invokeHost function argument <;> rfl

theorem callLoop_transcribe (argument : Int16) (function : UInt32) :
    (machine.transcribe transcript seen).callLoop argument function =
      (machine.callLoop argument function).transcribe transcript seen := by
  simp only [callLoop, invokeHost_transcribe]
  cases machine.invokeHost function argument with
  | error diagnostic => rfl
  | ok reply => exact holdWhileZero_transcribe reply.1 (reply.2.setRegister reply.1)

theorem loadFixed_transcribe (issued : transcript.buffer < machine.memory.slots.size)
    (dest : Address) (start stop : UInt32) :
    (machine.transcribe transcript seen).loadFixed dest start stop =
      (machine.loadFixed dest start stop).transcribe transcript seen := by
  have loaded : (machine.transcribe transcript seen).memory.loadFixed dest start.toNat stop.toNat =
    (machine.memory.loadFixed dest start.toNat stop.toNat).map (Prod.map id transcript.rewrite) :=
      Memory.loadFixed_rewrite issued dest _ _
  refine attempt_transcribe ?_
  rw [loaded]
  cases machine.memory.loadFixed dest start.toNat stop.toNat <;> rfl

theorem loadContent_transcribe (issued : transcript.buffer < machine.memory.slots.size)
    (opcode : Opcode) (load : SegmentLoad) (compression : Compression) :
    (machine.transcribe transcript seen).loadContent opcode load compression =
      (machine.loadContent opcode load compression).transcribe transcript seen := by
  have loaded : (machine.transcribe transcript seen).memory.loadRange load compression =
    (machine.memory.loadRange load compression).map (Prod.map id transcript.rewrite) :=
      Memory.loadSegment_rewrite issued _ _ _ _
  refine attempt_transcribe ?_
  rw [load_eq, load_eq, loaded]
  cases machine.memory.loadRange load compression <;> rfl

theorem initLevel_transcribe :
    (machine.transcribe transcript seen).initLevel =
      machine.initLevel.transcribe transcript seen := by
  let opened := { machine with
    scene := machine.scene.initLevel
    level := machine.level.clearAreas }
  have saved := @pushCheckpoint_transcribe E opened transcript seen
  exact congrArg Machine.next saved

theorem clearLevel_transcribe :
    (machine.transcribe transcript seen).clearLevel =
      machine.clearLevel.transcribe transcript seen := by
  let cleared := { machine with
    scene := machine.scene.clearObjects
    level := machine.level.clearAreas }
  have closed := @popCheckpoint_transcribe E cleared transcript seen .clearLevel
  exact congrArg Machine.next closed

/-- A statement that has to do with nothing around it names no label, and does the same to both
machines. -/
theorem exec_transcribe_of_interior {statement : Statement} {addressOf : Label → Address}
    (interior : (statement.instruction addressOf).isInterior) {otherAddressOf : Label → Address}
    (following other : Pointer) :
    (machine.transcribe transcript seen).exec (statement.instruction otherAddressOf) other =
      (machine.exec (statement.instruction addressOf) following).transcribe transcript seen := by
  have plain : statement.instruction otherAddressOf = statement.instruction addressOf := by
    cases statement <;> first | rfl | cases interior
  have onward : (statement.instruction addressOf).isOnward := by
    cases statement <;> first | rfl | cases interior
  have same := exec_within_change (Surroundings.transcribe transcript seen) interior following other
    machine
  have onwards := onward_exec onward following machine
  rw [transcribe, plain, same]
  generalize machine.exec (statement.instruction addressOf) following = outcome at onwards
  obtain ⟨after, flow⟩ := outcome
  rcases onwards with next | hold
  · cases next
    rfl
  · cases hold
    rfl

end Machine

theorem Assembly.lengthOf_eq (layout : Layout) (written : List Statement) :
    lengthOf layout written =
      (written.map fun statement => statement.opcode.size.toNat).sum *
        layout.pointerWidth.scale := by
  induction written with
  | nil => exact (Nat.zero_mul _).symm
  | cons statement rest ih =>
    have split : lengthOf layout (statement :: rest) =
      statement.length layout + lengthOf layout rest := List.sum_cons
    rw [split, ih, List.map_cons, List.sum_cons, Nat.add_mul]
    rfl

theorem Transcript.move_place (transcript : Transcript) (before : List Statement) :
    transcript.move (transcript.place transcript.source before) =
      transcript.place transcript.target before := by
  have scaled : 0 < transcript.source.pointerWidth.scale := by
    cases transcript.source.pointerWidth <;> decide
  simp only [move, Staging.place, if_true, lengthOf_eq]
  rw [Nat.mul_right_comm, Nat.mul_div_cancel _ scaled]

namespace Machine

variable {E : Embedding} {machine : Machine E} {transcript : Transcript} {seen : Option Pointer}

theorem Plays.transcribe (plays : machine.Plays transcript.toStaging transcript.source) :
    (machine.transcribe transcript seen).Plays transcript.toStaging transcript.target where
  laidOut := rfl
  memory := {
    live := Memory.buffer?_rewrite (Memory.isLive_of_buffer? plays.memory.live)
    mapped := plays.memory.mapped
    saved := plays.memory.saved }
  frames := by
    intro frame found
    obtain ⟨before, held, rfl⟩ := List.mem_map.mp found
    obtain ⟨past, rest, written, place⟩ := plays.frames before held
    refine ⟨past, rest, written, ?_⟩
    rw [← transcript.move_place, ← place]
    cases before <;> rfl
  table := plays.table
  overrides := plays.overrides
  hosts := plays.hosts

section Script

variable (plays : machine.Plays transcript.toStaging transcript.source)
include plays

theorem Plays.leads (sound : transcript.Sound transcript.source)
    (other : transcript.Sound transcript.target) {label : Label}
    (used : label ∈ targets transcript.calls) :
    ∃ place, machine.Leads transcript (transcript.addressOf transcript.source label)
      (transcript.addressOf transcript.target label) place := by
  obtain ⟨before, _, -, bound⟩ := sound.exists_place used
  refine ⟨transcript.place transcript.source before, ?_, ?_⟩
  · exact sound.resolve? used (bound _) plays.memory.holds
  · rw [transcript.move_place]
    exact other.resolve? used (bound _) plays.memory.holds

theorem Plays.skipPast_transcribe (passedOver : Option Opcode → Bool)
    {before after : List Statement} (written : statements transcript.calls = before ++ after) :
    (machine.transcribe transcript seen).skipPast passedOver
        (transcript.place transcript.target before) =
      (machine.skipPast passedOver (transcript.place transcript.source before)).transcribe
        transcript seen := by
  have there : (machine.transcribe transcript seen).Plays transcript.toStaging transcript.target :=
    plays.transcribe
  obtain ⟨past, rest, split, found | ended⟩ := transcript.pastFirst passedOver written
  · rw [plays.skipPast_of_ok (found _), there.skipPast_of_ok (found _),
      ← transcript.move_place]
    rfl
  · rw [plays.skipPast_of_error (ended _), there.skipPast_of_error (ended _),
      ← transcript.move_place]
    rfl

/-- A statement does to the machine with the script in one layout what it does to the machine with
the script in the other. -/
theorem Plays.exec_transcribe (sound : transcript.Sound transcript.source)
    (other : transcript.Sound transcript.target) {statement : Statement}
    {before after : List Statement}
    (written : statements transcript.calls = before ++ statement :: after) :
    (machine.transcribe transcript seen).exec
        (statement.instruction (transcript.addressOf transcript.target))
        (transcript.place transcript.target (before ++ [statement])) =
      (machine.exec (statement.instruction (transcript.addressOf transcript.source))
        (transcript.place transcript.source (before ++ [statement]))).transcribe transcript
          seen := by
  have listed : statement ∈ statements transcript.calls := by simp [written]
  have behind : statements transcript.calls = (before ++ [statement]) ++ after :=
    written.trans (List.append_cons _ _ _)
  have stays := sound.stays statement listed
  have issued := plays.memory.issued
  have leads {label : Label} (named : label ∈ statement.labels) :=
    plays.leads sound other (mem_targets listed named)
  rw [← transcript.move_place]
  cases statement with
  | exit => exact exit_transcribe
  | ret => exact ret_transcribe
  | loopRepeat => exact loopRepeat_transcribe
  | loopUntil => exact loopUntil_transcribe _
  | loopBeginCount count => exact push_transcribe (.loop _ count.toInt32) .next
  | loopBegin => exact push_transcribe (.loop _ 0) .next
  | skip =>
    rw [transcript.move_place]
    exact plays.skipPast_transcribe _ behind
  | skipIf comparison literal =>
    rw [transcript.move_place]
    simp only [Statement.instruction, Machine.exec, skipIf, plays.skipPast_transcribe _ behind,
      apply_ite (Outcome.transcribe transcript seen)]
    rfl
  | jump destination =>
    obtain ⟨label, rfl⟩ := Target.exists_label stays
    obtain ⟨place, leads⟩ := leads List.mem_cons_self
    exact jump_transcribe leads
  | jumpLink destination =>
    obtain ⟨label, rfl⟩ := Target.exists_label stays
    obtain ⟨place, leads⟩ := leads List.mem_cons_self
    exact jumpLink_transcribe leads _
  | jumpIf comparison literal destination =>
    obtain ⟨label, rfl⟩ := Target.exists_label stays
    obtain ⟨place, leads⟩ := leads List.mem_cons_self
    exact whenHolds_transcribe _ Machine.jump Machine.jump (jump_transcribe leads)
  | jumpLinkIf comparison literal destination =>
    obtain ⟨label, rfl⟩ := Target.exists_label stays
    obtain ⟨place, leads⟩ := leads List.mem_cons_self
    exact whenHolds_transcribe _ (jumpLink · _) (jumpLink · _) (jumpLink_transcribe leads _)
  | call argument function => exact call_transcribe argument function
  | callLoop argument function => exact callLoop_transcribe argument function
  | pushPool => exact congrArg Machine.next pushCheckpoint_transcribe
  | popPool => exact congrArg Machine.next (popCheckpoint_transcribe .popPool)
  | loadFixed dest start stop => exact loadFixed_transcribe issued dest start stop
  | loadRaw | loadCompressed => exact loadContent_transcribe issued _ _ _
  | initLevel => exact initLevel_transcribe
  | clearLevel => exact clearLevel_transcribe
  | allocLevelPool => rfl
  | execute | exitAndExecute => cases stays
  | _ => exact exec_transcribe_of_interior rfl _ _

end Script

end Machine

end StageScript
