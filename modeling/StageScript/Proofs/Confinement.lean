import StageScript.Proofs.Accounting
import StageScript.Proofs.Calls
import StageScript.Proofs.Indifference
import StageScript.Proofs.Labels
import StageScript.Proofs.Refusal
import StageScript.Proofs.Rollback

/-!
Scripts that stay in their place. A script that enters no other one, jumps to its own labels only
and loads nothing over itself is never left: control is always at a place between two of its
statements or behind the last, and so is every place that a frame leads back to.
-/

namespace StageScript

open Assembly

namespace Assembly

def Target.isLabel : Target → Bool
  | .address _ => false
  | .label _ => true

theorem Target.exists_label {target : Target} (named : target.isLabel) :
    ∃ label, target = .label label := by
  cases target with
  | address => cases named
  | label label => exact ⟨label, rfl⟩

/-- A statement that leads nowhere but to labels and loads nothing into the segment. -/
def Statement.staysIn (segment : UInt8) : Statement → Bool
  | .execute .. | .exitAndExecute .. => false
  | .loadRaw other _ _ | .loadCompressed other _ _ => other != segment
  | .jump target | .jumpLink target | .jumpIf _ _ target | .jumpLinkIf _ _ target => target.isLabel
  | _ => true

theorem boundAt_cases (calls : List Call) (label : Label) :
    (∀ layout, boundAt layout calls label = none) ∨
      ∃ before after, statements calls = before ++ after ∧
        ∀ layout, boundAt layout calls label = some (lengthOf layout before) := by
  have further (labels : Nat) :
      (∀ layout offset, boundFrom layout label labels offset calls = none) ∨
        ∃ before after, statements calls = before ++ after ∧ ∀ layout offset,
          boundFrom layout label labels offset calls = some (offset + lengthOf layout before) := by
    induction calls generalizing labels with
    | nil => exact .inl fun _ _ => rfl
    | cons call rest ih =>
      by_cases binds : call.Binds label labels
      · exact .inr ⟨[], _, rfl, fun _ _ => if_pos binds⟩
      · have split : statements (call :: rest) = statements [call] ++ statements rest :=
          @statements_append [call] rest
        rcases ih (labels + created [call]) with none | ⟨before, after, written, bound⟩
        · refine .inl fun layout offset => ?_
          rw [boundFrom, if_neg binds, none]
        · refine .inr ⟨statements [call] ++ before, after, ?_, fun layout offset => ?_⟩
          · rw [split, written, List.append_assoc]
          · rw [boundFrom, if_neg binds, bound, lengthOf_append, Nat.add_assoc]
            rfl
  rcases further 0 with none | ⟨before, after, written, bound⟩
  · exact .inl fun layout => none layout 0
  · exact .inr ⟨before, after, written, fun layout => (bound layout 0).trans (by rw [Nat.zero_add])⟩

end Assembly

/-- A command that enters no other script and loads nothing into the segment. -/
def Instruction.Spares (segment : UInt8) : Instruction → Prop
  | .execute .. | .exitAndExecute .. => False
  | .loadRaw load | .loadCompressed load => load.segment.toInt ≠ segment.toNat
  | _ => True

theorem UInt8.toInt_toInt16 (value : UInt8) : value.toUInt16.toInt16.toInt = value.toNat := by
  have small := value.toNat_lt
  have whole : value.toUInt16.toInt16.toBitVec.toNat = value.toNat := by simp
  rw [Int16.toInt, BitVec.toInt_eq_toNat_of_lt (by omega), whole]

theorem Assembly.Statement.spares {segment : UInt8} {statement : Statement}
    (stays : statement.staysIn segment) (addressOf : Label → Address) :
    (statement.instruction addressOf).Spares segment := by
  cases statement with
  | loadRaw other | loadCompressed other =>
    intro same
    rw [UInt8.toInt_toInt16] at same
    exact (bne_iff_ne.mp stays) (UInt8.toNat_inj.mp (Int.ofNat.inj same))
  | execute | exitAndExecute => cases stays
  | _ => trivial

/-- A script that lies in a buffer, which its segment is mapped to. -/
structure Staging where
  segment : UInt8
  buffer : BufferId
  calls : List Call

namespace Staging

variable (staging : Staging) (layout : Layout)

def addressOf (label : Label) : Address := addressAt layout staging.segment 0 staging.calls label

def bytes : Bytes :=
  script layout ((statements staging.calls).map (Statement.resolve (staging.addressOf layout)))

def place (before : List Statement) : Pointer := ⟨staging.buffer, lengthOf layout before⟩

def IsPlace (pointer : Pointer) : Prop :=
  ∃ before after, statements staging.calls = before ++ after ∧ pointer = staging.place layout before

/-- Every statement stays in the script, and every label that is used has an address. -/
structure Sound : Prop where
  stays : ∀ statement ∈ statements staging.calls, statement.staysIn staging.segment
  linked : ∀ label ∈ targets staging.calls,
    offence? layout staging.segment 0 staging.calls label = none

variable {staging layout}

theorem Sound.exists_place (sound : staging.Sound layout) {label : Label}
    (used : label ∈ targets staging.calls) :
    ∃ before after, statements staging.calls = before ++ after ∧
      ∀ layout, boundAt layout staging.calls label = some (lengthOf layout before) := by
  obtain ⟨-, offset, bound, -⟩ := offence?_eq_none.mp (sound.linked label used)
  rcases boundAt_cases staging.calls label with never | found
  · rw [never] at bound
    cases bound
  · exact found

theorem Sound.resolve? (sound : staging.Sound layout) {label : Label} {before : List Statement}
    (used : label ∈ targets staging.calls)
    (bound : boundAt layout staging.calls label = some (lengthOf layout before))
    {memory : Memory} {bytes : Bytes}
    (holds : memory.Holds staging.segment 0 staging.buffer bytes) :
    memory.resolve? (staging.addressOf layout label) = some (staging.place layout before) := by
  obtain ⟨below, offset, again, small⟩ := offence?_eq_none.mp (sound.linked label used)
  obtain rfl : lengthOf layout before = offset := Option.some.inj (bound.symm.trans again)
  obtain ⟨named, placed⟩ := addressAt_of_bound below bound small
  exact holds.resolve? named placed

end Staging

namespace Memory

variable {memory after : Memory} {staging : Staging} {bytes : Bytes}

/-- The script lies in its buffer and is mapped, whatever checkpoints are popped. -/
structure Stages (staging : Staging) (bytes : Bytes) (memory : Memory) : Prop where
  live : memory.buffer? staging.buffer = some bytes
  mapped : memory.segments[staging.segment.toNat]?.join = some ⟨staging.buffer, 0⟩
  saved : ∀ checkpoint ∈ memory.checkpoints, staging.buffer < checkpoint.nextBuffer ∧
    checkpoint.segments[staging.segment.toNat]?.join = some ⟨staging.buffer, 0⟩

namespace Stages

theorem issued (stages : memory.Stages staging bytes) : staging.buffer < memory.slots.size :=
  lt_of_isLive (isLive_of_buffer? stages.live)

theorem holds (stages : memory.Stages staging bytes) :
    memory.Holds staging.segment 0 staging.buffer bytes :=
  ⟨stages.live, by rw [stages.mapped]; rfl⟩

theorem pushState (stages : memory.Stages staging bytes) :
    memory.pushState.Stages staging bytes where
  live := stages.live
  mapped := stages.mapped
  saved := List.forall_mem_cons.mpr ⟨⟨stages.issued, stages.mapped⟩, stages.saved⟩

theorem popState (stages : memory.Stages staging bytes) (popped : memory.popState = .ok after) :
    after.Stages staging bytes := by
  obtain ⟨checkpoint, outer, top, rfl⟩ := popState_eq_ok.mp popped
  have saved := stages.saved
  rw [top] at saved
  obtain ⟨⟨below, mapped⟩, saved⟩ := List.forall_mem_cons.mp saved
  have kept := memory.slot?_revert_of_lt outer below
  exact ⟨(congrArg (Option.map Buffer.bytes) kept).trans stages.live, mapped, saved⟩

theorem grow {buffer : Buffer} (stages : memory.Stages staging bytes)
    (pushed : after.slots = memory.slots.push (some buffer))
    (mapped : after.segments[staging.segment.toNat]? = memory.segments[staging.segment.toNat]?)
    (saved : after.checkpoints = memory.checkpoints) : after.Stages staging bytes where
  live := (congrArg (Option.map Buffer.bytes) (slot?_push_of_lt pushed stages.issued)).trans
    stages.live
  mapped := by rw [mapped, stages.mapped]
  saved := by rw [saved]; exact stages.saved

theorem loadFixed {dest : Address} {start stop : Nat} {buffer : BufferId}
    (stages : memory.Stages staging bytes)
    (loaded : memory.loadFixed dest start stop = .ok (buffer, after)) :
    after.Stages staging bytes := by
  obtain ⟨_, _, _, _, _, rfl⟩ := loadFixed_eq_ok loaded
  exact stages.grow rfl rfl rfl

theorem loadRange {load : SegmentLoad} {compression : Compression} {buffer : BufferId}
    (stages : memory.Stages staging bytes)
    (elsewhere : load.segment.toInt ≠ staging.segment.toNat)
    (loaded : memory.loadRange load compression = .ok (buffer, after)) :
    after.Stages staging bytes := by
  obtain ⟨index, _, _, found, _, _, _, rfl⟩ := loadSegment_eq_ok loaded
  refine stages.grow rfl ?_ rfl
  have other : index.val ≠ staging.segment.toNat := by
    unfold segmentIndex at found
    split at found
    next => cases found; simp only; omega
    next => cases found
  simp only [Vector.getElem?_set_ne _ other]

theorem moved {instruction : Instruction} (stages : memory.Stages staging bytes)
    (spares : instruction.Spares staging.segment) (moved : memory.Moved instruction after) :
    after.Stages staging bytes := by
  cases moved with
  | kept => exact stages
  | pushPool | initLevel => exact stages.pushState
  | popPool popped | clearLevel popped | exit popped => exact stages.popState popped
  | loadFixed loaded => exact stages.loadFixed loaded
  | loadRaw loaded | loadCompressed loaded => exact stages.loadRange spares loaded
  | executeUnresolved | execute | exitAndExecuteUnloaded | exitAndExecute => cases spares

end Stages

end Memory

def Frame.resume : Frame → Pointer
  | .ret resume => resume
  | .loop resume _ => resume

namespace Stack

variable {stack after : Stack}

theorem mem_of_popReturn {resume : Pointer} (popped : stack.popReturn = .ok (resume, after)) :
    .ret resume ∈ stack.frames := by
  obtain ⟨rest, frames, -⟩ := pop_eq_ok.mp (pop_of_popReturn popped)
  rw [frames]
  exact List.mem_cons_self

theorem mem_of_popLoop {resume : Pointer} {remaining : Int32}
    (popped : stack.popLoop = .ok ((resume, remaining), after)) :
    .loop resume remaining ∈ stack.frames := by
  obtain ⟨rest, frames, -⟩ := pop_eq_ok.mp (pop_of_popLoop popped)
  rw [frames]
  exact List.mem_cons_self

theorem Moved.resumes {following : Pointer} {instruction : Instruction} {flow : Except Fault Flow}
    (moved : Moved following stack instruction after flow) (stays : ¬instruction.opensScope)
    {property : Pointer → Prop} (here : property following)
    (before : ∀ frame ∈ stack.frames, property frame.resume) :
    ∀ frame ∈ after.frames, property frame.resume := by
  have pushed {frame : Frame} (resumes : frame.resume = following)
      (pushed : stack.push frame = .ok after) : ∀ frame ∈ after.frames, property frame.resume := by
    obtain ⟨_, rfl⟩ := push_eq_ok.mp pushed
    exact List.forall_mem_cons.mpr ⟨resumes ▸ here, before⟩
  have popped {top : Frame} (popped : stack.pop = .ok (top, after)) :
      ∀ frame ∈ after.frames, property frame.resume := by
    obtain ⟨rest, frames, rfl⟩ := pop_eq_ok.mp popped
    rw [frames] at before
    exact (List.forall_mem_cons.mp before).2
  cases moved with
  | kept => exact before
  | jumpLink _ was | jumpLinkIf _ was | loopBeginCount was | loopBegin was => exact pushed rfl was
  | execute | exitAndExecute => exact absurd rfl stays
  | exit was | ret was => exact popped (pop_of_popReturn was)
  | loopRepeat was | loopUntil was => exact popped (pop_of_popLoop was)
  | loopAgain _ left =>
    rcases stack.setRemaining_cases left with same | ⟨resume, remaining, rest, frames, same⟩
    · rwa [same]
    · rw [frames] at before
      rw [same]
      exact List.forall_mem_cons.mpr (List.forall_mem_cons.mp before)

end Stack

def Registry.Avoids (buffer : BufferId) (registry : Registry) : Prop :=
  ∀ override ∈ registry.overrides,
    override.original.buffer ≠ buffer ∧ override.replacement.buffer ≠ buffer

theorem Registry.avoids_empty (buffer : BufferId) : Registry.empty.Avoids buffer := by
  simp [Registry.Avoids, Registry.empty]

def Embedding.Avoids (E : Embedding) (buffer : BufferId) (function : E.HostFn) : Prop :=
  ∀ later, E.Becomes function later → ∀ context argument register,
    context.overrides.Avoids buffer →
      (E.callHost later context argument register).context.overrides.Avoids buffer

theorem Embedding.Avoids.later {E : Embedding} {buffer : BufferId} {function : E.HostFn}
    (avoids : E.Avoids buffer function) (context : HostContext) (argument : Int16)
    (register : Int32) : E.Avoids buffer (E.callHost function context argument register).later :=
  fun later becomes => avoids later (.head ⟨context, argument, register, rfl⟩ becomes)

theorem Embedding.Blind.avoids {E : Embedding} {function : E.HostFn} (blind : E.Blind function)
    (buffer : BufferId) : E.Avoids buffer function := by
  intro later becomes context argument register avoids
  rw [show context = { context with overrides := context.overrides } from rfl,
    blind later becomes context.overrides context argument register]
  exact avoids

namespace Machine

variable {E : Embedding} {machine : Machine E} {staging : Staging} {layout : Layout}
  {pointer : Pointer}

/-- Overrides that avoid a buffer lead nowhere else from it, and no stream is written there. -/
theorem followOverrides_of_avoids (avoids : machine.overrides.Avoids pointer.buffer) :
    machine.followOverrides pointer = (pointer, { machine with activeOwner := none }) := by
  have free : machine.overrides.overrides.find? (·.covers pointer) = none := by
    refine List.find?_eq_none.mpr fun override found covered => ?_
    obtain ⟨original, replacement⟩ := avoids override found
    rcases Override.covers_iff.mp covered with rfl | rfl
    · exact original rfl
    · exact replacement rfl
  have unwritten : machine.overrides.overrides.find? (·.streamsIn pointer.buffer) = none := by
    refine List.find?_eq_none.mpr fun override found streams => ?_
    simp [Override.streamsIn, (avoids override found).2] at streams
  simp only [followOverrides, Registry.resolve, Registry.streamOwner, free, unwritten]
  rfl

/-- What a machine keeps while it plays a script that stays in its place. -/
structure Plays (staging : Staging) (layout : Layout) (machine : Machine E) : Prop where
  laidOut : machine.config.layout = layout
  memory : machine.memory.Stages staging (staging.bytes layout)
  frames : ∀ frame ∈ machine.stack.frames, staging.IsPlace layout frame.resume
  table : machine.dispatch = .canonical
  overrides : machine.overrides.Avoids staging.buffer
  hosts : machine.AllHosts (E.Avoids staging.buffer)

theorem Plays.of_sameExcept {parts : List Part} {after : Machine E}
    (plays : machine.Plays staging layout) (same : machine.SameExcept parts after)
    (memory : .memory ∉ parts) (stack : .stack ∉ parts) (overrides : .overrides ∉ parts)
    (hosts : .hosts ∉ parts) : after.Plays staging layout where
  laidOut := by rw [same.config, plays.laidOut]
  memory := by rw [same.memory memory]; exact plays.memory
  frames := by rw [same.stack stack]; exact plays.frames
  table := by rw [same.dispatch, plays.table]
  overrides := by rw [same.overrides overrides]; exact plays.overrides
  hosts := plays.hosts.of_hosts (same.hosts hosts)

theorem Plays.overrides_exec (plays : machine.Plays staging layout) (instruction : Instruction)
    (following : Pointer) :
    (machine.exec instruction following).machine.overrides.Avoids staging.buffer :=
  exec_overrides_keeps (·.Avoids staging.buffer)
    (fun id function known => plays.hosts id function known function .refl) plays.overrides
    instruction following

theorem not_opensScope_of_spares {segment : UInt8} {instruction : Instruction}
    (spares : instruction.Spares segment) : ¬instruction.opensScope := by
  intro opens
  cases instruction with
  | execute | exitAndExecute => exact spares
  | _ => cases opens

theorem Plays.exec (plays : machine.Plays staging layout) {instruction : Instruction}
    (spares : instruction.Spares staging.segment) {following : Pointer}
    (here : staging.IsPlace layout following) :
    (machine.exec instruction following).machine.Plays staging layout where
  laidOut := by rw [(exec_sameExcept ..).config, plays.laidOut]
  memory := plays.memory.moved spares (machine.exec_memory_moved instruction following)
  frames := (machine.exec_moved instruction following).resumes (not_opensScope_of_spares spares)
    here plays.frames
  table := by rw [(exec_sameExcept ..).dispatch, plays.table]
  overrides := plays.overrides_exec instruction following
  hosts := plays.hosts.exec (fun _ avoids => avoids.later) instruction following

end Machine

namespace Assembly

variable {layout : Layout} {addressOf : Label → Address} {buffer : BufferId}

theorem decode_script_end (written : List Statement) :
    Command.decode layout (script layout (written.map (Statement.resolve addressOf)))
        ⟨buffer, lengthOf layout written⟩ =
      .error (.outsideBuffer ⟨buffer, lengthOf layout written⟩) := by
  rw [Command.decode, getElem?_script_end]

theorem pastFirst_script_end (passedOver : Option Opcode → Bool) (written : List Statement) :
    Machine.pastFirst layout (script layout (written.map (Statement.resolve addressOf))) passedOver
        ⟨buffer, lengthOf layout written⟩ =
      .error (.outsideBuffer ⟨buffer, lengthOf layout written⟩) := by
  rw [Machine.pastFirst]
  split
  next decoded =>
    rw [decode_script_end] at decoded
    cases decoded
    rfl
  next decoded =>
    rw [decode_script_end] at decoded
    cases decoded

theorem pastFirst_script_cons (passedOver : Option Opcode → Bool) (before rest : List Statement)
    (statement : Statement) :
    Machine.pastFirst layout
        (script layout ((before ++ statement :: rest).map (Statement.resolve addressOf)))
        passedOver ⟨buffer, lengthOf layout before⟩ =
      if passedOver (some statement.opcode) then
        Machine.pastFirst layout
          (script layout ((before ++ statement :: rest).map (Statement.resolve addressOf)))
          passedOver ⟨buffer, lengthOf layout (before ++ [statement])⟩
      else .ok ⟨buffer, lengthOf layout (before ++ [statement])⟩ := by
  have next : Pointer.advance ⟨buffer, lengthOf layout before⟩ (statement.length layout) =
      ⟨buffer, lengthOf layout (before ++ [statement])⟩ := by
    rw [lengthOf_append, lengthOf_singleton]
    rfl
  rw [Machine.pastFirst]
  split
  next decoded =>
    rw [decode_script] at decoded
    cases decoded
  next decoded =>
    rw [decode_script] at decoded
    cases decoded
    rw [statement.opcode?_command, statement.length_command, next]

/-- Skipping ends behind the same statements whatever the layout, or there is nothing behind the
last statement to skip to. -/
theorem pastFirst_script (passedOver : Option Opcode → Bool) (before rest : List Statement) :
    ∃ past after, before ++ rest = past ++ after ∧
      ((∀ layout addressOf buffer, Machine.pastFirst layout
          (script layout ((before ++ rest).map (Statement.resolve addressOf))) passedOver
          ⟨buffer, lengthOf layout before⟩ = .ok ⟨buffer, lengthOf layout past⟩) ∨
        ∀ layout addressOf buffer, Machine.pastFirst layout
          (script layout ((before ++ rest).map (Statement.resolve addressOf))) passedOver
          ⟨buffer, lengthOf layout before⟩ =
            .error (.outsideBuffer ⟨buffer, lengthOf layout past⟩)) := by
  induction rest generalizing before with
  | nil =>
    refine ⟨before, [], rfl, .inr fun layout addressOf buffer => ?_⟩
    rw [List.append_nil, pastFirst_script_end]
  | cons statement rest ih =>
    have round (layout : Layout) (addressOf : Label → Address) (buffer : BufferId) :=
      @pastFirst_script_cons layout addressOf buffer passedOver before rest statement
    by_cases passed : passedOver (some statement.opcode)
    · simp only [passed, if_true, List.append_cons before statement rest] at round ⊢
      obtain ⟨past, after, split, same⟩ := ih (before ++ [statement])
      refine ⟨past, after, split, ?_⟩
      simpa only [round] using same
    · simp only [passed] at round
      exact ⟨before ++ [statement], rest, List.append_cons _ _ _, .inl round⟩

end Assembly

theorem Staging.pastFirst (staging : Staging) (passedOver : Option Opcode → Bool)
    {before after : List Statement} (written : statements staging.calls = before ++ after) :
    ∃ past rest, statements staging.calls = past ++ rest ∧
      ((∀ layout, Machine.pastFirst layout (staging.bytes layout) passedOver
          (staging.place layout before) = .ok (staging.place layout past)) ∨
        ∀ layout, Machine.pastFirst layout (staging.bytes layout) passedOver
          (staging.place layout before) = .error (.outsideBuffer (staging.place layout past))) := by
  obtain ⟨past, rest, split, skipped⟩ := pastFirst_script passedOver before after
  rw [← written] at split skipped
  refine ⟨past, rest, split, ?_⟩
  rcases skipped with found | ended
  · exact .inl fun layout => found layout _ _
  · exact .inr fun layout => ended layout _ _

namespace Machine

variable {E : Embedding} {machine : Machine E} {staging : Staging} {layout : Layout}
  {target : Pointer}

theorem eq_of_push {frame : Frame} {flow other : Flow}
    (went : (machine.push frame flow).flow = .ok other) : other = flow := by
  unfold push at went
  split at went
  next => cases went
  next => exact (Except.ok.inj went).symm

theorem mem_frames_of_exit (went : machine.exit.flow = .ok (.goto target)) :
    ∃ frame ∈ machine.stack.frames, frame.resume = target := by
  rcases machine.exit_cases with ⟨_, same⟩ | ⟨_, _, same⟩ | ⟨_, _, popped, same⟩ <;>
    rw [same] at went <;> cases went
  exact ⟨_, Stack.mem_of_popReturn popped, rfl⟩

theorem mem_frames_of_ret (went : machine.ret.flow = .ok (.goto target)) :
    ∃ frame ∈ machine.stack.frames, frame.resume = target := by
  unfold ret at went
  split at went
  next => cases went
  next popped =>
    cases went
    exact ⟨_, Stack.mem_of_popReturn popped, rfl⟩

theorem mem_frames_of_loopRepeat (went : machine.loopRepeat.flow = .ok (.goto target)) :
    ∃ frame ∈ machine.stack.frames, frame.resume = target := by
  unfold loopRepeat at went
  split at went
  next => cases went
  next popped =>
    simp only at went
    split at went
    next => cases went
    next =>
      cases went
      exact ⟨_, Stack.mem_of_popLoop popped, rfl⟩

theorem mem_frames_of_loopUntil {condition : Condition}
    (went : (machine.loopUntil condition).flow = .ok (.goto target)) :
    ∃ frame ∈ machine.stack.frames, frame.resume = target := by
  unfold loopUntil at went
  split at went
  next => cases went
  next popped =>
    split at went
    next => cases went
    next =>
      cases went
      exact ⟨_, Stack.mem_of_popLoop popped, rfl⟩

theorem flow_of_whenHolds {condition : Condition} {address : Address}
    {jump : Address → Machine E → Outcome E}
    (went : (machine.whenHolds condition (.ok address) jump).flow = .ok (.goto target)) :
    (jump address machine).flow = .ok (.goto target) := by
  unfold whenHolds at went
  split at went
  next => exact went
  next => cases went

theorem Plays.skipPast_of_ok (plays : machine.Plays staging layout)
    {passedOver : Option Opcode → Bool} {before : List Statement}
    (found : pastFirst layout (staging.bytes layout) passedOver (staging.place layout before) =
      .ok target) :
    machine.skipPast passedOver (staging.place layout before) = machine.goto target := by
  have live : machine.memory.buffer? (staging.place layout before).buffer =
    some (staging.bytes layout) := plays.memory.live
  simp only [skipPast, live, plays.laidOut, found]

theorem Plays.skipPast_of_error (plays : machine.Plays staging layout)
    {passedOver : Option Opcode → Bool} {before : List Statement} {fault : ReadFault}
    (ended : pastFirst layout (staging.bytes layout) passedOver (staging.place layout before) =
      .error fault) :
    machine.skipPast passedOver (staging.place layout before) = machine.fault (.read fault) := by
  have live : machine.memory.buffer? (staging.place layout before).buffer =
    some (staging.bytes layout) := plays.memory.live
  simp only [skipPast, live, plays.laidOut, ended]

theorem Plays.isPlace_of_skipPast (plays : machine.Plays staging layout)
    {passedOver : Option Opcode → Bool} {before after : List Statement}
    (written : statements staging.calls = before ++ after)
    (went : (machine.skipPast passedOver (staging.place layout before)).flow = .ok (.goto target)) :
    staging.IsPlace layout target := by
  obtain ⟨past, rest, split, found | ended⟩ := staging.pastFirst passedOver written
  · rw [plays.skipPast_of_ok (found layout)] at went
    cases went
    exact ⟨past, rest, split, rfl⟩
  · rw [plays.skipPast_of_error (ended layout)] at went
    cases went

theorem Plays.exists_leads (plays : machine.Plays staging layout) (sound : staging.Sound layout)
    {label : Label} (used : label ∈ targets staging.calls) :
    ∃ place, staging.IsPlace layout place ∧
      machine.memory.resolve? (staging.addressOf layout label) = some place := by
  obtain ⟨before, after, written, bound⟩ := sound.exists_place used
  exact ⟨_, ⟨before, after, written, rfl⟩,
    sound.resolve? used (bound layout) plays.memory.holds⟩

theorem mem_targets {calls : List Call} {statement : Statement} {label : Label}
    (found : statement ∈ statements calls) (named : label ∈ statement.labels) :
    label ∈ targets calls :=
  List.mem_flatMap.mpr ⟨statement, found, named⟩

theorem Plays.isPlace_of_jump (plays : machine.Plays staging layout)
    (sound : staging.Sound layout) {label : Label} (used : label ∈ targets staging.calls)
    (went : (machine.jump (staging.addressOf layout label)).flow = .ok (.goto target)) :
    staging.IsPlace layout target := by
  obtain ⟨place, inside, leads⟩ := plays.exists_leads sound used
  simp only [jump, leads] at went
  cases went
  exact inside

theorem Plays.isPlace_of_jumpLink (plays : machine.Plays staging layout)
    (sound : staging.Sound layout) {label : Label} (used : label ∈ targets staging.calls)
    {back : Pointer}
    (went : (machine.jumpLink (staging.addressOf layout label) back).flow = .ok (.goto target)) :
    staging.IsPlace layout target := by
  obtain ⟨place, inside, leads⟩ := plays.exists_leads sound used
  simp only [jumpLink, leads] at went
  cases eq_of_push went
  exact inside

theorem Plays.isPlace_of_goto (plays : machine.Plays staging layout) (sound : staging.Sound layout)
    {statement : Statement} {before after : List Statement}
    (written : statements staging.calls = before ++ statement :: after)
    (went : (machine.exec (statement.instruction (staging.addressOf layout))
      (staging.place layout (before ++ [statement]))).flow = .ok (.goto target)) :
    staging.IsPlace layout target := by
  have listed : statement ∈ statements staging.calls := by simp [written]
  have behind : statements staging.calls = (before ++ [statement]) ++ after :=
    written.trans (List.append_cons _ _ _)
  have stays := sound.stays statement listed
  have back : (∃ frame ∈ machine.stack.frames, frame.resume = target) →
      staging.IsPlace layout target := by
    rintro ⟨frame, found, rfl⟩
    exact plays.frames frame found
  have used {label : Label} (named : label ∈ statement.labels) : label ∈ targets staging.calls :=
    mem_targets listed named
  cases statement with
  | exit => exact back (mem_frames_of_exit went)
  | ret => exact back (mem_frames_of_ret went)
  | loopRepeat => exact back (mem_frames_of_loopRepeat went)
  | loopUntil => exact back (mem_frames_of_loopUntil went)
  | loopBeginCount | loopBegin => cases eq_of_push went
  | skip => exact plays.isPlace_of_skipPast behind went
  | skipIf =>
    simp only [Statement.instruction, Machine.exec, skipIf] at went
    split at went
    next => cases went
    next => exact plays.isPlace_of_skipPast behind went
  | jump destination =>
    obtain ⟨label, rfl⟩ := Target.exists_label stays
    exact plays.isPlace_of_jump sound (used List.mem_cons_self) went
  | jumpLink destination =>
    obtain ⟨label, rfl⟩ := Target.exists_label stays
    exact plays.isPlace_of_jumpLink sound (used List.mem_cons_self) went
  | jumpIf _ _ destination =>
    obtain ⟨label, rfl⟩ := Target.exists_label stays
    exact plays.isPlace_of_jump sound (used List.mem_cons_self) (flow_of_whenHolds went)
  | jumpLinkIf _ _ destination =>
    obtain ⟨label, rfl⟩ := Target.exists_label stays
    exact plays.isPlace_of_jumpLink sound (used List.mem_cons_self) (flow_of_whenHolds went)
  | execute | exitAndExecute => cases stays
  | _ => exact absurd went (Outcome.Onward.not_goto (onward_exec rfl _ _))

theorem Plays.settle (plays : machine.Plays staging layout) (flow : Flow)
    {following cursor : Pointer} (inside : (flow.target following cursor).buffer = staging.buffer) :
    Machine.settle following cursor ⟨machine, .ok flow⟩ =
      (.ok (flow.target following cursor), { machine with activeOwner := none }) := by
  have avoids := plays.overrides
  rw [← inside] at avoids
  simp only [Machine.settle, followOverrides_of_avoids avoids]

theorem Plays.isPlace_target (plays : machine.Plays staging layout) (sound : staging.Sound layout)
    {statement : Statement} {before after : List Statement}
    (written : statements staging.calls = before ++ statement :: after) (flow : Flow)
    (went : (machine.exec (statement.instruction (staging.addressOf layout))
      (staging.place layout (before ++ [statement]))).flow = .ok flow) :
    staging.IsPlace layout (flow.target (staging.place layout (before ++ [statement]))
      (staging.place layout before)) := by
  cases flow with
  | next => exact ⟨_, after, written.trans (List.append_cons _ _ _), rfl⟩
  | hold => exact ⟨before, _, written, rfl⟩
  | goto target => exact plays.isPlace_of_goto sound written went

section Steps

variable [Patches E] {canonical : Bool}

theorem Plays.step_eq (plays : machine.Plays staging layout) {statement : Statement}
    {before after : List Statement}
    (written : statements staging.calls = before ++ statement :: after) :
    machine.step canonical (staging.place layout before) =
      Machine.settle (staging.place layout (before ++ [statement])) (staging.place layout before)
        (machine.exec (statement.instruction (staging.addressOf layout))
          (staging.place layout (before ++ [statement]))) := by
  obtain rfl := plays.laidOut
  have live := plays.memory.live
  rw [Staging.bytes, written] at live
  refine step_script before after live ?_
  rw [handler?_of_canonical plays.table, Opcode.ofCode?_code]
  rfl

theorem Plays.step_end (plays : machine.Plays staging layout) :
    machine.step canonical (staging.place layout (statements staging.calls)) =
      (.error (.read (.outsideBuffer (staging.place layout (statements staging.calls)))),
        machine) := by
  have live : machine.memory.buffer? (staging.place layout (statements staging.calls)).buffer =
    some (staging.bytes layout) := plays.memory.live
  have ended : Command.codeAt (staging.bytes layout)
      (staging.place layout (statements staging.calls)) =
      .error (.outsideBuffer (staging.place layout (statements staging.calls))) := by
    rw [Command.codeAt, Staging.bytes, Staging.place, getElem?_script_end]
  simp only [Machine.step, live, ended]

/-- A step from a place in the script leads to another one, if it leads anywhere. -/
theorem Plays.step (plays : machine.Plays staging layout) (sound : staging.Sound layout)
    {cursor : Pointer} (here : staging.IsPlace layout cursor) (canonical : Bool) :
    (machine.step canonical cursor).2.Plays staging layout ∧
      ∀ target, (machine.step canonical cursor).1 = .ok target → staging.IsPlace layout target := by
  obtain ⟨before, _ | ⟨statement, after⟩, written, rfl⟩ := here
  · rw [List.append_nil] at written
    rw [← written, plays.step_end]
    exact ⟨plays, fun _ went => by cases went⟩
  · have following : staging.IsPlace layout (staging.place layout (before ++ [statement])) :=
      ⟨_, after, written.trans (List.append_cons _ _ _), rfl⟩
    have listed : statement ∈ statements staging.calls := by simp [written]
    have spares := Statement.spares (sound.stays statement listed) (staging.addressOf layout)
    have kept := plays.exec spares following
    have leads := plays.isPlace_target sound written
    rw [plays.step_eq written]
    generalize machine.exec _ _ = outcome at kept leads
    obtain ⟨after, _ | flow⟩ := outcome
    · exact ⟨kept, fun _ went => by cases went⟩
    · obtain ⟨_, _, _, place⟩ := leads flow rfl
      rw [kept.settle flow (by rw [place]; rfl)]
      have same : after.SameExcept [.activeOwner] { after with activeOwner := none } := by
        constructor <;> simp
      refine ⟨kept.of_sameExcept same (by simp) (by simp) (by simp) (by simp), ?_⟩
      rintro _ ⟨⟩
      exact leads flow rfl

end Steps

end Machine

end StageScript
