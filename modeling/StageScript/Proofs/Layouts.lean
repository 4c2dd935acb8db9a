import StageScript.Proofs.Invisibility
import StageScript.Proofs.Transcription

/-!
Scripts mean the same in every layout. Two machines that differ in their layout, and in that each
has a script as it is assembled for its layout, take the same steps and come to the same ends, as
long as the script stays in its place; only the offsets of places in the script are scaled.
-/

namespace StageScript

open Assembly

namespace Machine

variable {E : Embedding} {machine : Machine E} {transcript : Transcript} {seen : Option Pointer}

theorem followOverrides_transcribe {pointer : Pointer}
    (avoids : machine.overrides.Avoids transcript.buffer)
    (inside : pointer.buffer = transcript.buffer) :
    (machine.transcribe transcript seen).followOverrides (transcript.move pointer) =
      Prod.map transcript.move (transcribe transcript seen) (machine.followOverrides pointer) := by
  have moved : (transcript.move pointer).buffer = transcript.buffer := by
    rw [Transcript.move, if_pos inside]
    exact inside
  have here : machine.overrides.Avoids pointer.buffer := by rwa [inside]
  have there : (machine.transcribe transcript seen).overrides.Avoids
    (transcript.move pointer).buffer := by rwa [moved]
  rw [followOverrides_of_avoids here, followOverrides_of_avoids there]
  rfl

theorem settle_transcribe {following cursor : Pointer} {outcome : Outcome E}
    (avoids : outcome.machine.overrides.Avoids transcript.buffer)
    (inside : ∀ flow, outcome.flow = .ok flow →
      (flow.target following cursor).buffer = transcript.buffer) :
    settle (transcript.move following) (transcript.move cursor)
        (outcome.transcribe transcript seen) =
      Prod.map (relocate transcript.move transcript.move) (transcribe transcript seen)
        (settle following cursor outcome) := by
  obtain ⟨after, _ | flow⟩ := outcome
  · rfl
  · have target : (flow.relocate transcript.move).target (transcript.move following)
        (transcript.move cursor) = transcript.move (flow.target following cursor) := by
      cases flow <;> rfl
    have followed := @followOverrides_transcribe E after transcript seen _ avoids (inside flow rfl)
    simp only [settle, Outcome.transcribe, relocate, target, followed]
    rfl

section Steps

variable [Patches E] {cursor : Pointer} (sound : transcript.Sound transcript.source)
  (soundThere : transcript.Sound transcript.target)
include sound soundThere

theorem Plays.step_transcribe (plays : machine.Plays transcript.toStaging transcript.source)
    (here : transcript.IsPlace transcript.source cursor) (canonical : Bool)
    (seen : Option Pointer) :
    (machine.transcribe transcript seen).step canonical (transcript.move cursor) =
      Prod.map (relocate transcript.move transcript.move) (Machine.transcribe transcript seen)
        (machine.step canonical cursor) := by
  obtain ⟨before, _ | ⟨statement, after⟩, written, rfl⟩ := here
  · rw [List.append_nil] at written
    rw [← written, transcript.move_place, plays.step_end, plays.transcribe.step_end,
      ← transcript.move_place]
    rfl
  · have following : transcript.IsPlace transcript.source
        (transcript.place transcript.source (before ++ [statement])) :=
      ⟨_, after, written.trans (List.append_cons _ _ _), rfl⟩
    have listed : statement ∈ statements transcript.calls := by simp [written]
    have spares := Statement.spares (sound.stays statement listed)
      (transcript.addressOf transcript.source)
    have kept := plays.exec spares following
    have leads := plays.isPlace_target sound written
    rw [transcript.move_place, plays.step_eq written, plays.transcribe.step_eq written,
      plays.exec_transcribe sound soundThere written]
    rw [← transcript.move_place, ← transcript.move_place]
    refine settle_transcribe kept.overrides fun flow went => ?_
    obtain ⟨_, _, _, place⟩ := leads flow went
    rw [place]
    rfl

end Steps

end Machine

def Machine.Ending.transcribe {E : Embedding} (transcript : Transcript) (seen : Option Pointer)
    (ending : Machine.Ending E) : Machine.Ending E where
  result := relocate transcript.move transcript.move ending.result
  cursor := transcript.move ending.cursor
  machine := ending.machine.transcribe transcript seen

namespace Run

variable {E : Embedding}

def transcribe (transcript : Transcript) (seen : Option Pointer) (run : Run E) : Run E :=
  ⟨run.canonical, transcript.move run.cursor, run.machine.transcribe transcript seen⟩

/-- The run is at a place in a script that its machine plays. -/
structure Stays (staging : Staging) (layout : Layout) (run : Run E) : Prop where
  plays : run.machine.Plays staging layout
  here : staging.IsPlace layout run.cursor

variable {staging : Staging} {layout : Layout} {transcript : Transcript} {seen : Option Pointer}
  {machine : Machine E} {pointer : Pointer}

section Start

theorem start_stays (plays : machine.Plays staging layout)
    (here : staging.IsPlace layout pointer) : (start pointer machine).Stays staging layout where
  plays := plays.of_sameExcept (start_sameExcept pointer machine) (by simp) (by simp) (by simp)
    (by simp)
  here := by
    obtain ⟨before, after, written, rfl⟩ := here
    have avoids : machine.begin.selectTable.2.overrides.Avoids staging.buffer := by
      rw [(machine.begin.selectTable_sameExcept).overrides (by simp)]
      exact plays.overrides
    refine ⟨before, after, written, ?_⟩
    exact congrArg Prod.fst (Machine.followOverrides_of_avoids avoids)

theorem start_transcribe (plays : machine.Plays transcript.toStaging transcript.source)
    (here : transcript.IsPlace transcript.source pointer) :
    start (transcript.move pointer) (machine.transcribe transcript seen) =
      (start pointer machine).transcribe transcript seen := by
  obtain ⟨before, after, written, rfl⟩ := here
  have avoids : machine.begin.selectTable.2.overrides.Avoids transcript.buffer := by
    rw [(machine.begin.selectTable_sameExcept).overrides (by simp)]
    exact plays.overrides
  have selected : (machine.transcribe transcript seen).begin.selectTable =
      Prod.map id (Machine.transcribe transcript seen) machine.begin.selectTable := by
    have table : (machine.transcribe transcript seen).begin.dispatch = machine.begin.dispatch := rfl
    simp only [Machine.selectTable, table]
    cases machine.begin.dispatch.tampered <;> rfl
  have followed := @Machine.followOverrides_transcribe E _ transcript seen
    (transcript.place transcript.source before) avoids rfl
  simp only [start, selected, Prod.map, followed]
  rfl

end Start

theorem finish_transcribe {ending : Machine.Ending E} :
    Machine.finish (ending.transcribe transcript seen) =
      (relocate transcript.move transcript.move (Machine.finish ending).1,
        (Machine.finish ending).2.transcribe transcript
          ((Machine.finish ending).2.context.cursor.map transcript.move)) := by
  obtain ⟨_ | _, cursor, machine⟩ := ending <;> rfl

variable [Patches E] {first run next : Run E} {ending : Machine.Ending E}

theorem Stays.step (stays : run.Stays staging layout) (sound : staging.Sound layout)
    (step : run.Step next) : next.Stays staging layout := by
  have kept := stays.plays.step sound stays.here run.canonical
  rw [(step_iff.mp step).2.1] at kept
  exact ⟨kept.1, kept.2 next.cursor rfl⟩

theorem Stays.steps (stays : first.Stays staging layout) (sound : staging.Sound layout)
    (steps : Relation.ReflTransGen Step first run) : run.Stays staging layout := by
  induction steps with
  | refl => exact stays
  | tail _ step ih => exact ih.step sound step

theorem Stays.ends (stays : run.Stays staging layout) (sound : staging.Sound layout)
    (ended : run.Ends ending) :
    ending.machine.Plays staging layout ∧ staging.IsPlace layout ending.cursor := by
  have stepped := (stays.plays.step sound stays.here run.canonical).1
  refine ⟨ended.keeps stays.plays stepped, ?_⟩
  cases ended <;> exact stays.here

section Simulation

variable (sound : transcript.Sound transcript.source)
  (soundThere : transcript.Sound transcript.target)
include sound soundThere

theorem Stays.next?_transcribe
    (stays : run.Stays transcript.toStaging transcript.source) :
    (run.transcribe transcript seen).next? = run.next?.map (transcribe transcript seen) := by
  have status : (run.transcribe transcript seen).machine.context.status =
    run.machine.context.status := rfl
  have stepped := stays.plays.step_transcribe sound soundThere stays.here run.canonical seen
  simp only [next?, status]
  split
  next => rfl
  next =>
    simp only [transcribe, stepped]
    rcases run.machine.step run.canonical run.cursor with ⟨_ | _, _⟩ <;> rfl

theorem Stays.reached?_transcribe
    (stays : first.Stays transcript.toStaging transcript.source) (taken : Nat) :
    (first.transcribe transcript seen).reached? taken =
      (first.reached? taken).map (transcribe transcript seen) := by
  induction taken with
  | zero => rfl
  | succ taken ih =>
    simp only [reached?, ih]
    cases reached : first.reached? taken with
    | none => rfl
    | some run =>
      have still := stays.steps sound (reached?_eq_some.mp reached).steps
      have limit : (run.transcribe transcript seen).Allows taken ↔ run.Allows taken := .rfl
      simp only [Option.map_some, Option.bind_eq_bind, Option.bind_some, limit,
        still.next?_transcribe sound soundThere]
      split <;> rfl

theorem Stays.steps_transcribe
    (stays : run.Stays transcript.toStaging transcript.source) (fuel taken : Nat)
    (seen : Option Pointer) :
    Machine.steps run.canonical fuel taken (transcript.move run.cursor)
        (run.machine.transcribe transcript seen) =
      (Machine.steps run.canonical fuel taken run.cursor run.machine).map
        (Machine.Ending.transcribe transcript seen) := by
  induction fuel generalizing taken run with
  | zero => rfl
  | succ fuel ih =>
    have config : (run.machine.transcribe transcript seen).config.stepLimit =
      run.machine.config.stepLimit := rfl
    have context : (run.machine.transcribe transcript seen).context.status =
      run.machine.context.status := rfl
    have stepped := stays.plays.step_transcribe sound soundThere stays.here run.canonical seen
    simp only [Machine.steps, config, context, stepped]
    split
    next => rfl
    next running =>
      split
      next => rfl
      next =>
        cases went : run.machine.step run.canonical run.cursor with
        | mk result after =>
          cases result with
          | error fault => rfl
          | ok target =>
            have step : run.Step ⟨run.canonical, target, after⟩ :=
              step_iff.mpr ⟨Decidable.of_not_not running, went, rfl⟩
            exact ih (stays.step sound step) (taken + 1)

end Simulation

end Run

namespace Machine

variable {E : Embedding} [Patches E]

/-- Executions one after the other, each from where the one before has stopped: where the next one
is to begin, and on which machine. Absent when the fuel of one of them does not last. -/
def executions : List Nat → Pointer → Machine E → Option (Pointer × Machine E)
  | [], start, machine => some (start, machine)
  | fuel :: rest, start, machine => do
    let (_, after) ← machine.execute? fuel start
    executions rest (after.context.cursor.getD start) after

/-- From corresponding places the machines take the same steps and come to the same ends. -/
structure Alike (transcript : Transcript) (start : Pointer) (machine other : Machine E) : Prop where
  same : other = machine.transcribe transcript other.context.cursor
  executes : ∀ fuel, other.execute? fuel (transcript.move start) =
    (machine.execute? fuel start).map fun ended =>
      (relocate transcript.move transcript.move ended.1,
        ended.2.transcribe transcript (ended.2.context.cursor.map transcript.move))
  reaches : ∀ taken, (Run.start (transcript.move start) other).reached? taken =
    ((Run.start start machine).reached? taken).map (Run.transcribe transcript other.context.cursor)

variable {machine : Machine E} {staging : Staging} {layout : Layout} {transcript : Transcript}
  {start : Pointer}

theorem Plays.execute? (plays : machine.Plays staging layout) (sound : staging.Sound layout)
    (here : staging.IsPlace layout start) {fuel : Nat} {result : Except Fault Pointer}
    {after : Machine E} (ran : machine.execute? fuel start = some (result, after)) :
    after.Plays staging layout ∧
      ∃ stopped, after.context.cursor = some stopped ∧ staging.IsPlace layout stopped := by
  obtain ⟨last, ending, steps, ended, finished⟩ := Run.ends_of_execute? ran
  have stays := (Run.start_stays plays here).steps sound steps
  obtain ⟨kept, stopped⟩ := stays.ends sound ended
  have same := finish_sameExcept ending
  have cursor : (finish ending).2.context.cursor = some ending.cursor := rfl
  rw [finished] at same cursor
  exact ⟨kept.of_sameExcept same (by simp) (by simp) (by simp) (by simp), _, cursor, stopped⟩

section Simulation

variable (sound : transcript.Sound transcript.source)
  (soundThere : transcript.Sound transcript.target)
include sound soundThere

theorem Plays.execute?_transcribe
    (plays : machine.Plays transcript.toStaging transcript.source)
    (here : transcript.IsPlace transcript.source start) (fuel : Nat) (seen : Option Pointer) :
    (machine.transcribe transcript seen).execute? fuel (transcript.move start) =
      (machine.execute? fuel start).map fun ended =>
        (relocate transcript.move transcript.move ended.1,
          ended.2.transcribe transcript (ended.2.context.cursor.map transcript.move)) := by
  have executes (machine : Machine E) (pointer : Pointer) : machine.execute? fuel pointer =
      (steps (Run.start pointer machine).canonical fuel 0 (Run.start pointer machine).cursor
        (Run.start pointer machine).machine).map finish := rfl
  have stepped := (Run.start_stays plays here).steps_transcribe sound soundThere fuel 0 seen
  rw [executes, executes, Run.start_transcribe plays here]
  simp only [Run.transcribe, stepped, Option.map_map]
  congr 1
  funext ending
  exact Run.finish_transcribe

theorem Plays.alike (plays : machine.Plays transcript.toStaging transcript.source)
    (here : transcript.IsPlace transcript.source start) (seen : Option Pointer) :
    machine.Alike transcript start (machine.transcribe transcript seen) where
  same := rfl
  executes fuel := plays.execute?_transcribe sound soundThere here fuel seen
  reaches taken := by
    rw [Run.start_transcribe plays here]
    exact (Run.start_stays plays here).reached?_transcribe sound soundThere taken

theorem Plays.executions_alike (plays : machine.Plays transcript.toStaging transcript.source)
    (here : transcript.IsPlace transcript.source start) (fuels : List Nat) (seen : Option Pointer) :
    Option.Rel (fun first second => second.1 = transcript.move first.1 ∧
        first.2.Alike transcript first.1 second.2)
      (machine.executions fuels start)
      ((machine.transcribe transcript seen).executions fuels (transcript.move start)) := by
  induction fuels generalizing machine start seen with
  | nil => exact .some ⟨rfl, plays.alike sound soundThere here seen⟩
  | cons fuel rest ih =>
    rw [executions, executions, plays.execute?_transcribe sound soundThere here]
    cases ran : machine.execute? fuel start with
    | none => exact .none
    | some ended =>
      obtain ⟨result, after⟩ := ended
      obtain ⟨kept, stopped, cursor, place⟩ := plays.execute? sound here ran
      have next := ih kept place (some (transcript.move stopped))
      simp only [Option.map_some, Option.bind_eq_bind, Option.bind_some, cursor, Option.getD_some]
      exact next

end Simulation

end Machine

namespace Assembly

def assemble (layout : Layout) (segment : UInt8) (base : UInt32) (calls : List Call) :
    Except AssemblyError Bytes :=
  (Draft.fresh layout segment base).performAll calls >>= Draft.finish

theorem sound_of_assemble {staging : Staging} {layout : Layout} {bytes : Bytes}
    (stays : ∀ statement ∈ statements staging.calls, statement.staysIn staging.segment)
    (assembled : assemble layout staging.segment 0 staging.calls = .ok bytes) :
    staging.Sound layout ∧ bytes = staging.bytes layout := by
  obtain ⟨draft, performed, finished⟩ := bind_eq_ok.mp assembled
  obtain ⟨linked, rfl⟩ := (Draft.after_of_performAll performed).finish_eq_ok.mp finished
  exact ⟨⟨stays, linked⟩, rfl⟩

end Assembly

namespace Machine

variable {E : Embedding} {machine : Machine E} {segment : UInt8} {buffer : BufferId}

/-- A machine that a script in a buffer can be played on, which its segment is mapped to. -/
structure Ready (segment : UInt8) (buffer : BufferId) (machine : Machine E) : Prop where
  mapped : ∃ memory : Memory, memory.mapSegment segment.toNat buffer = .ok machine.memory
  unsaved : machine.memory.checkpoints = []
  idle : machine.stack = .empty
  overrides : machine.overrides = .empty
  table : machine.dispatch = .canonical
  hosts : machine.AllHosts (E.Avoids buffer)

def staged (layout : Layout) (buffer : BufferId) (bytes : Bytes) (machine : Machine E) :
    Machine E :=
  { machine with
    config := { machine.config with layout }
    memory := machine.memory.rewrite buffer bytes }

theorem Ready.plays {staging : Staging} (ready : machine.Ready staging.segment staging.buffer)
    (layout : Layout) :
    (machine.staged layout staging.buffer (staging.bytes layout)).Plays staging layout where
  laidOut := rfl
  memory := by
    obtain ⟨memory, mapped⟩ := ready.mapped
    obtain ⟨index, found, live, same⟩ := Memory.mapSegment_eq_ok mapped
    have leads : machine.memory.segments[staging.segment.toNat]?.join =
        some ⟨staging.buffer, 0⟩ := by
      rw [same]
      simp [← Memory.val_of_segmentIndex found]
    have lives : machine.memory.isLive staging.buffer := by rwa [same]
    have unsaved : ∀ checkpoint, checkpoint ∉ machine.memory.checkpoints := by simp [ready.unsaved]
    exact ⟨Memory.buffer?_rewrite lives, leads, fun _ saved => absurd saved (unsaved _)⟩
  frames := by simp [staged, ready.idle, Stack.empty]
  table := ready.table
  overrides := by
    have avoids := Registry.avoids_empty staging.buffer
    rwa [← ready.overrides] at avoids
  hosts := ready.hosts

theorem transcribe_staged {transcript : Transcript} (idle : machine.stack = .empty)
    (bytes : Bytes) :
    (machine.staged transcript.source transcript.buffer bytes).transcribe transcript
        machine.context.cursor =
      machine.staged transcript.target transcript.buffer (transcript.bytes transcript.target) := by
  have stack : machine.stack.relocate transcript.move = machine.stack := by
    rw [idle]
    rfl
  simp only [transcribe, within, surroundings, Surroundings.transcribe, Transcript.rewrite, staged,
    Memory.rewrite_rewrite, stack]

variable [Patches E]

/-- Machines that are alike but for the layout, each with the same script assembled for its own,
stay so: after any number of executions, each from where the one before has stopped, they take the
same steps and come to the same ends. What is a place in the script lies at an offset that grows
with the pointers of the layout. -/
theorem layouts_alike {first second : Layout} {calls : List Call} {bytes otherBytes : Bytes}
    (stays : ∀ statement ∈ statements calls, statement.staysIn segment)
    (assembled : assemble first segment 0 calls = .ok bytes)
    (reassembled : assemble second segment 0 calls = .ok otherBytes)
    (ready : machine.Ready segment buffer) :
    let transcript : Transcript := ⟨⟨segment, buffer, calls⟩, first, second⟩
    (∀ fuels, Option.Rel (fun here there => there.1 = transcript.move here.1 ∧
        here.2.Alike transcript here.1 there.2)
      ((machine.staged first buffer bytes).executions fuels (.startOf buffer))
      ((machine.staged second buffer otherBytes).executions fuels (.startOf buffer))) ∧
    (first.pointerWidth = .narrow → second.pointerWidth = .wide →
      ∀ offset, transcript.move ⟨buffer, offset⟩ = ⟨buffer, 2 * offset⟩) := by
  intro transcript
  obtain ⟨sound, rfl⟩ := @sound_of_assemble transcript.toStaging first bytes stays assembled
  obtain ⟨soundThere, rfl⟩ :=
    @sound_of_assemble transcript.toStaging second otherBytes stays reassembled
  refine ⟨fun fuels => ?_, fun narrow wide offset => ?_⟩
  · have plays := @Ready.plays E machine transcript.toStaging ready first
    have begins : transcript.IsPlace transcript.source (.startOf buffer) := ⟨[], _, rfl, rfl⟩
    have start : transcript.move (.startOf buffer) = .startOf buffer := transcript.move_place []
    have alike := plays.executions_alike sound soundThere begins fuels machine.context.cursor
    rwa [start, transcribe_staged ready.idle] at alike
  · simp only [Transcript.move, transcript, if_true, narrow, wide, PointerWidth.scale, Nat.div_one,
      Nat.mul_comm]

def errand : List Call :=
  [.newLabel, .newLabel, .emit (.jump (.label ⟨1⟩)), .bind ⟨0⟩, .emit (.call 3 5), .emit .ret,
    .bind ⟨1⟩, .emit (.loopBeginCount 2), .emit (.jumpLink (.label ⟨0⟩)), .emit .loopRepeat,
    .emit (.sleep 1), .emit .exit]

/-- A machine with a host function, and an empty buffer that a segment is mapped to. -/
def vacant : Machine Scripted.embedding :=
  let machine : Machine Scripted.embedding := .ofImage .standard #[1, 2]
  let (_, memory) := machine.memory.install #[]
  let mapped := { memory with segments := memory.segments.set 14 (some ⟨0, 0⟩) }
  { machine with memory := mapped }.registerHost 5 (.callback (.add 1))

theorem ready_vacant : vacant.Ready 14 0 where
  mapped := ⟨((Memory.ofImage #[1, 2] Config.standard.mainPoolBytes).install #[]).2, rfl⟩
  unsaved := rfl
  idle := rfl
  overrides := rfl
  table := rfl
  hosts := by
    have hostless : (Machine.ofImage .standard #[1, 2] : Machine Scripted.embedding).AllHosts
        (Embedding.Avoids Scripted.embedding 0) := by
      intro id function found
      rw [show (Machine.ofImage .standard #[1, 2] : Machine Scripted.embedding).hosts = ∅ from rfl,
        Std.TreeMap.getElem?_emptyc] at found
      cases found
    exact hostless.of_insert rfl ((blind_callback (.add 1)).avoids 0)

/-- Both machines wait in the same place, and are woken there to the same end. -/
theorem layouts_alike_errand :
    ∃ bytes otherBytes, assemble ⟨.narrow, .little⟩ 14 0 errand = .ok bytes ∧
      assemble ⟨.wide, .big⟩ 14 0 errand = .ok otherBytes ∧
      ∃ here there,
        (vacant.staged ⟨.narrow, .little⟩ 0 bytes).executions [20] ⟨0, 0⟩ = some (⟨0, 36⟩, here) ∧
        (vacant.staged ⟨.wide, .big⟩ 0 otherBytes).executions [20] ⟨0, 0⟩ =
          some (⟨0, 72⟩, there) ∧
        here.context.status = .paused ∧ here.context.register = 2 ∧
        here.Alike ⟨⟨14, 0, errand⟩, ⟨.narrow, .little⟩, ⟨.wide, .big⟩⟩ ⟨0, 36⟩ there := by
  let bytes := (assemble ⟨.narrow, .little⟩ 14 0 errand).toOption.getD #[]
  let otherBytes := (assemble ⟨.wide, .big⟩ 14 0 errand).toOption.getD #[]
  have assembled : assemble ⟨.narrow, .little⟩ 14 0 errand = .ok bytes := by decide +kernel
  have reassembled : assemble ⟨.wide, .big⟩ 14 0 errand = .ok otherBytes := by decide +kernel
  obtain ⟨alike, doubled⟩ := layouts_alike (by decide) assembled reassembled ready_vacant
  let here := ((vacant.staged ⟨.narrow, .little⟩ 0 bytes).executions [20] ⟨0, 0⟩).get
    (by decide +kernel)
  have stopped : here.1 = ⟨0, 36⟩ := by decide +kernel
  have came : (vacant.staged ⟨.narrow, .little⟩ 0 bytes).executions [20] (.startOf 0) =
    some here := (Option.some_get _).symm
  have after := alike [20]
  rw [came] at after
  cases went : (vacant.staged ⟨.wide, .big⟩ 0 otherBytes).executions [20] (.startOf 0) with
  | none =>
    rw [went] at after
    cases after
  | some there =>
    rw [went] at after
    cases after with
    | some both =>
      obtain ⟨moved, alike⟩ := both
      rw [stopped, doubled rfl rfl] at moved
      rw [stopped] at alike
      refine ⟨bytes, otherBytes, assembled, reassembled, here.2, there.2, ?_, ?_, ?_, ?_, alike⟩
      · rw [← stopped]
        exact came
      · rw [show (⟨0, 72⟩ : Pointer) = there.1 from moved.symm]
        exact went
      · decide +kernel
      · decide +kernel

end Machine

end StageScript
