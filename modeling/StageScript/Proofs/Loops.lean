import StageScript.Proofs.Calls

/-!
Loops run their body as often as they say. What is asked of a body is only that it comes out at the
command that closes the loop with the stack that it was entered with, however it gets there; it may
call, loop and wait in between. Then a counted loop runs it once for each count, at least once, and
a loop with a condition until the condition holds for the first time; either goes on behind its
closing command with the stack that there was before. So a loop can be part of the body of another,
like any sequence of plain commands and calls.
-/

namespace StageScript

namespace Stack

variable {stack : Stack} {resume : Pointer} {remaining : Int32}

def bearing (stack : Stack) (frame : Frame) : Stack :=
  { stack with frames := frame :: stack.frames, used := stack.used + frame.slots }

def looping (stack : Stack) (resume : Pointer) (remaining : Int32) : Stack :=
  stack.bearing (.loop resume remaining)

theorem push_bearing {frame : Frame} (room : stack.used + frame.slots ≤ stackSlots) :
    stack.push frame = .ok (stack.bearing frame) :=
  push_eq_ok.mpr ⟨room, rfl⟩

theorem Built.bearing {frame : Frame} (built : stack.Built)
    (room : stack.used + frame.slots ≤ stackSlots) : (stack.bearing frame).Built :=
  .push built (push_bearing room)

theorem drop_bearing {frame : Frame} (built : stack.Built) :
    (stack.bearing frame).drop frame stack.frames = stack := by
  have open' : stack.scopes.dropWhile (decide <| stack.frames.length < ·) = stack.scopes :=
    dropWhile_eq_self_of_le fun base member => (built.wellFormed.based base member).2.1
  simp only [drop, bearing, Nat.add_sub_cancel, open']

theorem popLoop_looping (built : stack.Built) :
    (stack.looping resume remaining).popLoop = .ok ((resume, remaining), stack) := by
  show Except.ok ((resume, remaining),
    (stack.bearing (.loop resume remaining)).drop (.loop resume remaining) stack.frames) = _
  rw [drop_bearing built]

theorem popReturn_bearing (built : stack.Built) :
    (stack.bearing (.ret resume)).popReturn = .ok (resume, stack) := by
  show Except.ok (resume, (stack.bearing (.ret resume)).drop (.ret resume) stack.frames) = _
  rw [drop_bearing built]

end Stack

namespace Machine

variable {E : Embedding} {machine : Machine E} {stack : Stack} {resume : Pointer}
  {remaining : Int32}

theorem toInt_oneLess (remaining : Int32) :
    (oneLess remaining).toInt = max (remaining.toInt - 1) (-2147483648) := by
  have low := remaining.le_toInt
  have high := remaining.toInt_lt
  unfold oneLess
  split
  next least =>
    subst least
    decide
  next more =>
    have above : remaining.toInt ≠ -2147483648 := fun same => more (Int32.toInt_inj.mp same)
    have one : Int32.toInt 1 = 1 := rfl
    rw [Int32.toInt_sub, one, Int.bmod_eq_of_le (by omega) (by omega)]
    omega

theorem loopRepeat_looping (built : stack.Built)
    (inside : machine.stack = stack.looping resume remaining) :
    machine.loopRepeat =
      if oneLess remaining ≤ 0 then { machine with stack }.next
      else { machine with stack := stack.looping resume (oneLess remaining) }.goto resume := by
  simp only [loopRepeat, inside, Stack.popLoop_looping built]
  rfl

theorem loopUntil_looping {condition : Condition} (built : stack.Built)
    (inside : machine.stack = stack.looping resume remaining) :
    machine.loopUntil condition =
      if condition.holds machine.context.register then { machine with stack }.next
      else { machine with stack := stack.looping resume remaining }.goto resume := by
  simp only [loopUntil, inside, Stack.popLoop_looping built]
  rw [← inside]

theorem followOverrides_of_bare (bare : machine.overrides.overrides = []) (pointer : Pointer) :
    machine.followOverrides pointer = (pointer, { machine with activeOwner := none }) := by
  simp [followOverrides, Registry.resolve, Registry.streamOwner, bare]

end Machine

namespace Run

variable {E : Embedding}

structure Stands (place : Pointer) (stack : Stack) (run : Run E) : Prop where
  cursor : run.cursor = place
  stack : run.machine.stack = stack
  running : run.machine.context.status = .running

/-- The run stands at a place, on a machine with the property, and has some room on its stack. -/
structure Ready (loaded : Machine E → Prop) (place : Pointer) (slots : Nat) (run : Run E) : Prop where
  loaded : loaded run.machine
  stands : run.Stands place run.machine.stack
  built : run.machine.stack.Built
  room : run.machine.stack.used + slots ≤ stackSlots

/-- What the closing command of a loop does with the counter of the loop: after so many rounds it is
over, or it begins again with the counter of the next round. -/
structure Counts (closing : Instruction) (counter : Nat → Int32) (finishes : Nat → Run E → Prop) :
    Prop where
  leaves (run : Run E) (base : Stack) (resume following : Pointer) (rounds : Nat) : base.Built →
    run.machine.stack = base.looping resume (counter rounds) → finishes rounds run →
    run.machine.exec closing following = { run.machine with stack := base }.next
  returns (run : Run E) (base : Stack) (resume following : Pointer) (rounds : Nat) : base.Built →
    run.machine.stack = base.looping resume (counter rounds) → ¬ finishes rounds run →
    run.machine.exec closing following =
      { run.machine with stack := base.looping resume (counter (rounds + 1)) }.goto resume

def counterAfter (count : Int16) : Nat → Int32
  | 0 => count.toInt32
  | rounds + 1 => Machine.oneLess (counterAfter count rounds)

theorem toInt_counterAfter (count : Int16) (rounds : Nat) :
    (counterAfter count rounds).toInt = max (count.toInt - rounds) (-2147483648) := by
  induction rounds with
  | zero =>
    have low := count.le_toInt
    simp only [counterAfter, Int16.toInt_toInt32]
    omega
  | succ rounds ih =>
    rw [counterAfter, Machine.toInt_oneLess, ih]
    omega

theorem counterAfter_le_zero_iff (count : Int16) (rounds : Nat) :
    counterAfter count (rounds + 1) ≤ 0 ↔ count.toInt ≤ rounds + 1 := by
  rw [Int32.le_iff_toInt_le, toInt_counterAfter]
  have zero : Int32.toInt 0 = 0 := rfl
  rw [zero]
  push_cast
  omega

theorem counts_loopRepeat (count : Int16) :
    Counts .loopRepeat (counterAfter count)
      fun rounds (_ : Run E) => count.toInt ≤ rounds + 1 where
  leaves run base resume following rounds built inside ended := by
    rw [Machine.exec, Machine.loopRepeat_looping built inside]
    exact if_pos ((counterAfter_le_zero_iff count rounds).mpr ended)
  returns run base resume following rounds built inside continues := by
    rw [Machine.exec, Machine.loopRepeat_looping built inside]
    exact if_neg fun none => continues ((counterAfter_le_zero_iff count rounds).mp none)

theorem counts_loopUntil (condition : Condition) :
    Counts (.loopUntil condition) (fun _ => 0)
      fun _ (run : Run E) => condition.holds run.machine.context.register where
  leaves run base resume following rounds built inside ended := by
    rw [Machine.exec, Machine.loopUntil_looping built inside]
    exact if_pos ended
  returns run base resume following rounds built inside continues := by
    rw [Machine.exec, Machine.loopUntil_looping built inside]
    exact if_neg continues

variable [Patches E]

/-- The session comes to the place with the stack that it has now, and keeps the property. -/
def Reaches (edit : Machine E → Machine E → Prop) (loaded : Machine E → Prop) (place : Pointer)
    (run done : Run E) : Prop :=
  run.Through edit (fun later => loaded later.machine) done ∧ done.Stands place run.machine.stack

/-- From one place, with so much room, every session can come to the other with its stack. -/
def Passes (edit : Machine E → Machine E → Prop) (loaded : Machine E → Prop) (slots : Nat)
    (first last : Pointer) : Prop :=
  ∀ run : Run E, run.Ready loaded first slots → ∃ done, run.Reaches edit loaded last done

/-- The session comes to the place with the stack, keeping the property, and has not been there with
it before. -/
inductive Completes (edit : Machine E → Machine E → Prop) (loaded : Machine E → Prop)
    (place : Pointer) (stack : Stack) : Run E → Run E → Prop where
  | here {run : Run E} (stands : run.Stands place stack) : Completes edit loaded place stack run run
  | move {run next done : Run E} (away : ¬ run.Stands place stack) (moves : run.Moves edit next)
    (kept : loaded next.machine) (rest : Completes edit loaded place stack next done) :
    Completes edit loaded place stack run done

/-- The loop that the run has entered has completed its body, in the end at the last run, and
before that as often as there are earlier ones, each time going back to the first command of the
body without leaving the loop. -/
inductive Turns (edit : Machine E → Machine E → Prop) (loaded : Machine E → Prop)
    (first last : Pointer) (entered : Run E) : List (Run E) → Run E → Prop where
  | once {done : Run E}
    (completes : Completes edit loaded last entered.machine.stack entered done) :
    Turns edit loaded first last entered [] done
  | again {earlier : List (Run E)} {done next later : Run E}
    (turns : Turns edit loaded first last entered earlier done) (step : done.Step next)
    (back : next.cursor = first) (inside : next.machine.stack.depth = done.machine.stack.depth)
    (completes : Completes edit loaded last next.machine.stack next later) :
    Turns edit loaded first last entered (earlier ++ [done]) later

/-- The machines with the property have the canonical table and no overrides; what is on the stack
has nothing to do with it. -/
structure Undiverted (loaded : Machine E → Prop) : Prop where
  table (machine : Machine E) : loaded machine → machine.dispatch = .canonical
  bare (machine : Machine E) : loaded machine → machine.overrides.overrides = []
  restacked (machine : Machine E) (stack : Stack) :
    loaded machine → loaded { machine with stack, activeOwner := none }

/-- On every machine with the property there is a loop: a command that opens it, right before its
body, and one that closes it. With the loop's frame on top and some room above it, the body comes
out at the closing command with its stack. -/
structure IsLoop (edit : Machine E → Machine E → Prop) (loaded : Machine E → Prop) (room : Nat)
    (opening closing : Instruction) (place first last behind : Pointer) : Prop
    extends Undiverted loaded where
  opens (machine : Machine E) : loaded machine →
    ∃ command, machine.Dispatches place command opening ∧ command.next = first
  closes (machine : Machine E) : loaded machine →
    ∃ command, machine.Dispatches last command closing ∧ command.next = behind
  body (run : Run E) (remaining : Int32) (below : List Frame) : run.Ready loaded first room →
    run.machine.stack.frames = .loop first remaining :: below →
    ∃ done, run.Reaches edit loaded last done

variable {edit : Machine E → Machine E → Prop} {loaded : Machine E → Prop} {run next done : Run E}
  {place first last behind : Pointer} {room : Nat} {opening closing : Instruction}
  {earlier : List (Run E)}

theorem step_of_exec {command : Command} {instruction : Instruction} {machine : Machine E}
    {flow : Flow} (table : run.machine.dispatch = .canonical)
    (running : run.machine.context.status = .running)
    (dispatched : run.machine.Dispatches run.cursor command instruction)
    (went : run.machine.exec instruction command.next = ⟨machine, .ok flow⟩)
    (bare : machine.overrides.overrides = []) :
    run.Step ⟨run.canonical, flow.target command.next run.cursor,
      { machine with activeOwner := none }⟩ := by
  refine step_iff.mpr ⟨running, ?_, rfl⟩
  rw [Machine.step_of_dispatches table dispatched, went]
  exact Machine.settle_eq_ok.mpr ⟨flow, rfl, Machine.followOverrides_of_bare bare _⟩

theorem exists_completes {stack : Stack}
    (path : Relation.ReflTransGen (fun run next => run.Moves edit next ∧ loaded next.machine) run
      done) (stands : done.Stands place stack) :
    ∃ first, Completes edit loaded place stack run first := by
  induction path using Relation.ReflTransGen.head_induction_on with
  | refl => exact ⟨done, .here stands⟩
  | @head run next move _ ih =>
    by_cases there : run.Stands place stack
    · exact ⟨run, .here there⟩
    · obtain ⟨first, completes⟩ := ih
      exact ⟨first, .move there move.1 move.2 completes⟩

theorem Completes.stands {stack : Stack} (completes : Completes edit loaded place stack run done) :
    done.Stands place stack := by
  induction completes with
  | here stands => exact stands
  | move _ _ _ _ ih => exact ih

theorem Completes.through {stack : Stack} (completes : Completes edit loaded place stack run done)
    (kept : loaded run.machine) : run.Through edit (fun later => loaded later.machine) done := by
  refine ⟨kept, ?_⟩
  clear kept
  induction completes with
  | here => exact .refl
  | move _ moves kept _ ih => exact .head ⟨moves, kept⟩ ih

theorem Through.holds {property : Run E → Prop} (through : run.Through edit property done) :
    property done :=
  through.last_of_moves through.1 fun _ _ _ _ holds => holds

theorem Through.trans {property : Run E → Prop} (through : run.Through edit property next)
    (further : next.Through edit property done) : run.Through edit property done :=
  ⟨through.1, through.2.trans further.2⟩

variable {base : Stack} {counter : Nat → Int32} {finishes : Nat → Run E → Prop}

theorem Undiverted.exists_step {command : Command} {instruction : Instruction} {stack : Stack}
    {flow : Flow} (undiverted : Undiverted loaded) (holds : loaded run.machine)
    (running : run.machine.context.status = .running)
    (dispatched : run.machine.Dispatches run.cursor command instruction)
    (went : run.machine.exec instruction command.next = ⟨{ run.machine with stack }, .ok flow⟩) :
    ∃ next, run.Step next ∧ loaded next.machine ∧
      next.Stands (flow.target command.next run.cursor) stack := by
  have bare := undiverted.bare run.machine holds
  have restacked := undiverted.restacked run.machine stack holds
  exact ⟨_, step_of_exec (undiverted.table _ holds) running dispatched went bare, restacked, rfl, rfl,
    running⟩

namespace IsLoop

theorem enters (isLoop : IsLoop edit loaded room opening closing place first last behind)
    (ready : run.Ready loaded place (2 + room)) {count : Int32}
    (opened : ∀ following, run.machine.exec opening following =
      run.machine.push (.loop following count) .next) :
    ∃ entered, run.Step entered ∧ loaded entered.machine ∧
      entered.Stands first (run.machine.stack.looping first count) := by
  obtain ⟨command, dispatched, rfl⟩ := isLoop.opens _ ready.loaded
  rw [← ready.stands.cursor] at dispatched
  have spacious : run.machine.stack.used + (Frame.loop command.next count).slots ≤ stackSlots := by
    have := ready.room
    simp only [Frame.slots]
    omega
  have went : run.machine.exec opening command.next =
      ⟨{ run.machine with stack := run.machine.stack.looping command.next count }, .ok .next⟩ := by
    rw [opened, Machine.push, Stack.push_bearing spacious]
    rfl
  exact isLoop.exists_step ready.loaded ready.stands.running dispatched went

theorem leaves (isLoop : IsLoop edit loaded room opening closing place first last behind)
    (counts : Counts closing counter finishes) (rounds : Nat) (built : base.Built)
    (stands : done.Stands last (base.looping first (counter rounds))) (holds : loaded done.machine)
    (ended : finishes rounds done) :
    ∃ left, done.Step left ∧ loaded left.machine ∧ left.Stands behind base := by
  obtain ⟨command, dispatched, rfl⟩ := isLoop.closes _ holds
  rw [← stands.cursor] at dispatched
  exact isLoop.exists_step holds stands.running dispatched
    (counts.leaves done base first _ rounds built stands.stack ended)

theorem returns (isLoop : IsLoop edit loaded room opening closing place first last behind)
    (counts : Counts closing counter finishes) (rounds : Nat) (built : base.Built)
    (stands : done.Stands last (base.looping first (counter rounds))) (holds : loaded done.machine)
    (continues : ¬ finishes rounds done) :
    ∃ back, done.Step back ∧ loaded back.machine ∧
      back.Stands first (base.looping first (counter (rounds + 1))) := by
  obtain ⟨command, dispatched, rfl⟩ := isLoop.closes _ holds
  rw [← stands.cursor] at dispatched
  exact isLoop.exists_step holds stands.running dispatched
    (counts.returns done base first _ rounds built stands.stack continues)

theorem completes (isLoop : IsLoop edit loaded room opening closing place first last behind)
    {remaining : Int32} (built : base.Built) (spacious : base.used + (2 + room) ≤ stackSlots)
    (stands : run.Stands first (base.looping first remaining)) (holds : loaded run.machine) :
    ∃ done, Completes edit loaded last run.machine.stack run done := by
  have inside := stands.stack
  have ready : run.Ready loaded first room := by
    refine ⟨holds, ⟨stands.cursor, rfl, stands.running⟩, ?_, ?_⟩
    · rw [inside]
      exact built.bearing (by simp only [Frame.slots]; omega)
    · rw [inside]
      simp only [Stack.looping, Stack.bearing, Frame.slots]
      omega
  obtain ⟨done, through, arrived⟩ :=
    isLoop.body run remaining base.frames ready (by rw [inside]; rfl)
  exact exists_completes through.2 arrived

end IsLoop

/-- Wherever the loop has come out of its body, its counter has counted the rounds before, and none
of them has ended the loop. -/
theorem Turns.counted (turns : Turns edit loaded first last run earlier done)
    (isLoop : IsLoop edit loaded room opening closing place first last behind)
    (counts : Counts closing counter finishes) (built : base.Built)
    (stands : run.Stands first (base.looping first (counter 0))) (holds : loaded run.machine) :
    done.Stands last (base.looping first (counter earlier.length)) ∧
      run.Through edit (fun later => loaded later.machine) done ∧
      ∀ round turn, earlier[round]? = some turn → ¬ finishes round turn := by
  induction turns with
  | once completes =>
    refine ⟨?_, completes.through holds, by simp⟩
    rw [List.length_nil, ← stands.stack]
    exact completes.stands
  | @again earlier done next later _ step back inside completes ih =>
    obtain ⟨arrived, through, going⟩ := ih
    have kept := through.holds
    have continues : ¬ finishes earlier.length done := by
      intro ended
      obtain ⟨left, other, _, outside⟩ :=
        isLoop.leaves counts earlier.length built arrived kept ended
      have depth := inside
      rw [← step.unique other, outside.stack, arrived.stack] at depth
      simp [Stack.looping, Stack.bearing, Stack.depth] at depth
    obtain ⟨again, other, kept, begun⟩ :=
      isLoop.returns counts earlier.length built arrived kept continues
    obtain rfl := step.unique other
    have further := completes.through kept
    refine ⟨?_, ⟨through.1, (through.2.tail ⟨.inl step, kept⟩).trans further.2⟩, ?_⟩
    · rw [List.length_append, List.length_singleton, ← begun.stack]
      exact completes.stands
    · intro round turn found
      rw [List.getElem?_append] at found
      split at found
      next => exact going round turn found
      next late =>
        have here : round = earlier.length := by
          have := (List.getElem?_eq_some_iff.mp found).1
          simp only [List.length_singleton] at this
          omega
        subst here
        simp only [Nat.sub_self, List.getElem?_cons_zero, Option.some.injEq] at found
        rwa [← found]

theorem Turns.exists_again (turns : Turns edit loaded first last run earlier done)
    (isLoop : IsLoop edit loaded room opening closing place first last behind)
    (counts : Counts closing counter finishes) (built : base.Built)
    (spacious : base.used + (2 + room) ≤ stackSlots)
    (stands : run.Stands first (base.looping first (counter 0))) (holds : loaded run.machine)
    (continues : ¬ finishes earlier.length done) :
    ∃ later, Turns edit loaded first last run (earlier ++ [done]) later := by
  obtain ⟨arrived, through, _⟩ := turns.counted isLoop counts built stands holds
  obtain ⟨back, step, kept, begun⟩ :=
    isLoop.returns counts earlier.length built arrived through.holds continues
  obtain ⟨later, completes⟩ := isLoop.completes built spacious begun kept
  refine ⟨later, turns.again step begun.cursor ?_ completes⟩
  rw [begun.stack, arrived.stack]
  rfl

theorem exists_turns_counted {count : Int16}
    (isLoop : IsLoop edit loaded room opening .loopRepeat place first last behind)
    (built : base.Built) (spacious : base.used + (2 + room) ≤ stackSlots)
    (stands : run.Stands first (base.looping first count.toInt32)) (holds : loaded run.machine)
    (rounds : Nat) (within : (rounds : Int) + 1 ≤ max count.toInt 1) :
    ∃ earlier done, Turns edit loaded first last run earlier done ∧ earlier.length = rounds := by
  induction rounds with
  | zero =>
    obtain ⟨done, completes⟩ := isLoop.completes built spacious stands holds
    exact ⟨[], done, .once completes, rfl⟩
  | succ rounds ih =>
    push_cast at within
    obtain ⟨earlier, done, turns, length⟩ := ih (by omega)
    have continues : ¬ count.toInt ≤ earlier.length + 1 := by omega
    obtain ⟨later, further⟩ := turns.exists_again isLoop (counts_loopRepeat count) built spacious
      stands holds continues
    exact ⟨_, later, further, by simp [length]⟩

theorem Reaches.trans {middle : Run E} (reaches : run.Reaches edit loaded first middle)
    (further : middle.Reaches edit loaded last done) : run.Reaches edit loaded last done := by
  obtain ⟨through, arrived⟩ := reaches
  obtain ⟨rest, stands⟩ := further
  exact ⟨through.trans rest, arrived.stack ▸ stands⟩

namespace Passes

variable {slots fewer : Nat} {middle : Pointer}

theorem mono (passes : Passes edit loaded fewer first last) (room : fewer ≤ slots) :
    Passes edit loaded slots first last := by
  intro run ready
  have spacious := ready.room
  exact passes run ⟨ready.loaded, ready.stands, ready.built, by omega⟩

theorem trans (passes : Passes edit loaded slots first middle)
    (further : Passes edit loaded slots middle last) : Passes edit loaded slots first last := by
  intro run ready
  obtain ⟨next, reaches⟩ := passes run ready
  have stands := reaches.2
  have again : next.Ready loaded middle slots := by
    refine ⟨reaches.1.holds, ⟨stands.cursor, rfl, stands.running⟩, ?_, ?_⟩
    · rw [stands.stack]
      exact ready.built
    · rw [stands.stack]
      exact ready.room
  obtain ⟨done, rest⟩ := further next again
  exact ⟨done, reaches.trans rest⟩

theorem of_exec (undiverted : Undiverted loaded)
    (runs : ∀ machine, loaded machine → ∃ (command : Command) (instruction : Instruction)
      (after : Machine E), machine.Dispatches first command instruction ∧ command.next = last ∧
      machine.exec instruction last = after.next ∧ after.stack = machine.stack ∧
      after.context.status = machine.context.status ∧ loaded { after with activeOwner := none }) :
    Passes edit loaded 0 first last := by
  intro run ready
  obtain ⟨command, instruction, after, dispatched, rfl, went, same, status, kept⟩ :=
    runs run.machine ready.loaded
  rw [← ready.stands.cursor] at dispatched
  have bare := undiverted.bare { after with activeOwner := none } kept
  have step :=
    step_of_exec (undiverted.table _ ready.loaded) ready.stands.running dispatched went bare
  exact ⟨_, ⟨ready.loaded, .single ⟨.inl step, kept⟩⟩, rfl, same, status.trans ready.stands.running⟩

theorem of_call {entry exit : Pointer} (undiverted : Undiverted loaded)
    (calls : ∀ machine, loaded machine → ∃ command target,
      machine.Dispatches first command (.jumpLink target) ∧ command.next = last ∧
      machine.memory.resolve? target = some entry)
    (routine : Passes edit loaded slots entry exit)
    (returns : ∀ machine, loaded machine → ∃ command, machine.Dispatches exit command .ret) :
    Passes edit loaded (1 + slots) first last := by
  intro run ready
  obtain ⟨command, target, dispatched, rfl, resolved⟩ := calls run.machine ready.loaded
  rw [← ready.stands.cursor] at dispatched
  have spacious := ready.room
  have room : run.machine.stack.used + (Frame.ret command.next).slots ≤ stackSlots := by
    simp only [Frame.slots]
    omega
  have went : run.machine.exec (.jumpLink target) command.next =
      ⟨{ run.machine with stack := run.machine.stack.bearing (.ret command.next) },
        .ok (.goto entry)⟩ := by
    simp only [Machine.exec, Machine.jumpLink, resolved, Machine.push, Stack.push_bearing room]
  obtain ⟨entered, enters, kept, stands⟩ :=
    undiverted.exists_step ready.loaded ready.stands.running dispatched went
  have within : entered.Ready loaded entry slots := by
    refine ⟨kept, ⟨stands.cursor, rfl, stands.running⟩, ?_, ?_⟩
    · rw [stands.stack]
      exact ready.built.bearing room
    · rw [stands.stack]
      simp only [Stack.bearing, Frame.slots]
      omega
  obtain ⟨finished, through, arrived⟩ := routine entered within
  obtain ⟨returning, dispatched⟩ := returns _ through.holds
  rw [← arrived.cursor] at dispatched
  have left : finished.machine.exec .ret returning.next =
      ⟨{ finished.machine with stack := run.machine.stack }, .ok (.goto command.next)⟩ := by
    simp only [Machine.exec, Machine.ret, arrived.stack, stands.stack,
      Stack.popReturn_bearing ready.built]
    rfl
  obtain ⟨done, leaves, kept, back⟩ :=
    undiverted.exists_step through.holds arrived.running dispatched left
  exact ⟨done, ⟨ready.loaded, .tail (.head ⟨.inl enters, through.1⟩ through.2) ⟨.inl leaves, kept⟩⟩,
    back⟩

theorem of_counted {count : Int16}
    (isLoop : IsLoop edit loaded room (.loopBeginCount count) .loopRepeat place first last behind) :
    Passes edit loaded (2 + room) place behind := by
  intro run ready
  obtain ⟨entered, enters, kept, stands⟩ := isLoop.enters ready fun _ => rfl
  obtain ⟨earlier, done, turns, length⟩ := exists_turns_counted isLoop ready.built ready.room stands
    kept (max count.toInt 1 - 1).toNat (by omega)
  have counts := counts_loopRepeat (E := E) count
  obtain ⟨arrived, through, _⟩ := turns.counted isLoop counts ready.built stands kept
  obtain ⟨left, leaves, kept, back⟩ :=
    isLoop.leaves counts earlier.length ready.built arrived through.holds (by omega)
  exact ⟨left, ⟨ready.loaded, .tail (.head ⟨.inl enters, through.1⟩ through.2) ⟨.inl leaves, kept⟩⟩,
    back⟩

end Passes

/-- A counted loop around the call of a routine with another one, and behind it a loop that sets
the register until it has the value. -/
def nested : Run Scripted.embedding := ofScript #[] #[
  0x08, 4, 3, 0,
  0x10, 4, 0, 0,
  0x06, 8, 0, 0, 24, 0, 0, 0x10,
  0x09, 4, 0, 0,
  0x02, 4, 0, 0,
  0x08, 4, 2, 0,
  0x10, 4, 0, 0,
  0x09, 4, 0, 0,
  0x07, 4, 0, 0,
  0x0A, 4, 0, 0,
  0x13, 4, 1, 0,
  0x0B, 8, 2, 0, 1, 0, 0, 0,
  0x02, 4, 0, 0]

structure Nested (machine : Machine Scripted.embedding) : Prop where
  config : machine.config = nested.machine.config
  memory : machine.memory = nested.machine.memory
  dispatch : machine.dispatch = .canonical
  overrides : machine.overrides.overrides = []

namespace Nested

theorem undiverted : Undiverted Nested where
  table _ like := like.dispatch
  bare _ like := like.overrides
  restacked _ _ like := ⟨like.config, like.memory, like.dispatch, like.overrides⟩

theorem dispatches {machine : Machine Scripted.embedding} {cursor : Pointer} {command : Command}
    {instruction : Instruction} (like : Nested machine)
    (dispatched : nested.machine.fetch? cursor = some (command, instruction)) :
    machine.Dispatches cursor command instruction := by
  rw [← Machine.fetch?_eq_some, ← dispatched, Machine.fetch?, Machine.fetch?, like.config, like.memory]

theorem opens {machine : Machine Scripted.embedding} {cursor following : Pointer}
    {instruction : Instruction} (like : Nested machine)
    (found : (nested.machine.fetch? cursor).map (fun fetched => (fetched.1.next, fetched.2)) =
      some (following, instruction)) :
    ∃ command, machine.Dispatches cursor command instruction ∧ command.next = following := by
  obtain ⟨⟨command, _⟩, fetched, same⟩ := Option.map_eq_some_iff.mp found
  obtain ⟨rfl, rfl⟩ := Prod.mk.inj same
  exact ⟨command, like.dispatches fetched, rfl⟩

theorem nop {place behind : Pointer}
    (found : (nested.machine.fetch? place).map (fun fetched => (fetched.1.next, fetched.2)) =
      some (behind, .nop)) :
    Passes Machine.KeepsControl Nested 0 place behind := by
  refine .of_exec undiverted fun machine like => ?_
  obtain ⟨command, dispatched, following⟩ := like.opens found
  exact ⟨command, .nop, machine, dispatched, following, rfl, rfl, rfl,
    undiverted.restacked _ machine.stack like⟩

theorem inner : IsLoop Machine.KeepsControl Nested 0 (.loopBeginCount 2) .loopRepeat
    ⟨0, 24⟩ ⟨0, 28⟩ ⟨0, 32⟩ ⟨0, 36⟩ where
  toUndiverted := undiverted
  opens _ like := like.opens (by decide +kernel)
  closes _ like := like.opens (by decide +kernel)
  body run _ _ ready _ := nop (by decide +kernel) run ready

theorem called : Passes Machine.KeepsControl Nested 3 ⟨0, 8⟩ ⟨0, 16⟩ := by
  refine .of_call undiverted (fun machine like => ?_) (.of_counted inner) fun machine like => ?_
  · have found : (nested.machine.fetch? ⟨0, 8⟩).map (fun fetched => (fetched.1.next, fetched.2)) =
      some (⟨0, 16⟩, .jumpLink ⟨0x10000018⟩) := by decide +kernel
    obtain ⟨command, dispatched, following⟩ := like.opens found
    refine ⟨command, _, dispatched, following, ?_⟩
    rw [like.memory]
    decide +kernel
  · have found : (nested.machine.fetch? ⟨0, 36⟩).map (fun fetched => (fetched.1.next, fetched.2)) =
      some (⟨0, 40⟩, .ret) := by decide +kernel
    obtain ⟨command, dispatched, _⟩ := like.opens found
    exact ⟨command, dispatched⟩

theorem outer : IsLoop Machine.KeepsControl Nested 3 (.loopBeginCount 3) .loopRepeat
    ⟨0, 0⟩ ⟨0, 4⟩ ⟨0, 16⟩ ⟨0, 20⟩ where
  toUndiverted := undiverted
  opens _ like := like.opens (by decide +kernel)
  closes _ like := like.opens (by decide +kernel)
  body run _ _ ready _ := by
    have before : Passes Machine.KeepsControl Nested 0 ⟨0, 4⟩ ⟨0, 8⟩ := nop (by decide +kernel)
    exact (before.mono (Nat.zero_le 3)).trans called run ready

theorem setsRegister : Passes Machine.KeepsControl Nested 0 ⟨0, 44⟩ ⟨0, 48⟩ := by
  refine .of_exec undiverted fun machine like => ?_
  have found : (nested.machine.fetch? ⟨0, 44⟩).map (fun fetched => (fetched.1.next, fetched.2)) =
    some (⟨0, 48⟩, .setRegister 1) := by decide +kernel
  obtain ⟨command, dispatched, following⟩ := like.opens found
  exact ⟨command, .setRegister 1, _, dispatched, following, rfl, rfl, rfl,
    like.config, like.memory, like.dispatch, like.overrides⟩

theorem conditional : IsLoop Machine.KeepsControl Nested 0 .loopBegin (.loopUntil ⟨.equal, 1⟩)
    ⟨0, 40⟩ ⟨0, 44⟩ ⟨0, 48⟩ ⟨0, 56⟩ where
  toUndiverted := undiverted
  opens _ like := like.opens (by decide +kernel)
  closes _ like := like.opens (by decide +kernel)
  body run _ _ ready _ := setsRegister run ready

theorem ready {run : Run Scripted.embedding} {place : Pointer} {slots : Nat}
    (fresh : run.machine = nested.machine) (cursor : run.cursor = place) (room : slots ≤ stackSlots) :
    run.Ready Nested place slots := by
  have bare : nested.machine.overrides.overrides = [] := by decide +kernel
  have running : nested.machine.context.status = .running := by decide +kernel
  have empty : run.machine.stack = .empty := by
    rw [fresh]
    exact stack_ofScript _ _
  refine ⟨?_, ⟨cursor, rfl, fresh ▸ running⟩, ?_, ?_⟩
  · rw [fresh]
    exact ⟨rfl, rfl, dispatch_ofScript _ _, bare⟩
  · rw [empty]
    exact .empty
  · rw [empty]
    simpa [Stack.empty] using room

end Nested

/-- A counted loop runs its body as often as it counts, but at least once, and a loop with a
condition until its body has come out with the condition true. Both are then left with the stack
that they were entered with. -/
theorem loop_repeatsBody (ready : run.Ready loaded place (2 + room)) :
    (∀ count, IsLoop edit loaded room (.loopBeginCount count) .loopRepeat place first last behind →
      ∃ entered, run.Step entered ∧
        (∃ earlier done, Turns edit loaded first last entered earlier done ∧
          (earlier.length : Int) + 1 = max count.toInt 1) ∧
        ∀ earlier done, Turns edit loaded first last entered earlier done →
          (earlier.length : Int) + 1 ≤ max count.toInt 1 ∧
          ((earlier.length : Int) + 1 = max count.toInt 1 → ∃ left, done.Step left ∧
            loaded left.machine ∧ left.Stands behind run.machine.stack)) ∧
    (∀ condition, IsLoop edit loaded room .loopBegin (.loopUntil condition) place first last behind →
      ∃ entered, run.Step entered ∧
        (∃ done, Turns edit loaded first last entered [] done) ∧
        ∀ earlier done, Turns edit loaded first last entered earlier done →
          (∀ turn ∈ earlier, ¬ condition.holds turn.machine.context.register) ∧
          (condition.holds done.machine.context.register → ∃ left, done.Step left ∧
            loaded left.machine ∧ left.Stands behind run.machine.stack) ∧
          (¬ condition.holds done.machine.context.register →
            ∃ later, Turns edit loaded first last entered (earlier ++ [done]) later)) := by
  have built := ready.built
  have spacious := ready.room
  constructor
  · intro count isLoop
    obtain ⟨entered, step, kept, stands⟩ := isLoop.enters ready fun _ => rfl
    have counts := counts_loopRepeat (E := E) count
    refine ⟨entered, step, ?_, ?_⟩
    · obtain ⟨earlier, done, turns, length⟩ := exists_turns_counted isLoop built spacious stands kept
        (max count.toInt 1 - 1).toNat (by omega)
      exact ⟨earlier, done, turns, by omega⟩
    · intro earlier done turns
      obtain ⟨arrived, through, going⟩ := turns.counted isLoop counts built stands kept
      constructor
      · -- the round before has not ended the loop
        rcases List.eq_nil_or_concat earlier with rfl | ⟨before, turn, rfl⟩
        · simp only [List.length_nil]
          omega
        · have continues := going before.length turn (by simp)
          rw [List.length_concat]
          push_cast
          omega
      · intro all
        exact isLoop.leaves counts earlier.length built arrived through.holds (by omega)
  · intro condition isLoop
    obtain ⟨entered, step, kept, stands⟩ := isLoop.enters ready fun _ => rfl
    have counts := counts_loopUntil (E := E) condition
    refine ⟨entered, step, ?_, ?_⟩
    · obtain ⟨done, completes⟩ := isLoop.completes built spacious stands kept
      exact ⟨done, .once completes⟩
    · intro earlier done turns
      obtain ⟨arrived, through, going⟩ := turns.counted isLoop counts built stands kept
      refine ⟨?_, ?_, ?_⟩
      · intro turn member
        obtain ⟨round, found⟩ := List.mem_iff_getElem?.mp member
        exact going round turn found
      · exact isLoop.leaves counts earlier.length built arrived through.holds
      · exact turns.exists_again isLoop counts built spacious stands kept

theorem loop_repeatsBody_nested :
    (∃ entered earlier done left, nested.Step entered ∧
      Turns Machine.KeepsControl Nested ⟨0, 4⟩ ⟨0, 16⟩ entered earlier done ∧ earlier.length = 2 ∧
      done.Step left ∧ left.Stands ⟨0, 20⟩ nested.machine.stack) ∧
    (∃ entered done, (Run.mk true ⟨0, 40⟩ nested.machine).Step entered ∧
      Turns Machine.KeepsControl Nested ⟨0, 44⟩ ⟨0, 48⟩ entered [] done ∧
      (done.machine.context.register = 1 →
        ∃ left, done.Step left ∧ left.Stands ⟨0, 56⟩ nested.machine.stack)) := by
  constructor
  · have ready : nested.Ready Nested ⟨0, 0⟩ 5 := Nested.ready rfl (by decide +kernel) (by decide)
    obtain ⟨entered, step, ⟨earlier, done, turns, length⟩, leaves⟩ :=
      (loop_repeatsBody ready).1 3 Nested.outer
    obtain ⟨left, leaves, _, back⟩ := (leaves earlier done turns).2 length
    have three : max (Int16.toInt 3) 1 = 3 := by decide
    exact ⟨entered, earlier, done, left, step, turns, by omega, leaves, back⟩
  · have ready : (Run.mk true ⟨0, 40⟩ nested.machine).Ready Nested ⟨0, 40⟩ 2 :=
      Nested.ready rfl rfl (by decide)
    obtain ⟨entered, step, ⟨done, turns⟩, leaves⟩ :=
      (loop_repeatsBody ready).2 ⟨.equal, 1⟩ Nested.conditional
    refine ⟨entered, done, step, turns, fun equal => ?_⟩
    have holds : Condition.holds ⟨.equal, 1⟩ done.machine.context.register := by
      rw [equal]
      decide
    obtain ⟨left, leaves, _, back⟩ := (leaves [] done turns).2.1 holds
    exact ⟨left, leaves, back⟩

end Run

end StageScript
