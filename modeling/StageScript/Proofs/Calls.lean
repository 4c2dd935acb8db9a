import StageScript.Proofs.Footprint
import StageScript.Proofs.Stack

/-!
Calls are well bracketed. While a call is open, its return frame and everything below it stay as
they were, whatever loops, calls and scopes come and go above. The step that takes the frame away
therefore leaves the stack of the caller, and goes on behind the call.
-/

namespace StageScript

def Instruction.isCall : Instruction → Bool
  | .jumpLink _ | .jumpLinkIf .. | .execute .. => true
  | _ => false

namespace Stack

variable {stack base after : Stack} {back : Pointer}

/-- A stack on which a call made with another stack has yet to return. -/
def Awaits (stack base : Stack) (back : Pointer) : Prop :=
  ∃ upper opened, stack.frames = upper ++ .ret back :: base.frames ∧
    stack.scopes = opened ++ base.scopes ∧ (∀ scope ∈ opened, base.depth < scope) ∧
    stack.used = slotsOf upper + (1 + base.used)

namespace Awaits

theorem depth_lt (awaits : stack.Awaits base back) : base.depth < stack.depth := by
  obtain ⟨upper, _, frames, _, _, _⟩ := awaits
  simp only [depth, frames, List.length_append, List.length_cons]
  omega

theorem of_push (pushed : base.push (.ret back) = .ok after) : after.Awaits base back := by
  obtain ⟨_, rfl⟩ := push_eq_ok.mp pushed
  exact ⟨[], [], rfl, rfl, by simp, by simp only [slotsOf, Frame.slots]; omega⟩

theorem of_pushScope (pushed : base.pushScope back = .ok after) : after.Awaits base back := by
  obtain ⟨_, framed, rfl⟩ := pushScope_eq_ok.mp pushed
  obtain ⟨_, rfl⟩ := push_eq_ok.mp framed
  exact ⟨[], [base.depth + 1], rfl, rfl, by simp, by simp only [slotsOf, Frame.slots]; omega⟩

theorem push {frame : Frame} (awaits : stack.Awaits base back)
    (pushed : stack.push frame = .ok after) : after.Awaits base back := by
  obtain ⟨upper, opened, frames, scopes, above, used⟩ := awaits
  obtain ⟨_, rfl⟩ := push_eq_ok.mp pushed
  exact ⟨frame :: upper, opened, by simp [frames], scopes, above, by simp only [slotsOf, used]; omega⟩

theorem pushScope {resume : Pointer} (awaits : stack.Awaits base back)
    (pushed : stack.pushScope resume = .ok after) : after.Awaits base back := by
  obtain ⟨inner, framed, rfl⟩ := pushScope_eq_ok.mp pushed
  have deeper := (awaits.push framed).depth_lt
  obtain ⟨upper, opened, frames, scopes, above, used⟩ := awaits.push framed
  refine ⟨upper, inner.depth :: opened, frames, by simp [scopes], ?_, used⟩
  intro scope member
  rcases List.mem_cons.mp member with rfl | member
  · exact deeper
  · exact above scope member

theorem setRemaining (awaits : stack.Awaits base back) (left : Int32) :
    (stack.setRemaining left).Awaits base back := by
  rcases stack.setRemaining_cases left with same | ⟨resume, remaining, rest, top, same⟩
  · rw [same]
    exact awaits
  · rw [same]
    obtain ⟨upper, opened, frames, scopes, above, used⟩ := awaits
    rw [frames] at top
    -- the return frame of the call is not the loop on top
    cases upper with
    | nil => simp at top
    | cons frame upper =>
      simp only [List.cons_append, List.cons.injEq] at top
      obtain ⟨rfl, rfl⟩ := top
      exact ⟨.loop resume left :: upper, opened, rfl, scopes, above, used⟩

theorem unwindScope (awaits : stack.Awaits base back)
    (deeper : base.depth < stack.unwindScope.2.depth) :
    stack.unwindScope.2.Awaits base back := by
  obtain ⟨upper, opened, frames, scopes, above, used⟩ := awaits
  have within : stack.unwindScope.1 ≤ upper.length := by
    simp only [Stack.unwindScope, depth, List.length_drop, frames, List.length_append,
      List.length_cons] at deeper ⊢
    omega
  have counted := slotsOf_append (upper.take stack.unwindScope.1) (upper.drop stack.unwindScope.1)
  rw [List.take_append_drop] at counted
  refine ⟨upper.drop stack.unwindScope.1, opened, ?_, scopes, above, ?_⟩
  · show stack.frames.drop stack.unwindScope.1 = _
    rw [frames, List.drop_append_of_le_length within]
  · show stack.used - slotsOf (stack.frames.take stack.unwindScope.1) = _
    rw [frames, List.take_append_of_le_length within, used]
    omega

theorem pop {top : Frame} (well : base.WellFormed) (awaits : stack.Awaits base back)
    (popped : stack.pop = .ok (top, after)) :
    after.Awaits base back ∨ top = .ret back ∧ after = base := by
  obtain ⟨upper, opened, frames, scopes, above, used⟩ := awaits
  obtain ⟨rest, split, rfl⟩ := pop_eq_ok.mp popped
  rw [frames] at split
  have kept (depth : Nat) (high : base.depth ≤ depth) :
      base.scopes.dropWhile (depth < ·) = base.scopes :=
    dropWhile_eq_self_of_le fun scope member => Nat.le_trans (well.based scope member).2.1 high
  cases upper with
  | nil =>
    simp only [List.nil_append, List.cons.injEq] at split
    obtain ⟨rfl, rfl⟩ := split
    refine .inr ⟨rfl, ?_⟩
    have closed : (opened ++ base.scopes).dropWhile (decide <| base.depth < ·) = base.scopes := by
      rw [List.dropWhile_append_of_pos (by simpa using above), kept _ (Nat.le_refl _)]
    simp only [drop, scopes, used, slotsOf, Frame.slots]
    rw [show base.frames.length = base.depth from rfl, closed]
    simp
  | cons frame upper =>
    simp only [List.cons_append, List.cons.injEq] at split
    obtain ⟨rfl, rfl⟩ := split
    refine .inl ⟨upper, opened.dropWhile (decide <| (upper ++ .ret back :: base.frames).length < ·),
      rfl, ?_, fun scope member => above scope ((List.dropWhile_sublist _).mem member), ?_⟩
    · simp only [drop, scopes, List.dropWhile_append]
      split
      next none =>
        rw [kept _ (by simp only [depth, List.length_append, List.length_cons]; omega)]
        simp only [List.isEmpty_iff] at none
        rw [none]
        rfl
      next => rfl
    · simp only [drop, used, slotsOf]
      omega

end Awaits

/-- What an instruction comes to on the control stack, and where control goes with it. -/
inductive Moved (following : Pointer) (before : Stack) :
    Instruction → Stack → Except Fault Flow → Prop where
  | kept (instruction : Instruction) (flow : Except Fault Flow) :
    Moved following before instruction before flow
  | jumpLink {target : Address} {after : Stack} (entry : Pointer)
    (pushed : before.push (.ret following) = .ok after) :
    Moved following before (.jumpLink target) after (.ok (.goto entry))
  | jumpLinkIf {condition : Condition} {target : Except ReadFault Address} {after : Stack}
    (entry : Pointer) (pushed : before.push (.ret following) = .ok after) :
    Moved following before (.jumpLinkIf condition target) after (.ok (.goto entry))
  | execute {load : SegmentLoad} {address : Address} {after : Stack} (entry : Pointer)
    (pushed : before.pushScope following = .ok after) :
    Moved following before (.execute load address) after (.ok (.goto entry))
  | exitAndExecute {load : SegmentLoad} {address : Address} (entry : Pointer) :
    Moved following before (.exitAndExecute load address) before.unwindScope.2 (.ok (.goto entry))
  | exit {resume : Pointer} {after : Stack} (popped : before.popReturn = .ok (resume, after)) :
    Moved following before .exit after (.ok (.goto resume))
  | ret {resume : Pointer} {after : Stack} (popped : before.popReturn = .ok (resume, after)) :
    Moved following before .ret after (.ok (.goto resume))
  | loopBeginCount {count : Int16} {after : Stack}
    (pushed : before.push (.loop following count.toInt32) = .ok after) :
    Moved following before (.loopBeginCount count) after (.ok .next)
  | loopBegin {after : Stack} (pushed : before.push (.loop following 0) = .ok after) :
    Moved following before .loopBegin after (.ok .next)
  | loopAgain (resume : Pointer) (left : Int32) :
    Moved following before .loopRepeat (before.setRemaining left) (.ok (.goto resume))
  | loopRepeat {resume : Pointer} {remaining : Int32} {after : Stack}
    (popped : before.popLoop = .ok ((resume, remaining), after)) :
    Moved following before .loopRepeat after (.ok .next)
  | loopUntil {condition : Condition} {resume : Pointer} {remaining : Int32} {after : Stack}
    (popped : before.popLoop = .ok ((resume, remaining), after)) :
    Moved following before (.loopUntil condition) after (.ok .next)

theorem Awaits.of_moved {instruction : Instruction} {flow : Except Fault Flow}
    (calls : instruction.isCall) (moved : Moved back base instruction after flow)
    (deeper : base.depth < after.depth) : after.Awaits base back := by
  cases moved with
  | kept => omega
  | jumpLink _ pushed => exact .of_push pushed
  | jumpLinkIf _ pushed => exact .of_push pushed
  | execute _ pushed => exact .of_pushScope pushed
  | _ => simp [Instruction.isCall] at calls

theorem Awaits.moved {following : Pointer} {instruction : Instruction} {flow : Except Fault Flow}
    (well : base.WellFormed) (awaits : stack.Awaits base back)
    (moved : Moved following stack instruction after flow) (deeper : base.depth < after.depth) :
    after.Awaits base back := by
  have popped {top : Frame} (popped : stack.pop = .ok (top, after)) : after.Awaits base back := by
    rcases awaits.pop well popped with still | ⟨_, rfl⟩
    · exact still
    · omega
  cases moved with
  | kept => exact awaits
  | jumpLink _ pushed => exact awaits.push pushed
  | jumpLinkIf _ pushed => exact awaits.push pushed
  | execute _ pushed => exact awaits.pushScope pushed
  | exitAndExecute => exact awaits.unwindScope deeper
  | exit returned => exact popped (pop_of_popReturn returned)
  | ret returned => exact popped (pop_of_popReturn returned)
  | loopBeginCount pushed => exact awaits.push pushed
  | loopBegin pushed => exact awaits.push pushed
  | loopAgain _ left => exact awaits.setRemaining left
  | loopRepeat ended => exact popped (pop_of_popLoop ended)
  | loopUntil ended => exact popped (pop_of_popLoop ended)

theorem Awaits.returned {following : Pointer} {instruction : Instruction}
    {flow : Except Fault Flow} (well : base.WellFormed) (awaits : stack.Awaits base back)
    (moved : Moved following stack instruction after flow)
    (plain : ∀ load entry, instruction ≠ .exitAndExecute load entry)
    (level : after.depth = base.depth) : after = base ∧ flow = .ok (.goto back) := by
  have popped {top : Frame} (popped : stack.pop = .ok (top, after)) :
      top = .ret back ∧ after = base := by
    rcases awaits.pop well popped with still | closed
    · have := still.depth_lt
      omega
    · exact closed
  have returned {resume : Pointer} (returned : stack.popReturn = .ok (resume, after)) :
      after = base ∧ resume = back := by
    obtain ⟨same, left⟩ := popped (pop_of_popReturn returned)
    exact ⟨left, Frame.ret.inj same⟩
  have deeper (still : after.Awaits base back) : False := by
    have := still.depth_lt
    omega
  cases moved with
  | kept => exact (deeper awaits).elim
  | jumpLink _ pushed => exact (deeper (awaits.push pushed)).elim
  | jumpLinkIf _ pushed => exact (deeper (awaits.push pushed)).elim
  | execute _ pushed => exact (deeper (awaits.pushScope pushed)).elim
  | exitAndExecute => exact absurd rfl (plain _ _)
  | exit ended =>
    obtain ⟨same, rfl⟩ := returned ended
    exact ⟨same, rfl⟩
  | ret ended =>
    obtain ⟨same, rfl⟩ := returned ended
    exact ⟨same, rfl⟩
  | loopBeginCount pushed => exact (deeper (awaits.push pushed)).elim
  | loopBegin pushed => exact (deeper (awaits.push pushed)).elim
  | loopAgain _ left => exact (deeper (awaits.setRemaining left)).elim
  | loopRepeat ended => exact absurd (popped (pop_of_popLoop ended)).1 (by simp)
  | loopUntil ended => exact absurd (popped (pop_of_popLoop ended)).1 (by simp)

theorem Built.moved {following : Pointer} {instruction : Instruction} {flow : Except Fault Flow}
    (built : stack.Built) (moved : Moved following stack instruction after flow) : after.Built := by
  cases moved with
  | kept => exact built
  | jumpLink _ pushed => exact built.push pushed
  | jumpLinkIf _ pushed => exact built.push pushed
  | execute _ pushed => exact built.pushScope pushed
  | exitAndExecute => exact built.unwindScope
  | exit popped => exact built.popReturn popped
  | ret popped => exact built.popReturn popped
  | loopBeginCount pushed => exact built.push pushed
  | loopBegin pushed => exact built.push pushed
  | loopAgain _ left => exact built.setRemaining left
  | loopRepeat popped => exact built.popLoop popped
  | loopUntil popped => exact built.popLoop popped

theorem Moved.kept_of_fault {following : Pointer} {instruction : Instruction} {fault : Fault}
    (moved : Moved following stack instruction after (.error fault)) : after = stack := by
  cases moved
  rfl

end Stack

namespace Machine

variable {E : Embedding}

theorem jumpLink_moved (target : Address) (following : Pointer) (machine : Machine E) :
    (machine.jumpLink target following).machine.stack = machine.stack ∨
    ∃ entry, (machine.jumpLink target following).flow = .ok (.goto entry) ∧
      machine.stack.push (.ret following) =
        .ok (machine.jumpLink target following).machine.stack := by
  unfold jumpLink
  split
  next => exact .inl rfl
  next entry _ =>
    unfold push
    split
    next => exact .inl rfl
    next pushed => exact .inr ⟨entry, rfl, pushed⟩

/-- An instruction moves the control stack in its own way or not at all. -/
theorem exec_moved (instruction : Instruction) (following : Pointer) (machine : Machine E) :
    Stack.Moved following machine.stack instruction (machine.exec instruction following).machine.stack
      (machine.exec instruction following).flow := by
  by_cases absent : Part.stack ∉ instruction.footprint
  · rw [(exec_sameExcept instruction following machine).stack absent]
    exact .kept _ _
  · cases instruction with
    | jumpLink target =>
      rcases machine.jumpLink_moved target following with kept | ⟨entry, flow, pushed⟩
      · simp only [exec, kept]
        exact .kept _ _
      · simp only [exec, flow]
        exact .jumpLink entry pushed
    | jumpLinkIf condition target =>
      simp only [exec, whenHolds]
      split
      next =>
        split
        next => exact .kept _ _
        next address =>
          rcases machine.jumpLink_moved address following with kept | ⟨entry, flow, pushed⟩
          · rw [kept]
            exact .kept _ _
          · rw [flow]
            exact .jumpLinkIf entry pushed
      next => exact .kept _ _
    | execute load entry =>
      rcases machine.execute_cases load entry following with
        ⟨_, _, same⟩ | ⟨_, _, same⟩ | ⟨_, _, _, _, _, _, same⟩ |
        ⟨_, _, _, target, pushed, _, _, same⟩ <;> rw [exec, same]
      · exact .kept _ _
      · exact .kept _ _
      · exact .kept _ _
      · exact .execute target pushed
    | exitAndExecute load entry =>
      have replaced := (machine.replaceCheckpoint_sameExcept .exitAndExecute).stack (by simp)
      rcases machine.exitAndExecute_cases load entry with
        ⟨_, _, same⟩ | ⟨_, _, _, _, same⟩ | ⟨_, _, target, _, _, same⟩ <;>
        rw [exec, same, ← replaced]
      · exact .kept _ _
      · exact .kept _ _
      · exact .exitAndExecute target
    | exit =>
      rcases machine.exit_cases with ⟨_, same⟩ | ⟨_, _, same⟩ | ⟨resume, stack, popped, same⟩
      · rw [exec, same]
        exact .kept _ _
      · rw [exec, same]
        exact .kept _ _
      · have closed := (popCheckpoint_sameExcept .exit { machine with stack }).stack (by simp)
        rw [exec, same, goto, closed]
        exact .exit popped
    | ret =>
      simp only [exec, Machine.ret]
      split
      next => exact .kept _ _
      next popped => exact .ret popped
    | loopBeginCount count =>
      simp only [exec, push]
      split
      next => exact .kept _ _
      next pushed => exact .loopBeginCount pushed
    | loopBegin =>
      simp only [exec, push]
      split
      next => exact .kept _ _
      next pushed => exact .loopBegin pushed
    | loopRepeat =>
      simp only [exec, Machine.loopRepeat]
      split
      next => exact .kept _ _
      next popped =>
        split
        next => exact .loopRepeat popped
        next => exact .loopAgain _ _
    | loopUntil condition =>
      simp only [exec, Machine.loopUntil]
      split
      next => exact .kept _ _
      next popped =>
        split
        next => exact .loopUntil popped
        next => exact .kept _ _
    | _ => exact absurd (by simp [Instruction.footprint]) absent

/-- A change by the host that leaves the control stack and the dispatch table alone. -/
structure KeepsControl (before after : Machine E) : Prop where
  stack : after.stack = before.stack
  dispatch : after.dispatch = before.dispatch

end Machine

namespace Run

variable {E : Embedding} [Patches E] {run next : Run E}

theorem Step.moved_of_dispatches {command : Command} {instruction : Instruction}
    (table : run.machine.dispatch = .canonical)
    (dispatched : run.machine.Dispatches run.cursor command instruction) (step : run.Step next) :
    ∃ flow, Stack.Moved command.next run.machine.stack instruction next.machine.stack (.ok flow) ∧
      next.cursor =
        (next.machine.overrides.resolve (flow.target command.next run.cursor)).pointer := by
  obtain ⟨flow, went, followed⟩ := step.of_dispatches table dispatched
  have kept := Machine.sameExcept_of_followed followed
  have moved := run.machine.exec_moved instruction command.next
  rw [went, ← kept.stack (by simp)] at moved
  refine ⟨flow, moved, ?_⟩
  rw [kept.overrides (by simp)]
  exact (congrArg Prod.fst followed).symm

theorem Step.moved (table : run.machine.dispatch = .canonical) (step : run.Step next) :
    next.machine.stack = run.machine.stack ∨
    ∃ command instruction flow, run.machine.Dispatches run.cursor command instruction ∧
      Stack.Moved command.next run.machine.stack instruction next.machine.stack (.ok flow) ∧
      next.cursor =
        (next.machine.overrides.resolve (flow.target command.next run.cursor)).pointer := by
  rcases step.cases table with ⟨command, instruction, _, dispatched, _, _⟩ | ⟨_, paused⟩
  · obtain ⟨flow, moved⟩ := step.moved_of_dispatches table dispatched
    exact .inr ⟨command, instruction, flow, dispatched, moved⟩
  · exact .inl (by rw [paused]; rfl)

theorem Step.built (table : run.machine.dispatch = .canonical) (built : run.machine.stack.Built)
    (step : run.Step next) : next.machine.stack.Built := by
  rcases step.moved table with same | ⟨_, _, _, _, moved, _⟩
  · rw [same]
    exact built
  · exact built.moved moved

theorem Resumes.stack {edit : Machine E → Machine E → Prop}
    (keeps : ∀ before after, edit before after → after.stack = before.stack)
    (table : run.machine.dispatch = .canonical) (resumed : run.Resumes edit next) :
    next.machine.stack = run.machine.stack := by
  obtain ⟨ending, finished, edited, ended, same, edit, started⟩ := resumed.cases
  have kept : ending.machine.stack = run.machine.stack := by
    rcases ended.cases table with same | ⟨command, instruction, _, _, failed, left⟩
    · exact congrArg Machine.stack same
    · have moved := run.machine.exec_moved instruction command.next
      rw [failed] at moved
      rw [left, moved.kept_of_fault]
  rw [started.stack (by simp), keeps _ _ edit, same.stack (by simp), kept]

/-- The call made with a stack is still open, and commands have their canonical meaning. -/
structure InCall (base : Stack) (back : Pointer) (run : Run E) : Prop where
  table : run.machine.dispatch = .canonical
  awaits : run.machine.stack.Awaits base back

theorem InCall.moves {base : Stack} {back : Pointer} (well : base.WellFormed)
    (inside : run.InCall base back) (move : run.Moves Machine.KeepsControl next)
    (deeper : base.depth < next.machine.stack.depth) : next.InCall base back := by
  obtain ⟨table, awaits⟩ := inside
  refine ⟨move.dispatch (fun _ _ keeps => keeps.dispatch) table, ?_⟩
  rcases move with step | resumed
  · rcases step.moved table with same | ⟨_, _, _, _, moved, _⟩
    · rw [same]
      exact awaits
    · exact awaits.moved well moved deeper
  · rw [resumed.stack (fun _ _ keeps => keeps.stack) table]
    exact awaits

/-- A call gives back the stack that it was made with, and goes on behind itself. -/
theorem call_wellBracketed {before entered last after : Run E} {call : Command}
    {instruction : Instruction} (table : before.machine.dispatch = .canonical)
    (built : before.machine.stack.Built)
    (dispatched : before.machine.Dispatches before.cursor call instruction)
    (calls : instruction.isCall) (enters : before.Step entered)
    (inside : entered.Through Machine.KeepsControl
      (fun run => before.machine.stack.depth < run.machine.stack.depth) last)
    (leaves : last.Step after)
    (plain : ∀ command load entry,
      ¬ last.machine.Dispatches last.cursor command (.exitAndExecute load entry))
    (level : after.machine.stack.depth = before.machine.stack.depth) :
    after.machine.stack = before.machine.stack ∧
      after.cursor = (after.machine.overrides.resolve call.next).pointer := by
  have well := built.wellFormed
  have opened : entered.InCall before.machine.stack call.next := by
    obtain ⟨flow, moved, _⟩ := enters.moved_of_dispatches table dispatched
    exact ⟨enters.dispatch table, .of_moved calls moved inside.1⟩
  have still : last.InCall before.machine.stack call.next :=
    inside.last_of_moves opened fun _ _ still move deeper => still.moves well move deeper
  rcases leaves.moved still.table with same | ⟨command, ending, flow, runs, moved, went⟩
  · have := still.awaits.depth_lt
    rw [same] at level
    omega
  · have other : ∀ load entry, ending ≠ .exitAndExecute load entry := by
      rintro load entry rfl
      exact plain command load entry runs
    obtain ⟨same, returned⟩ := still.awaits.returned well moved other level
    cases returned
    exact ⟨same, went⟩

/-- A call of a routine that turns a loop twice, with an exit behind the call. -/
def counting : Run Scripted.embedding := ofScript #[] #[
  0x06, 8, 0, 0, 12, 0, 0, 0x10,
  0x02, 4, 0, 0,
  0x08, 4, 2, 0,
  0x09, 4, 0, 0,
  0x07, 4, 0, 0]

theorem call_wellBracketed_counting :
    ∃ entered last after, counting.Step entered ∧
      entered.Through Machine.KeepsControl
        (fun run => counting.machine.stack.depth < run.machine.stack.depth) last ∧
      last.Step after ∧ after.machine.stack = counting.machine.stack ∧ after.cursor = ⟨0, 8⟩ := by
  let entered := counting.next?.get (by decide +kernel)
  have enters : counting.Step entered := (Option.some_get _).symm
  let last := (entered.ahead? (fun run =>
    counting.machine.stack.depth < run.machine.stack.depth) 3).get (by decide +kernel)
  have inside : entered.Through Machine.KeepsControl
      (fun run => counting.machine.stack.depth < run.machine.stack.depth) last :=
    through_of_ahead? (Option.some_get _).symm
  let after := last.next?.get (by decide +kernel)
  have leaves : last.Step after := (Option.some_get _).symm
  have dispatched : counting.machine.Dispatches counting.cursor
      ⟨⟨0, 0⟩, 0x06, 8, #[0x06, 8, 0, 0, 12, 0, 0, 0x10], .standard⟩ (.jumpLink ⟨0x1000000C⟩) :=
    Machine.fetch?_eq_some.mp (by decide +kernel)
  have returns : last.machine.Dispatches last.cursor
      ⟨⟨0, 20⟩, 0x07, 4, #[0x07, 4, 0, 0], .standard⟩ .ret :=
    Machine.fetch?_eq_some.mp (by decide +kernel)
  have plain : ∀ command load entry,
      ¬ last.machine.Dispatches last.cursor command (.exitAndExecute load entry) := by
    intro command load entry replaces
    exact Instruction.noConfusion (returns.unique replaces).2
  have built : counting.machine.stack.Built := by
    rw [show counting.machine.stack = .empty from stack_ofScript _ _]
    exact .empty
  obtain ⟨same, went⟩ := call_wellBracketed (dispatch_ofScript _ _) built dispatched rfl
    enters inside leaves plain (by decide +kernel)
  refine ⟨entered, last, after, enters, inside, leaves, same, ?_⟩
  rw [went]
  decide +kernel

end Run

end StageScript
