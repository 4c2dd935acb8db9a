import StageScript.Proofs.Operation
import StageScript.Proofs.Stack

/-!
Unwinding. An operation on a control stack works on the stack in place, step by step, and none of its
steps can fail once the stack has been touched. So a stack is what is left of the pushes that were made
on it. Its scopes are bare depths, but whatever is pushed and popped they are the depths of the return
frames that were pushed with a scope, and it is at the innermost of these that unwinding stops.
-/

namespace StageScript

def Frame.kind : Frame → FrameKind
  | .ret _ => .ret
  | .loop _ _ => .loop

namespace Stack

inductive Operation where
  | push (frame : Frame)
  | pushScope (resume : Pointer)
  | pop
  | popReturn
  | popLoop
  | setRemaining (remaining : Int32)
  | unwindScope
  | clear
  deriving DecidableEq, Repr

inductive Answer where
  | nothing
  | frame (frame : Frame)
  | place (resume : Pointer)
  | loop (resume : Pointer) (remaining : Int32)
  | dropped (frames : Nat)
  deriving DecidableEq, Repr

namespace Operation

def pushFrame (frame : Frame) : EStateM StackFault Stack Unit := do
  MonadExcept.ofExcept ((← get).ensureRoom frame.slots)
  modify fun stack => { stack with used := stack.used + frame.slots }
  modify fun stack => { stack with frames := frame :: stack.frames }

def popFrame : EStateM StackFault Stack Frame := do
  match (← get).frames with
  | [] => throw .underflow
  | top :: rest =>
    modify ({ · with frames := rest })
    modify fun stack => { stack with used := stack.used - top.slots }
    modify fun stack => { stack with scopes := stack.scopes.dropWhile (stack.depth < ·) }
    return top

def expectTop (expected : FrameKind) : EStateM StackFault Stack Unit := do
  match (← get).frames with
  | [] => throw .underflow
  | top :: _ => unless top.kind = expected do throw (.mismatch expected top.kind)

/-- Carries out an operation, one step after the other. -/
def perform : Operation → EStateM StackFault Stack Answer
  | .push frame => do
    pushFrame frame
    return .nothing
  | .pushScope resume => do
    pushFrame (.ret resume)
    modify fun stack => { stack with scopes := stack.depth :: stack.scopes }
    return .nothing
  | .pop => do return .frame (← popFrame)
  | .popReturn => do
    expectTop .ret
    match ← popFrame with
    | .ret resume => return .place resume
    | .loop _ _ => throw (.mismatch .ret .loop)
  | .popLoop => do
    expectTop .loop
    match ← popFrame with
    | .loop resume remaining => return .loop resume remaining
    | .ret _ => throw (.mismatch .loop .ret)
  | .setRemaining remaining => do
    expectTop .loop
    match (← get).frames with
    | [] => throw .underflow
    | .ret _ :: _ => throw (.mismatch .loop .ret)
    | .loop resume _ :: rest =>
      modify ({ · with frames := .loop resume remaining :: rest })
      return .place resume
  | .unwindScope => do
    let stack ← get
    let dropped := stack.depth - stack.scopes.head?.getD 0
    modify ({ · with frames := stack.frames.drop dropped })
    modify fun left =>
      let freed := (stack.frames.take dropped).foldr (fun frame used => used - frame.slots) left.used
      { left with used := freed }
    return .dropped dropped
  | .clear => do
    modify ({ · with frames := [] })
    modify ({ · with scopes := [] })
    modify ({ · with used := 0 })
    return .nothing

/-- What an operation comes to as one whole: an answer with the stack afterwards, or a fault. -/
def outcome (stack : Stack) : Operation → Except StackFault (Answer × Stack)
  | .push frame => (stack.push frame).map (.nothing, ·)
  | .pushScope resume => (stack.pushScope resume).map (.nothing, ·)
  | .pop => stack.pop.map (Prod.map .frame id)
  | .popReturn => stack.popReturn.map (Prod.map .place id)
  | .popLoop => stack.popLoop.map (Prod.map (fun (resume, remaining) => .loop resume remaining) id)
  | .setRemaining remaining =>
    stack.topLoop.map fun (resume, _) => (.place resume, stack.setRemaining remaining)
  | .unwindScope => .ok (.dropped stack.unwindScope.1, stack.unwindScope.2)
  | .clear => .ok (.nothing, .empty)

theorem foldr_sub_slots (frames : List Frame) (used : Nat) :
    frames.foldr (fun frame used => used - frame.slots) used = used - slotsOf frames := by
  induction frames with
  | nil => rfl
  | cons frame rest ih =>
    simp only [List.foldr_cons, ih, slotsOf]
    omega

theorem bind_eq {α β : Type} (first : EStateM StackFault Stack α)
    (next : α → EStateM StackFault Stack β) (stack : Stack) :
    (first >>= next) stack = match first stack with
      | .ok answer after => next answer after
      | .error fault left => .error fault left := by
  simp only [bind, EStateM.bind]
  cases first stack <;> rfl

theorem pushFrame_eq (frame : Frame) (stack : Stack) :
    pushFrame frame stack = match stack.push frame with
      | .ok after => .ok () after
      | .error fault => .error fault stack := by
  have read : (get : EStateM StackFault Stack Stack) stack = .ok stack stack := rfl
  simp only [pushFrame, Stack.push, bind_eq, read]
  cases stack.ensureRoom frame.slots <;> rfl

/-- An operation that fails leaves the stack as it was, and any other is the one whole it seems. -/
theorem perform_eq (operation : Operation) (stack : Stack) :
    operation.perform stack = match operation.outcome stack with
      | .ok (answer, after) => .ok answer after
      | .error fault => .error fault stack := by
  cases operation with
  | push frame =>
    simp only [perform, bind_eq, pushFrame_eq, outcome]
    cases stack.push frame <;> rfl
  | pushScope resume =>
    simp only [perform, bind_eq, pushFrame_eq, outcome, Stack.pushScope]
    cases stack.push (.ret resume) <;> rfl
  | pop =>
    obtain ⟨frames, used, scopes⟩ := stack
    cases frames <;> rfl
  | popReturn =>
    obtain ⟨frames, used, scopes⟩ := stack
    cases frames with
    | nil => rfl
    | cons top rest => cases top <;> rfl
  | popLoop =>
    obtain ⟨frames, used, scopes⟩ := stack
    cases frames with
    | nil => rfl
    | cons top rest => cases top <;> rfl
  | setRemaining remaining =>
    obtain ⟨frames, used, scopes⟩ := stack
    cases frames with
    | nil => rfl
    | cons top rest => cases top <;> rfl
  | unwindScope =>
    simp only [outcome, Stack.unwindScope]
    rw [← foldr_sub_slots]
    rfl
  | clear => rfl

theorem perform_cases (operation : Operation) (stack : Stack) :
    (∃ answer after, operation.perform stack = .ok answer after ∧
      operation.outcome stack = .ok (answer, after)) ∨
    ∃ fault, operation.perform stack = .error fault stack := by
  have performed := operation.perform_eq stack
  cases done : operation.outcome stack with
  | ok result =>
    rw [done] at performed
    exact .inl ⟨result.1, result.2, performed, rfl⟩
  | error fault =>
    rw [done] at performed
    exact .inr ⟨fault, performed⟩

end Operation

/-- What is left of a push: a frame on its own, or the return frame of a scope. -/
inductive Entry where
  | single (frame : Frame)
  | scope (resume : Pointer)
  deriving DecidableEq, Repr

namespace Entry

def frame : Entry → Frame
  | .single frame => frame
  | .scope resume => .ret resume

def opensScope : Entry → Bool
  | .single _ => false
  | .scope _ => true

end Entry

/-- The entries that an operation leaves of those there are, the last one first. -/
def Operation.record : Operation → List Entry → List Entry
  | .push frame, entries => .single frame :: entries
  | .pushScope resume, entries => .scope resume :: entries
  | .pop, entries | .popReturn, entries | .popLoop, entries => entries.tail
  | .setRemaining remaining, .single (.loop resume _) :: rest =>
    .single (.loop resume remaining) :: rest
  | .setRemaining _, entries => entries
  | .unwindScope, entries => entries.dropWhile (!·.opensScope)
  | .clear, _ => []

def advance (state : Stack × List Entry) (operation : Operation) : Stack × List Entry :=
  match operation.perform state.1 with
  | .ok _ after => (after, operation.record state.2)
  | .error _ left => (left, state.2)

/-- The stack that operations make of the empty one, with the entries that are left of their pushes. -/
def recorded (operations : List Operation) : Stack × List Entry :=
  operations.foldl advance (.empty, [])

/-- The depths just above the return frames of scopes, innermost scope first. -/
def bases : List Entry → List Nat
  | [] => []
  | .scope _ :: rest => (rest.length + 1) :: bases rest
  | .single _ :: rest => bases rest

theorem le_length_of_mem_bases (entries : List Entry) :
    ∀ base ∈ bases entries, base ≤ entries.length := by
  induction entries with
  | nil => simp [bases]
  | cons entry rest ih =>
    intro base member
    cases entry with
    | single frame => exact Nat.le_succ_of_le (ih base member)
    | scope resume =>
      rcases List.mem_cons.mp member with rfl | inner
      · exact Nat.le_refl _
      · exact Nat.le_succ_of_le (ih base inner)

theorem dropWhile_bases (entry : Entry) (rest : List Entry) :
    (bases (entry :: rest)).dropWhile (rest.length < ·) = bases rest := by
  have kept := dropWhile_eq_self_of_le (le_length_of_mem_bases rest)
  cases entry with
  | single frame => exact kept
  | scope resume =>
    rw [bases, List.dropWhile_cons_of_pos (by simp)]
    exact kept

/-- The innermost scope begins just above the last return frame that was pushed for a scope. -/
theorem head_bases (entries : List Entry) :
    (bases entries).head?.getD 0 = (entries.dropWhile (!·.opensScope)).length := by
  induction entries with
  | nil => rfl
  | cons entry rest ih =>
    cases entry with
    | single frame => exact ih
    | scope resume => rfl

theorem bases_dropWhile (entries : List Entry) :
    bases (entries.dropWhile (!·.opensScope)) = bases entries := by
  induction entries with
  | nil => rfl
  | cons entry rest ih =>
    cases entry with
    | single frame => exact ih
    | scope resume => rfl

structure Records (stack : Stack) (entries : List Entry) : Prop where
  built : stack.Built
  frames : stack.frames = entries.map Entry.frame
  scopes : stack.scopes = bases entries

namespace Records

variable {stack after : Stack} {entries : List Entry} (records : stack.Records entries)
include records

theorem depth : stack.depth = entries.length := by
  rw [Stack.depth, records.frames, List.length_map]

theorem push {frame : Frame} (pushed : stack.push frame = .ok after) :
    after.Records (.single frame :: entries) where
  built := .push records.built pushed
  frames := by
    obtain ⟨_, rfl⟩ := push_eq_ok.mp pushed
    simp [records.frames, Entry.frame]
  scopes := by
    obtain ⟨_, rfl⟩ := push_eq_ok.mp pushed
    exact records.scopes

theorem pushScope {resume : Pointer} (pushed : stack.pushScope resume = .ok after) :
    after.Records (.scope resume :: entries) where
  built := .pushScope records.built pushed
  frames := by
    obtain ⟨inner, framed, rfl⟩ := pushScope_eq_ok.mp pushed
    exact (records.push framed).frames
  scopes := by
    obtain ⟨inner, framed, rfl⟩ := pushScope_eq_ok.mp pushed
    have kept := records.push framed
    simp only [kept.depth, kept.scopes, bases, List.length_cons]

theorem pop {top : Frame} (popped : stack.pop = .ok (top, after)) : after.Records entries.tail := by
  obtain ⟨rest, frames, same⟩ := pop_eq_ok.mp popped
  have recorded := records.frames
  rw [frames] at recorded
  cases entries with
  | nil => cases recorded
  | cons entry others =>
    rw [List.map_cons, List.cons.injEq] at recorded
    refine { built := .pop records.built popped, frames := ?_, scopes := ?_ }
    · rw [same]
      exact recorded.2
    · rw [same, drop, records.scopes, recorded.2, List.length_map]
      exact dropWhile_bases entry others

theorem setRemaining {resume : Pointer} {remaining : Int32}
    (top : stack.topLoop = .ok (resume, remaining)) (left : Int32) :
    (stack.setRemaining left).Records ((Operation.setRemaining left).record entries) := by
  unfold topLoop at top
  split at top
  next => cases top
  next => cases top
  next resume remaining rest frames =>
    have recorded := records.frames
    rw [frames] at recorded
    have same : stack.setRemaining left = { stack with frames := .loop resume left :: rest } := by
      rw [Stack.setRemaining, frames]
    match entries, recorded with
    | .single frame :: others, recorded =>
      rw [List.map_cons, List.cons.injEq] at recorded
      obtain ⟨rfl, rfl⟩ := recorded
      refine { built := .setRemaining records.built left, frames := ?_, scopes := ?_ }
      · rw [same]
        rfl
      · rw [same]
        exact records.scopes

theorem unwindScope :
    stack.unwindScope.1 = (entries.takeWhile (!·.opensScope)).length ∧
      stack.unwindScope.2.Records (entries.dropWhile (!·.opensScope)) := by
  have parts : entries.takeWhile (!·.opensScope) ++ entries.dropWhile (!·.opensScope) = entries :=
    List.takeWhile_append_dropWhile
  have lengths := congrArg List.length parts
  rw [List.length_append] at lengths
  have dropped : stack.unwindScope.1 = (entries.takeWhile (!·.opensScope)).length := by
    simp only [Stack.unwindScope, records.depth, records.scopes, head_bases]
    omega
  refine ⟨dropped, .unwindScope records.built, ?_, ?_⟩
  · change stack.frames.drop stack.unwindScope.1 = _
    rw [dropped, records.frames, ← List.map_drop]
    exact congrArg _ ((congrArg _ parts).symm.trans List.drop_left)
  · rw [bases_dropWhile]
    exact records.scopes

theorem outcome {operation : Operation} {answer : Answer}
    (done : operation.outcome stack = .ok (answer, after)) :
    after.Records (operation.record entries) := by
  cases operation with
  | push frame =>
    obtain ⟨_, pushed, same⟩ := map_eq_ok done
    cases same
    exact records.push pushed
  | pushScope resume =>
    obtain ⟨_, pushed, same⟩ := map_eq_ok done
    cases same
    exact records.pushScope pushed
  | pop =>
    obtain ⟨_, popped, same⟩ := map_eq_ok done
    cases same
    exact records.pop popped
  | popReturn =>
    obtain ⟨_, popped, same⟩ := map_eq_ok done
    cases same
    exact records.pop (pop_of_popReturn popped)
  | popLoop =>
    obtain ⟨_, popped, same⟩ := map_eq_ok done
    cases same
    exact records.pop (pop_of_popLoop popped)
  | setRemaining left =>
    obtain ⟨_, top, same⟩ := map_eq_ok done
    cases same
    exact records.setRemaining top left
  | unwindScope =>
    cases done
    exact records.unwindScope.2
  | clear =>
    cases done
    exact ⟨.empty, rfl, rfl⟩

end Records

theorem records_recorded (operations : List Operation) :
    (recorded operations).1.Records (recorded operations).2 := by
  have kept (state : Stack × List Entry) (records : state.1.Records state.2) :
      (operations.foldl advance state).1.Records (operations.foldl advance state).2 := by
    induction operations generalizing state with
    | nil => exact records
    | cons operation rest ih =>
      apply ih
      unfold advance
      rcases operation.perform_cases state.1 with ⟨_, _, performed, done⟩ | ⟨_, failed⟩
      · rw [performed]
        exact records.outcome done
      · rw [failed]
        exact records
  exact kept _ ⟨.empty, rfl, rfl⟩

/-- Whatever operations are carried out, the slots are counted right and do not exceed the room there
is, the scopes begin just above return frames, each inside the one before, and an operation that fails
changes nothing. The frames are those that are left of the pushes, and unwinding drops just those above
the return frame of the scope that was opened last of those not yet popped, or all of them if there is
none, and answers how many they were. -/
theorem operations_keepScopes (operations : List Operation) :
    let stack := (recorded operations).1
    let entries := (recorded operations).2
    let above := entries.takeWhile (!·.opensScope)
    let below := entries.dropWhile (!·.opensScope)
    stack.WellFormed ∧
    (∀ operation : Operation, (∃ answer after, operation.perform stack = .ok answer after) ∨
      ∃ fault, operation.perform stack = .error fault stack) ∧
    stack.frames = entries.map Entry.frame ∧
    ∃ unwound, Operation.unwindScope.perform stack = .ok (.dropped above.length) unwound ∧
      stack.frames = above.map Entry.frame ++ unwound.frames ∧
      unwound.frames = below.map Entry.frame ∧ unwound.scopes = stack.scopes := by
  intro stack entries above below
  have records : stack.Records entries := records_recorded operations
  obtain ⟨dropped, unwound⟩ := records.unwindScope
  refine
    ⟨records.built.wellFormed, ?_, records.frames, stack.unwindScope.2, ?_, ?_, unwound.frames, rfl⟩
  · intro operation
    rcases operation.perform_cases stack with ⟨answer, after, performed, _⟩ | failed
    · exact .inl ⟨answer, after, performed⟩
    · exact .inr failed
  · rw [Operation.perform_eq, ← dropped]
    rfl
  · rw [unwound.frames, ← List.map_append, List.takeWhile_append_dropWhile, records.frames]

/-- The return frame of the scope stays, and so does the call from outside it. -/
example : (recorded [.push (.ret ⟨0, 4⟩), .pushScope ⟨0, 8⟩, .push (.loop ⟨0, 12⟩ 2),
    .push (.ret ⟨0, 16⟩), .unwindScope]).1 = ⟨[.ret ⟨0, 8⟩, .ret ⟨0, 4⟩], 2, [2]⟩ := by
  decide

end Stack

end StageScript
