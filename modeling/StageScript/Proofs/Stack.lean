import StageScript.Machine.Stack

/-!
The control stacks there are. Each is made from the empty one by the operations of the stack, and
so its slots are counted right and its scopes begin just above return frames.
-/

namespace StageScript

namespace Stack

variable {stack after : Stack}

theorem slotsOf_append (upper lower : List Frame) :
    slotsOf (upper ++ lower) = slotsOf upper + slotsOf lower := by
  induction upper with
  | nil => simp [slotsOf]
  | cons frame rest ih =>
    simp only [List.cons_append, slotsOf, ih]
    omega

theorem push_eq_ok {frame : Frame} :
    stack.push frame = .ok after ↔ stack.used + frame.slots ≤ stackSlots ∧
      after = { stack with frames := frame :: stack.frames, used := stack.used + frame.slots } := by
  by_cases room : stack.used + frame.slots ≤ stackSlots
  · have enough : ¬ stackSlots < stack.used + frame.slots := by omega
    simp [push, ensureRoom, bind, Except.bind, pure, Except.pure, room, enough, eq_comm]
  · have full : stackSlots < stack.used + frame.slots := by omega
    simp [push, ensureRoom, bind, Except.bind, room, full]

theorem pushScope_eq_ok {resume : Pointer} :
    stack.pushScope resume = .ok after ↔ ∃ pushed, stack.push (.ret resume) = .ok pushed ∧
      after = { pushed with scopes := pushed.depth :: pushed.scopes } := by
  cases done : stack.push (.ret resume) with
  | error => simp [pushScope, bind, Except.bind, done]
  | ok pushed => simp [pushScope, bind, Except.bind, pure, Except.pure, done, eq_comm]

theorem pop_eq_ok {top : Frame} :
    stack.pop = .ok (top, after) ↔ ∃ rest, stack.frames = top :: rest ∧ after = stack.drop top rest := by
  unfold pop
  split
  next => simp_all
  next _ _ frames =>
    simp only [frames, Except.ok.injEq, Prod.mk.injEq, List.cons.injEq]
    constructor
    · rintro ⟨rfl, rfl⟩
      exact ⟨_, ⟨rfl, rfl⟩, rfl⟩
    · rintro ⟨_, ⟨rfl, rfl⟩, rfl⟩
      exact ⟨rfl, rfl⟩

theorem pop_of_popReturn {resume : Pointer} (popped : stack.popReturn = .ok (resume, after)) :
    stack.pop = .ok (.ret resume, after) := by
  unfold popReturn at popped
  split at popped
  next => simp at popped
  next => simp at popped
  next frames =>
    simp only [Except.ok.injEq, Prod.mk.injEq] at popped
    obtain ⟨rfl, rfl⟩ := popped
    exact pop_eq_ok.mpr ⟨_, frames, rfl⟩

theorem pop_of_popLoop {resume : Pointer} {remaining : Int32}
    (popped : stack.popLoop = .ok ((resume, remaining), after)) :
    stack.pop = .ok (.loop resume remaining, after) := by
  unfold popLoop at popped
  split at popped
  next => simp at popped
  next => simp at popped
  next frames =>
    simp only [Except.ok.injEq, Prod.mk.injEq] at popped
    obtain ⟨⟨rfl, rfl⟩, rfl⟩ := popped
    exact pop_eq_ok.mpr ⟨_, frames, rfl⟩

theorem setRemaining_cases (stack : Stack) (left : Int32) :
    stack.setRemaining left = stack ∨ ∃ resume remaining rest,
      stack.frames = .loop resume remaining :: rest ∧
      stack.setRemaining left = { stack with frames := .loop resume left :: rest } := by
  unfold setRemaining
  split
  next resume remaining rest frames => exact .inr ⟨resume, remaining, rest, frames, rfl⟩
  next => exact .inl rfl

theorem frames_unwindScope (stack : Stack) :
    stack.frames = stack.frames.take stack.unwindScope.1 ++ stack.unwindScope.2.frames :=
  (List.take_append_drop _ _).symm

inductive Built : Stack → Prop where
  | empty : Built .empty
  | push {stack after : Stack} {frame : Frame} (built : Built stack)
    (pushed : stack.push frame = .ok after) : Built after
  | pushScope {stack after : Stack} {resume : Pointer} (built : Built stack)
    (pushed : stack.pushScope resume = .ok after) : Built after
  | pop {stack after : Stack} {top : Frame} (built : Built stack)
    (popped : stack.pop = .ok (top, after)) : Built after
  | setRemaining {stack : Stack} (built : Built stack) (left : Int32) :
    Built (stack.setRemaining left)
  | unwindScope {stack : Stack} (built : Built stack) : Built stack.unwindScope.2

/-- A scope can begin at a depth that lies just above a return frame. -/
def IsBase (frames : List Frame) (base : Nat) : Prop :=
  0 < base ∧ base ≤ frames.length ∧ ∃ resume, frames[frames.length - base]? = some (.ret resume)

theorem isBase_append (upper : List Frame) {lower : List Frame} {base : Nat} (low : base ≤ lower.length) :
    IsBase (upper ++ lower) base ↔ IsBase lower base := by
  have index : upper.length + lower.length - base = upper.length + (lower.length - base) := by omega
  have below : base ≤ upper.length + lower.length := by omega
  simp only [IsBase, List.length_append, index, below, low, true_and]
  rw [List.getElem?_append_right (by omega)]
  simp

structure WellFormed (stack : Stack) : Prop where
  counted : stack.used = slotsOf stack.frames
  room : stack.used ≤ stackSlots
  nested : stack.scopes.Pairwise (· > ·)
  based : ∀ base ∈ stack.scopes, IsBase stack.frames base

theorem le_of_mem_dropWhile {scopes : List Nat} (nested : scopes.Pairwise (· > ·)) (depth : Nat) :
    ∀ base ∈ scopes.dropWhile (depth < ·), base ≤ depth := by
  induction scopes with
  | nil => simp
  | cons first rest ih =>
    obtain ⟨above, nested⟩ := List.pairwise_cons.mp nested
    by_cases closed : depth < first
    · simpa [List.dropWhile_cons, closed] using ih nested
    · intro base member
      simp only [List.dropWhile_cons, closed, decide_false, Bool.false_eq_true, if_false,
        List.mem_cons] at member
      rcases member with rfl | member
      · omega
      · have := above base member
        omega

theorem dropWhile_eq_self_of_le {scopes : List Nat} {depth : Nat}
    (low : ∀ base ∈ scopes, base ≤ depth) : scopes.dropWhile (depth < ·) = scopes := by
  cases scopes with
  | nil => rfl
  | cons first rest =>
    have innermost := low first (by simp)
    exact List.dropWhile_cons_of_neg (by simp only [decide_eq_true_eq]; omega)

theorem le_head_of_mem {scopes : List Nat} (nested : scopes.Pairwise (· > ·)) :
    ∀ base ∈ scopes, base ≤ scopes.head?.getD 0 := by
  cases nested with
  | nil => simp
  | cons above _ =>
    intro base member
    rcases List.mem_cons.mp member with rfl | member
    · simp
    · exact Nat.le_of_lt (above base member)

namespace WellFormed

theorem empty : WellFormed .empty where
  counted := rfl
  room := by decide
  nested := .nil
  based := by simp [Stack.empty]

theorem push {frame : Frame} (well : WellFormed stack) (pushed : stack.push frame = .ok after) :
    WellFormed after := by
  obtain ⟨room, rfl⟩ := push_eq_ok.mp pushed
  exact {
    counted := by simp only [slotsOf, well.counted]; omega
    room := room
    nested := well.nested
    based base member :=
      (isBase_append [frame] (well.based base member).2.1).mpr (well.based base member) }

theorem pushScope {resume : Pointer} (well : WellFormed stack)
    (pushed : stack.pushScope resume = .ok after) : WellFormed after := by
  obtain ⟨inner, framed, rfl⟩ := pushScope_eq_ok.mp pushed
  have kept := well.push framed
  obtain ⟨_, rfl⟩ := push_eq_ok.mp framed
  refine { counted := kept.counted, room := kept.room, nested := ?_, based := ?_ }
  · refine List.pairwise_cons.mpr ⟨fun base member => ?_, well.nested⟩
    have := (well.based base member).2.1
    simp only [depth, List.length_cons]
    omega
  · intro base member
    rcases List.mem_cons.mp member with rfl | member
    · simp [IsBase, depth]
    · exact kept.based base member

theorem pop {top : Frame} (well : WellFormed stack) (popped : stack.pop = .ok (top, after)) :
    WellFormed after := by
  obtain ⟨rest, frames, rfl⟩ := pop_eq_ok.mp popped
  have counted : stack.used = top.slots + slotsOf rest := by rw [well.counted, frames]; rfl
  have room := well.room
  refine {
    counted := by simp only [drop]; omega
    room := by simp only [drop]; omega
    nested := well.nested.sublist (List.dropWhile_sublist _)
    based := ?_ }
  intro base member
  have based := well.based base ((List.dropWhile_sublist _).mem member)
  rw [frames] at based
  exact (isBase_append [top] (le_of_mem_dropWhile well.nested _ base member)).mp based

theorem setRemaining (well : WellFormed stack) (left : Int32) :
    WellFormed (stack.setRemaining left) := by
  rcases stack.setRemaining_cases left with same | ⟨resume, remaining, rest, frames, same⟩
  · rw [same]
    exact well
  · rw [same]
    refine { counted := ?_, room := well.room, nested := well.nested, based := ?_ }
    · simp only [well.counted, frames, slotsOf, Frame.slots]
    · intro base member
      have based := well.based base member
      rw [frames] at based
      have low : base ≤ rest.length := by
        -- the frame on top is no return frame, so no scope begins above it
        rcases Nat.lt_or_ge rest.length base with high | low
        · obtain ⟨_, le, resume, found⟩ := based
          have top : (Frame.loop resume remaining :: rest).length - base = 0 := by
            simp only [List.length_cons] at le ⊢
            omega
          simp_all
        · exact low
      exact (isBase_append [_] low).mpr ((isBase_append [_] low).mp based)

theorem unwindScope (well : WellFormed stack) : WellFormed stack.unwindScope.2 := by
  have split := stack.frames_unwindScope
  have used : stack.unwindScope.2.used =
    stack.used - slotsOf (stack.frames.take stack.unwindScope.1) := rfl
  have counted := well.counted
  rw [split, slotsOf_append] at counted
  have room := well.room
  refine { counted := by omega, room := by omega, nested := well.nested, based := ?_ }
  intro base member
  have based := well.based base member
  have low : base ≤ stack.unwindScope.2.frames.length := by
    have innermost := le_head_of_mem well.nested base member
    have := based.2.1
    simp only [Stack.unwindScope, List.length_drop, depth]
    omega
  rw [split] at based
  exact (isBase_append _ low).mp based

end WellFormed

theorem Built.wellFormed (built : Built stack) : stack.WellFormed := by
  induction built with
  | empty => exact .empty
  | push _ pushed ih => exact ih.push pushed
  | pushScope _ pushed ih => exact ih.pushScope pushed
  | pop _ popped ih => exact ih.pop popped
  | setRemaining _ left ih => exact ih.setRemaining left
  | unwindScope _ ih => exact ih.unwindScope

theorem Built.popReturn {resume : Pointer} (built : Built stack)
    (popped : stack.popReturn = .ok (resume, after)) : Built after :=
  .pop built (pop_of_popReturn popped)

theorem Built.popLoop {resume : Pointer} {remaining : Int32} (built : Built stack)
    (popped : stack.popLoop = .ok ((resume, remaining), after)) : Built after :=
  .pop built (pop_of_popLoop popped)

end Stack

end StageScript
