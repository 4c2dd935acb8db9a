import StageScript.Proofs.Operation

/-!
The lifetime of a buffer. It is issued with the next number, keeps its bytes for as long as it is
live, and once it is released its number stands for nothing any more. Nothing that a checkpoint
restores brings back the count of the numbers that are issued.
-/

namespace StageScript

namespace Memory

variable {memory after later : Memory}

theorem permanent?_cases (memory : Memory) (id : BufferId) :
    memory.permanent? id = memory.slot? id ∨ memory.permanent? id = none := by
  unfold permanent?
  cases memory.slot? id with
  | none => exact .inl rfl
  | some buffer => cases pooled : buffer.pooled <;> simp [Option.filter, pooled]

/-- What time does to the buffers of a memory: none changes and none that is gone comes back, and
a buffer that no checkpoint can release stays. -/
structure Aged (memory after : Memory) : Prop where
  issued : memory.slots.size ≤ after.slots.size
  slots : ∀ id < memory.slots.size, after.slot? id = memory.slot? id ∨ after.slot? id = none
  permanent : ∀ id < memory.slots.size, after.permanent? id = memory.permanent? id

namespace Aged

theorem refl (memory : Memory) : memory.Aged memory where
  issued := Nat.le_refl _
  slots _ _ := .inl rfl
  permanent _ _ := rfl

theorem trans (aged : memory.Aged after) (further : after.Aged later) : memory.Aged later := by
  refine {
    issued := Nat.le_trans aged.issued further.issued
    slots := ?_
    permanent := ?_ }
  · intro id old
    rcases further.slots id (Nat.lt_of_lt_of_le old aged.issued) with same | gone
    · rw [same]
      exact aged.slots id old
    · exact .inr gone
  · intro id old
    rw [further.permanent id (Nat.lt_of_lt_of_le old aged.issued), aged.permanent id old]

theorem of_slots (same : after.slots = memory.slots) : memory.Aged after := by
  have slots (id : BufferId) : after.slot? id = memory.slot? id := by rw [slot?, same, slot?]
  exact {
    issued := Nat.le_of_eq (congrArg Array.size same.symm)
    slots id _ := .inl (slots id)
    permanent id _ := congrArg (Option.filter _) (slots id) }

theorem push {buffer : Buffer} (pushed : after.slots = memory.slots.push (some buffer)) :
    memory.Aged after := by
  have slots (id : BufferId) (old : id < memory.slots.size) : after.slot? id = memory.slot? id :=
    slot?_push_of_lt pushed old
  exact {
    issued := by rw [pushed, Array.size_push]; exact Nat.le_succ _
    slots id old := .inl (slots id old)
    permanent id old := congrArg (Option.filter _) (slots id old) }

theorem revert (checkpoint : Checkpoint) (outer : List Checkpoint) :
    memory.Aged (memory.revert checkpoint outer) := by
  refine {
    issued := Nat.le_of_eq (size_revert checkpoint outer).symm
    slots := ?_
    permanent := fun id _ => permanent?_revert checkpoint outer id }
  intro id _
  rw [slot?_revert]
  split
  next => exact memory.permanent?_cases id
  next => exact .inl rfl

theorem of_called {operation : Operation} {answer : Option BufferId}
    (called : memory.Called operation answer after) : memory.Aged after := by
  cases called with
  | pushState => exact of_slots rfl
  | popState => exact revert _ _
  | loadSegment => exact push rfl
  | loadFixed => exact push rfl
  | install => exact push rfl
  | mapSegment => exact of_slots rfl

theorem calls (memory : Memory) (operations : List Operation) :
    memory.Aged (memory.calls operations) := by
  apply calls_induction (fun after => memory.Aged after)
  · exact refl memory
  · intro after later operation answer aged called
    exact aged.trans (of_called called)

end Aged

theorem buffer?_eq (memory : Memory) (id : BufferId) :
    memory.buffer? id = (memory.slot? id).map (·.bytes) :=
  rfl

theorem lt_of_buffer? {id : BufferId} {bytes : Bytes} (live : memory.buffer? id = some bytes) :
    id < memory.slots.size := by
  rcases Nat.lt_or_ge id memory.slots.size with issued | unused
  · exact issued
  · rw [buffer?_eq, slot?_of_size_le unused] at live
    cases live

theorem Aged.bytes {id : BufferId} {bytes : Bytes} (aged : memory.Aged after)
    (live : memory.buffer? id = some bytes) :
    after.buffer? id = some bytes ∨ after.buffer? id = none := by
  rw [← live]
  simp only [buffer?_eq]
  rcases aged.slots id (lt_of_buffer? live) with same | gone
  · exact .inl (congrArg _ same)
  · exact .inr (congrArg _ gone)

/-- A number that was issued and stands for nothing will never stand for anything. -/
theorem Aged.gone {id : BufferId} (aged : memory.Aged after) (issued : id < memory.slots.size)
    (released : memory.buffer? id = none) : after.buffer? id = none := by
  rw [buffer?_eq, Option.map_eq_none_iff] at released ⊢
  rcases aged.slots id issued with same | gone
  · rw [same, released]
  · exact gone

namespace Operation

def makes : Operation → Bool
  | .loadSegment .. | .loadFixed .. | .install _ => true
  | _ => false

end Operation

/-- The numbers that calls answer, one after the other. -/
def answers (memory : Memory) : List Operation → List BufferId
  | [] => []
  | operation :: rest =>
    match operation.perform memory with
    | .ok answer left => answer.toList ++ left.answers rest
    | .error _ left => left.answers rest

theorem Called.answer_eq {operation : Operation} {answer : Option BufferId}
    (called : memory.Called operation answer after) :
    answer = (if operation.makes then some memory.slots.size else none) ∧
      after.slots.size = memory.slots.size + if operation.makes then 1 else 0 := by
  cases called with
  | pushState => exact ⟨rfl, rfl⟩
  | popState => exact ⟨rfl, size_revert _ _⟩
  | loadSegment => exact ⟨rfl, Array.size_push _⟩
  | loadFixed => exact ⟨rfl, Array.size_push _⟩
  | install => exact ⟨rfl, Array.size_push _⟩
  | mapSegment => exact ⟨rfl, rfl⟩

theorem Called.isLive {operation : Operation} {answer : Option BufferId}
    (called : memory.Called operation answer after) (makes : operation.makes) :
    after.isLive memory.slots.size := by
  cases called with
  | loadSegment => exact Option.isSome_of_eq_some (slot?_push_self rfl)
  | loadFixed => exact Option.isSome_of_eq_some (slot?_push_self rfl)
  | install => exact Option.isSome_of_eq_some (slot?_push_self rfl)
  | _ => cases makes

theorem calls_cons (memory : Memory) (operation : Operation) (rest : List Operation) :
    memory.calls (operation :: rest) = (memory.call operation).calls rest :=
  rfl

theorem answers_eq_range' (memory : Memory) (operations : List Operation) :
    memory.answers operations = List.range' memory.slots.size
      ((memory.calls operations).slots.size - memory.slots.size) := by
  induction operations generalizing memory with
  | nil => simp [answers, Memory.calls]
  | cons operation rest ih =>
    have grows := (Aged.calls (memory.call operation) rest).issued
    rw [calls_cons]
    rcases memory.call_cases operation with ⟨answer, performed, called⟩ | ⟨_, performed, same⟩
    · obtain ⟨answered, size⟩ := called.answer_eq
      simp only [answers, performed]
      rw [ih, answered]
      cases makes : operation.makes with
      | false =>
        have same : (memory.call operation).slots.size = memory.slots.size := by rw [size, makes]; rfl
        rw [same]
        rfl
      | true =>
        have next : (memory.call operation).slots.size = memory.slots.size + 1 := by rw [size, makes]; rfl
        rw [next] at grows
        have count : ((memory.call operation).calls rest).slots.size - memory.slots.size =
            ((memory.call operation).calls rest).slots.size - (memory.slots.size + 1) + 1 := by
          omega
        rw [next, count, List.range'_succ]
        rfl
    · simp only [answers, performed, same]
      exact ih memory

end Memory

end StageScript
