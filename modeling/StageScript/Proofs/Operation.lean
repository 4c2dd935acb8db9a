import StageScript.Proofs.Memory
import StageScript.Proofs.Results

/-!
Calls on a content memory. A call works on the memory in place, step by step, and what its steps
have done stays done when a later one fails. It turns out that no step of any call can fail once
the memory has been touched.
-/

namespace StageScript

namespace Memory

inductive Operation where
  | pushState
  | popState
  | loadSegment (segment : Int) (start stop : Nat) (compression : Compression)
  | loadFixed (dest : Address) (start stop : Nat)
  | install (bytes : Bytes)
  | mapSegment (segment : Nat) (buffer : BufferId)
  deriving DecidableEq, Repr

namespace Operation

/-- Carries out a call, one step after the other, and answers the number of a new buffer. -/
def perform : Operation → EStateM MemoryError Memory (Option BufferId)
  | .pushState => do
    modify fun memory =>
      let checkpoint := ⟨memory.used, memory.slots.size, memory.segments⟩
      { memory with checkpoints := checkpoint :: memory.checkpoints }
    return none
  | .popState => do
    match (← get).checkpoints with
    | [] => throw .noCheckpoint
    | checkpoint :: outer =>
      modify ({ · with checkpoints := outer })
      modify fun memory =>
        let later := memory.slots.size - checkpoint.nextBuffer
        { memory with slots := releaseFrom memory.slots checkpoint.nextBuffer later }
      modify ({ · with used := checkpoint.used })
      modify ({ · with segments := checkpoint.segments })
      return none
  | .loadSegment segment start stop compression => do
    let index ← MonadExcept.ofExcept (segmentIndex segment)
    let raw ← MonadExcept.ofExcept ((← get).readImage start stop)
    let bytes ← MonadExcept.ofExcept (unpack raw (← get).available compression)
    modify fun memory => { memory with used := memory.used + bytes.size }
    let buffer ← modifyGet (allocate · ⟨bytes, true⟩)
    modify fun memory =>
      { memory with segments := memory.segments.set index (some ⟨buffer, 0⟩) index.isLt }
    return some buffer
  | .loadFixed dest start stop => do
    let index ← MonadExcept.ofExcept (segmentIndex dest.segment.toNat)
    let bytes ← MonadExcept.ofExcept ((← get).readImage start stop)
    let buffer ← modifyGet (allocate · ⟨bytes, false⟩)
    modify fun memory =>
      { memory with fixed := memory.fixed.set index (some ⟨buffer, dest.offset.toNat⟩) index.isLt }
    return some buffer
  | .install bytes => do
    let buffer ← modifyGet (allocate · ⟨bytes, false⟩)
    return some buffer
  | .mapSegment segment buffer => do
    let index ← MonadExcept.ofExcept (segmentIndex segment)
    unless (← get).isLive buffer do throw (.invalidBuffer buffer)
    modify fun memory =>
      { memory with segments := memory.segments.set index (some ⟨buffer, 0⟩) index.isLt }
    return none

/-- What a call comes to as one whole: a new memory with the number of a new buffer, or an error. -/
def outcome (memory : Memory) : Operation → Except MemoryError (Option BufferId × Memory)
  | .pushState => .ok (none, memory.pushState)
  | .popState => memory.popState.map (none, ·)
  | .loadSegment segment start stop compression =>
    (memory.loadSegment segment start stop compression).map (Prod.map some id)
  | .loadFixed dest start stop => (memory.loadFixed dest start stop).map (Prod.map some id)
  | .install bytes => .ok ((memory.install bytes).map some id)
  | .mapSegment segment buffer => (memory.mapSegment segment buffer).map (none, ·)

theorem get_bind {α : Type} (next : Memory → EStateM MemoryError Memory α) (memory : Memory) :
    (get >>= next) memory = next memory memory :=
  rfl

theorem ofExcept_ok_bind {α β : Type} (value : α) (next : α → EStateM MemoryError Memory β)
    (memory : Memory) : (MonadExcept.ofExcept (.ok value) >>= next) memory = next value memory :=
  rfl

/-- A call that fails leaves the memory as it was, and any other call is the one whole it seems. -/
theorem perform_eq (operation : Operation) (memory : Memory) :
    operation.perform memory = match operation.outcome memory with
      | .ok (answer, after) => .ok answer after
      | .error error => .error error memory := by
  cases operation with
  | pushState => rfl
  | popState =>
    simp only [perform, outcome, get_bind]
    cases top : memory.checkpoints with
    | nil => rw [popState_eq_error.mpr ⟨top, rfl⟩]; rfl
    | cons checkpoint outer => rw [popState_of_checkpoints top]; rfl
  | loadSegment segment start stop compression =>
    simp only [perform, outcome, Memory.loadSegment]
    cases segmentIndex segment with
    | error => rfl
    | ok index =>
      simp only [ofExcept_ok_bind, ok_bind, get_bind]
      cases memory.readImage start stop with
      | error => rfl
      | ok raw =>
        simp only [ofExcept_ok_bind, ok_bind, get_bind]
        cases unpack raw memory.available compression <;> rfl
  | loadFixed dest start stop =>
    simp only [perform, outcome, Memory.loadFixed]
    cases segmentIndex dest.segment.toNat with
    | error => rfl
    | ok index =>
      simp only [ofExcept_ok_bind, ok_bind, get_bind]
      cases memory.readImage start stop <;> rfl
  | install bytes => rfl
  | mapSegment segment buffer =>
    simp only [perform, outcome, Memory.mapSegment]
    cases segmentIndex segment with
    | error => rfl
    | ok index =>
      simp only [ofExcept_ok_bind, ok_bind, get_bind]
      cases memory.isLive buffer <;> rfl

end Operation

variable {memory after : Memory} {operation : Operation} {answer : Option BufferId}

/-- What a call that succeeds makes of a memory, and the number that it answers. -/
inductive Called (memory : Memory) : Operation → Option BufferId → Memory → Prop where
  | pushState : Called memory .pushState none memory.pushState
  | popState {checkpoint : Checkpoint} {outer : List Checkpoint}
    (top : memory.checkpoints = checkpoint :: outer) :
    Called memory .popState none (memory.revert checkpoint outer)
  | loadSegment {segment : Int} {start stop : Nat} {compression : Compression}
    {index : Fin segmentCount} {raw bytes : Bytes} (found : segmentIndex segment = .ok index)
    (read : memory.readImage start stop = .ok raw)
    (unpacked : unpack raw memory.available compression = .ok bytes) :
    Called memory (.loadSegment segment start stop compression) (some memory.slots.size)
      { memory with
        used := memory.used + bytes.size
        slots := memory.slots.push (some ⟨bytes, true⟩)
        segments := memory.segments.set index (some ⟨memory.slots.size, 0⟩) index.isLt }
  | loadFixed {dest : Address} {start stop : Nat} {index : Fin segmentCount} {bytes : Bytes}
    (found : segmentIndex dest.segment.toNat = .ok index)
    (read : memory.readImage start stop = .ok bytes) :
    Called memory (.loadFixed dest start stop) (some memory.slots.size)
      { memory with
        slots := memory.slots.push (some ⟨bytes, false⟩)
        fixed := memory.fixed.set index (some ⟨memory.slots.size, dest.offset.toNat⟩) index.isLt }
  | install (bytes : Bytes) :
    Called memory (.install bytes) (some memory.slots.size)
      { memory with slots := memory.slots.push (some ⟨bytes, false⟩) }
  | mapSegment {segment : Nat} {buffer : BufferId} {index : Fin segmentCount}
    (found : segmentIndex segment = .ok index) (live : memory.isLive buffer) :
    Called memory (.mapSegment segment buffer) none
      { memory with segments := memory.segments.set index (some ⟨buffer, 0⟩) index.isLt }

theorem mapSegment_eq_ok {segment : Nat} {buffer : BufferId}
    (mapped : memory.mapSegment segment buffer = .ok after) :
    ∃ index, segmentIndex segment = .ok index ∧ memory.isLive buffer ∧
      after = { memory with segments := memory.segments.set index (some ⟨buffer, 0⟩) index.isLt } := by
  simp only [mapSegment, bind, Except.bind] at mapped
  split at mapped
  next => cases mapped
  next index found =>
    split at mapped
    next live => exact ⟨index, found, live, (Except.ok.inj mapped).symm⟩
    next => cases mapped

theorem called_of_outcome (done : operation.outcome memory = .ok (answer, after)) :
    memory.Called operation answer after := by
  cases operation with
  | pushState =>
    cases done
    exact .pushState
  | popState =>
    obtain ⟨_, popped, same⟩ := map_eq_ok done
    cases same
    obtain ⟨_, _, top, rfl⟩ := popState_eq_ok.mp popped
    exact .popState top
  | loadSegment segment start stop compression =>
    obtain ⟨⟨_, _⟩, loaded, same⟩ := map_eq_ok done
    cases same
    obtain ⟨_, _, _, found, read, unpacked, rfl, rfl⟩ := loadSegment_eq_ok loaded
    exact .loadSegment found read unpacked
  | loadFixed dest start stop =>
    obtain ⟨⟨_, _⟩, loaded, same⟩ := map_eq_ok done
    cases same
    obtain ⟨_, _, found, read, rfl, rfl⟩ := loadFixed_eq_ok loaded
    exact .loadFixed found read
  | install bytes =>
    cases done
    exact .install bytes
  | mapSegment segment buffer =>
    obtain ⟨_, mapped, same⟩ := map_eq_ok done
    cases same
    obtain ⟨_, found, live, rfl⟩ := mapSegment_eq_ok mapped
    exact .mapSegment found live

def call (memory : Memory) (operation : Operation) : Memory :=
  match operation.perform memory with
  | .ok _ left => left
  | .error _ left => left

def calls (memory : Memory) (operations : List Operation) : Memory := operations.foldl call memory

theorem call_cases (memory : Memory) (operation : Operation) :
    (∃ answer, operation.perform memory = .ok answer (memory.call operation) ∧
      memory.Called operation answer (memory.call operation)) ∨
    ∃ error, operation.perform memory = .error error memory ∧ memory.call operation = memory := by
  have performed := operation.perform_eq memory
  unfold call
  cases done : operation.outcome memory with
  | ok result =>
    rw [done] at performed
    rw [performed]
    exact .inl ⟨result.1, rfl, called_of_outcome done⟩
  | error error =>
    rw [done] at performed
    rw [performed]
    exact .inr ⟨error, rfl, rfl⟩

theorem called_of_perform {operation : Operation} {answer : Option BufferId}
    (performed : operation.perform memory = .ok answer after) :
    memory.Called operation answer after ∧ memory.call operation = after := by
  rcases memory.call_cases operation with ⟨_, same, called⟩ | ⟨_, refused, _⟩
  · rw [performed] at same
    cases same
    exact ⟨called, rfl⟩
  · rw [performed] at refused
    cases refused

theorem calls_append (memory : Memory) (first rest : List Operation) :
    memory.calls (first ++ rest) = (memory.calls first).calls rest :=
  List.foldl_append

theorem calls_past {operations front rest : List Operation}
    (split : operations = front ++ operation :: rest)
    (performed : operation.perform (memory.calls front) = .ok answer after) :
    memory.calls operations = after.calls rest := by
  rw [split, calls_append, ← (called_of_perform performed).2]
  rfl

/-- What every call that succeeds keeps holds after any sequence of calls. -/
theorem calls_induction (property : Memory → Prop) (operations : List Operation)
    (initially : property memory)
    (kept : ∀ {memory after : Memory} {operation : Operation} {answer : Option BufferId},
      property memory → memory.Called operation answer after → property after) :
    property (memory.calls operations) := by
  induction operations generalizing memory with
  | nil => exact initially
  | cons operation rest ih =>
    apply ih
    rcases memory.call_cases operation with ⟨_, _, called⟩ | ⟨_, _, same⟩
    · exact kept initially called
    · rw [same]
      exact initially

end Memory

end StageScript
