import StageScript.Memory

/-!
Content memory by its slots. Loads add a slot behind the others, and popping a checkpoint empties
the slots of the pooled buffers that were added since; no operation touches any other slot.
-/

namespace StageScript

namespace Memory

variable {memory after : Memory}

/-- The buffer with a number, as long as it is live. -/
def slot? (memory : Memory) (buffer : BufferId) : Option Buffer := memory.slots[buffer]?.join

def pooled? (memory : Memory) (buffer : BufferId) : Option Buffer :=
  (memory.slot? buffer).filter (·.pooled)

/-- The buffer with a number, if no checkpoint can release it. -/
def permanent? (memory : Memory) (buffer : BufferId) : Option Buffer :=
  (memory.slot? buffer).filter (!·.pooled)

theorem isLive_of_buffer? {buffer : BufferId} {bytes : Bytes}
    (live : memory.buffer? buffer = some bytes) : memory.isLive buffer := by
  obtain ⟨slot, found, -⟩ := Option.map_eq_some_iff.mp live
  rw [isLive, found]
  rfl

theorem slot?_of_size_le {buffer : BufferId} (unused : memory.slots.size ≤ buffer) :
    memory.slot? buffer = none := by
  simp [slot?, unused]

theorem slot?_push {buffer : Buffer} (pushed : after.slots = memory.slots.push (some buffer))
    (id : BufferId) :
    after.slot? id = if id = memory.slots.size then some buffer else memory.slot? id := by
  rw [slot?, pushed, Array.getElem?_push]
  split <;> rfl

theorem slot?_push_self {buffer : Buffer} (pushed : after.slots = memory.slots.push (some buffer)) :
    after.slot? memory.slots.size = some buffer := by
  rw [slot?_push pushed, if_pos rfl]

theorem slot?_push_of_lt {buffer : Buffer} (pushed : after.slots = memory.slots.push (some buffer))
    {id : BufferId} (issued : id < memory.slots.size) : after.slot? id = memory.slot? id := by
  rw [slot?_push pushed, if_neg (Nat.ne_of_lt issued)]

theorem size_releaseFrom (slots : Array (Option Buffer)) (start : BufferId) (count : Nat) :
    (releaseFrom slots start count).size = slots.size := by
  induction count generalizing slots start with
  | zero => rfl
  | succ count ih => rw [releaseFrom, ih, Array.size_modify]

theorem getElem?_releaseFrom (slots : Array (Option Buffer)) (start : BufferId) (count : Nat)
    (id : BufferId) :
    (releaseFrom slots start count)[id]? =
      if start ≤ id ∧ id < start + count then slots[id]?.map releasePooled else slots[id]? := by
  induction count generalizing slots start with
  | zero =>
    have none : ¬ (start ≤ id ∧ id < start + 0) := by grind
    rw [releaseFrom, if_neg none]
  | succ count ih =>
    rw [releaseFrom, ih, Array.getElem?_modify]
    by_cases first : start = id
    · have passed : ¬ (start + 1 ≤ id ∧ id < start + 1 + count) := by grind
      have inside : start ≤ id ∧ id < start + (count + 1) := by grind
      rw [if_neg passed, if_pos first, if_pos inside]
    · have same : start + 1 ≤ id ∧ id < start + 1 + count ↔ start ≤ id ∧ id < start + (count + 1) := by
        grind
      simp only [same, first, if_false]

theorem releasePooled_eq_filter (slot : Option Buffer) :
    releasePooled slot = slot.filter (!·.pooled) := by
  cases slot with
  | none => rfl
  | some buffer => cases pooled : buffer.pooled <;> simp [releasePooled, Option.filter, pooled]

def revert (memory : Memory) (checkpoint : Checkpoint) (outer : List Checkpoint) : Memory where
  image := memory.image
  capacity := memory.capacity
  used := checkpoint.used
  slots := releaseFrom memory.slots checkpoint.nextBuffer
    (memory.slots.size - checkpoint.nextBuffer)
  segments := checkpoint.segments
  fixed := memory.fixed
  checkpoints := outer

theorem popState_of_checkpoints {checkpoint : Checkpoint} {outer : List Checkpoint}
    (top : memory.checkpoints = checkpoint :: outer) :
    memory.popState = .ok (memory.revert checkpoint outer) := by
  unfold popState
  rw [top]
  rfl

theorem popState_eq_ok :
    memory.popState = .ok after ↔ ∃ checkpoint outer,
      memory.checkpoints = checkpoint :: outer ∧ after = memory.revert checkpoint outer := by
  cases top : memory.checkpoints with
  | nil => simp [popState, top]
  | cons checkpoint outer =>
    rw [popState_of_checkpoints top]
    constructor
    · intro popped
      exact ⟨checkpoint, outer, rfl, (Except.ok.inj popped).symm⟩
    · rintro ⟨_, _, same, rfl⟩
      obtain ⟨rfl, rfl⟩ := List.cons.inj same
      rfl

theorem popState_eq_error {error : MemoryError} :
    memory.popState = .error error ↔ memory.checkpoints = [] ∧ error = .noCheckpoint := by
  cases top : memory.checkpoints with
  | nil => simp [popState, top, eq_comm]
  | cons checkpoint outer => simp [popState_of_checkpoints top]

theorem size_revert (checkpoint : Checkpoint) (outer : List Checkpoint) :
    (memory.revert checkpoint outer).slots.size = memory.slots.size :=
  size_releaseFrom ..

theorem slot?_revert (checkpoint : Checkpoint) (outer : List Checkpoint) (id : BufferId) :
    (memory.revert checkpoint outer).slot? id =
      if checkpoint.nextBuffer ≤ id then memory.permanent? id else memory.slot? id := by
  have released := getElem?_releaseFrom memory.slots checkpoint.nextBuffer
    (memory.slots.size - checkpoint.nextBuffer) id
  simp only [revert, permanent?, slot?, released]
  by_cases later : checkpoint.nextBuffer ≤ id
  · by_cases issued : id < memory.slots.size
    · have inside : id < checkpoint.nextBuffer + (memory.slots.size - checkpoint.nextBuffer) := by
        grind
      simp [later, inside, issued, releasePooled_eq_filter]
    · have outside : ¬ id < checkpoint.nextBuffer + (memory.slots.size - checkpoint.nextBuffer) := by
        grind
      simp [outside, issued]
  · simp [later]

theorem slot?_revert_of_lt {checkpoint : Checkpoint} (outer : List Checkpoint) {id : BufferId}
    (below : id < checkpoint.nextBuffer) :
    (memory.revert checkpoint outer).slot? id = memory.slot? id := by
  rw [slot?_revert, if_neg (Nat.not_le.mpr below)]

theorem permanent?_revert (checkpoint : Checkpoint) (outer : List Checkpoint) (id : BufferId) :
    (memory.revert checkpoint outer).permanent? id = memory.permanent? id := by
  rw [permanent?, slot?_revert]
  split
  next => simp [permanent?, Option.filter_filter]
  next => rfl

theorem pooled?_revert (checkpoint : Checkpoint) (outer : List Checkpoint) (id : BufferId) :
    (memory.revert checkpoint outer).pooled? id =
      if checkpoint.nextBuffer ≤ id then none else memory.pooled? id := by
  rw [pooled?, slot?_revert]
  split
  next => cases memory.slot? id <;> simp [permanent?, Option.filter_filter]
  next => rfl

theorem popState_pushState (memory : Memory) : memory.pushState.popState = .ok memory := by
  rw [popState_of_checkpoints rfl]
  simp [revert, pushState, releaseFrom]

def replaceState (memory : Memory) : Memory :=
  match memory.popState with
  | .ok popped => popped.pushState
  | .error _ => memory.pushState

theorem loadSegment_eq_ok {segment : Int} {start stop : Nat} {compression : Compression}
    {buffer : BufferId}
    (loaded : memory.loadSegment segment start stop compression = .ok (buffer, after)) :
    ∃ index raw bytes, segmentIndex segment = .ok index ∧ memory.readImage start stop = .ok raw ∧
      unpack raw memory.available compression = .ok bytes ∧ buffer = memory.slots.size ∧
      after = { memory with
        used := memory.used + bytes.size
        slots := memory.slots.push (some ⟨bytes, true⟩)
        segments := memory.segments.set index (some ⟨memory.slots.size, 0⟩) index.isLt } := by
  simp only [loadSegment, bind, Except.bind, allocate, pure, Except.pure] at loaded
  split at loaded
  next => simp at loaded
  next index found =>
    split at loaded
    next => simp at loaded
    next raw read =>
      split at loaded
      next => simp at loaded
      next bytes unpacked =>
        simp only [Except.ok.injEq, Prod.mk.injEq] at loaded
        exact ⟨index, raw, bytes, found, read, unpacked, loaded.1.symm, loaded.2.symm⟩

theorem val_of_segmentIndex {segment : Nat} {index : Fin segmentCount}
    (found : segmentIndex segment = .ok index) : index = segment := by
  unfold segmentIndex at found
  split at found
  next =>
    cases found
    rfl
  next => cases found

theorem loadFixed_eq_ok {dest : Address} {start stop : Nat} {buffer : BufferId}
    (loaded : memory.loadFixed dest start stop = .ok (buffer, after)) :
    ∃ index bytes, segmentIndex dest.segment.toNat = .ok index ∧
      memory.readImage start stop = .ok bytes ∧ buffer = memory.slots.size ∧
      after = { memory with
        slots := memory.slots.push (some ⟨bytes, false⟩)
        fixed := memory.fixed.set index (some ⟨memory.slots.size, dest.offset.toNat⟩) index.isLt } := by
  simp only [loadFixed, bind, Except.bind, allocate, pure, Except.pure] at loaded
  split at loaded
  next => simp at loaded
  next index found =>
    split at loaded
    next => simp at loaded
    next bytes read =>
      simp only [Except.ok.injEq, Prod.mk.injEq] at loaded
      exact ⟨index, bytes, found, read, loaded.1.symm, loaded.2.symm⟩

end Memory

end StageScript
