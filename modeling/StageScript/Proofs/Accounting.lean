import Mathlib.Algebra.BigOperators.Intervals
import Mathlib.Algebra.Order.BigOperators.Group.Finset
import StageScript.Proofs.Operation

/-!
The accounts of a content memory. The count of used bytes is what the live pooled buffers hold,
now and, in every open checkpoint, at the time that it was made. Whatever is popped, no table that
is in use or saved is left with a mapping to a buffer that is gone.
-/

namespace StageScript

namespace Mio0

theorem size_of_expandFrom {input out expanded : Bytes} {header : Header} {literals copies : Nat}
    (inside : out.size ≤ header.length)
    (expands : expandFrom input header literals copies out = .ok expanded) :
    expanded.size = header.length := by
  fun_induction expandFrom input header literals copies out with
  | case1 => cases expands
  | case2 literals copies out more byte found ih =>
    refine ih ?_ expands
    rw [Array.size_push]
    omega
  | case3 literals copies out more distance count found reach ih =>
    refine ih ?_ expands
    rw [size_copyBack]
    omega
  | case4 => cases expands
  | case5 literals copies out full =>
    cases expands
    omega

theorem size_of_expand {input bytes : Bytes} {limit : Nat} (expands : expand input limit = .ok bytes) :
    bytes.size ≤ limit := by
  unfold expand at expands
  split at expands
  next => cases expands
  next header read =>
    split at expands
    next => cases expands
    next fits =>
      split at expands
      next => cases expands
      next expanded expands' =>
        cases expands
        rw [size_of_expandFrom (Nat.zero_le _) expands']
        omega

end Mio0

namespace Memory

variable {memory after : Memory}

theorem size_of_unpack {raw bytes : Bytes} {available : Nat} {compression : Compression}
    (unpacked : unpack raw available compression = .ok bytes) : bytes.size ≤ available := by
  cases compression with
  | raw =>
    simp only [unpack] at unpacked
    split at unpacked
    next => cases unpacked
    next fits =>
      cases unpacked
      omega
  | mio0 =>
    simp only [unpack] at unpacked
    split at unpacked
    next expands =>
      cases unpacked
      exact Mio0.size_of_expand expands
    next => cases unpacked

/-- The length of all pooled buffers that are live and have a number below the bound. -/
def pooledBelow (memory : Memory) (bound : BufferId) : Nat :=
  ∑ id ∈ Finset.range bound, (memory.pooled? id).elim 0 (·.bytes.size)

theorem pooledBelow_congr {bound : BufferId}
    (same : ∀ id < bound, after.pooled? id = memory.pooled? id) :
    after.pooledBelow bound = memory.pooledBelow bound := by
  apply Finset.sum_congr rfl
  intro id below
  rw [same id (Finset.mem_range.mp below)]

theorem pooledBelow_mono (memory : Memory) {bound limit : BufferId} (lower : bound ≤ limit) :
    memory.pooledBelow bound ≤ memory.pooledBelow limit := by
  apply Finset.sum_le_sum_of_subset
  exact Finset.range_subset_range.mpr lower

theorem pooled?_push {buffer : Buffer} (pushed : after.slots = memory.slots.push (some buffer))
    {id : BufferId} (issued : id < memory.slots.size) : after.pooled? id = memory.pooled? id := by
  rw [pooled?, slot?_push_of_lt pushed issued, pooled?]

theorem pooledBelow_push {buffer : Buffer} (pushed : after.slots = memory.slots.push (some buffer)) :
    after.pooledBelow after.slots.size =
      memory.pooledBelow memory.slots.size + if buffer.pooled then buffer.bytes.size else 0 := by
  have size : after.slots.size = memory.slots.size + 1 := by rw [pushed, Array.size_push]
  have last : (after.pooled? memory.slots.size).elim 0 (·.bytes.size) =
      if buffer.pooled then buffer.bytes.size else 0 := by
    rw [pooled?, slot?_push_self pushed]
    cases pooled : buffer.pooled <;> simp [Option.filter, pooled]
  calc after.pooledBelow after.slots.size
      = after.pooledBelow memory.slots.size + (after.pooled? memory.slots.size).elim 0 (·.bytes.size) := by
        rw [size]
        exact Finset.sum_range_succ _ _
    _ = memory.pooledBelow memory.slots.size + if buffer.pooled then buffer.bytes.size else 0 := by
        rw [last, pooledBelow_congr fun id issued => pooled?_push pushed issued]

theorem pooledBelow_revert {checkpoint : Checkpoint} (outer : List Checkpoint)
    (issued : checkpoint.nextBuffer ≤ memory.slots.size) :
    (memory.revert checkpoint outer).pooledBelow memory.slots.size =
      memory.pooledBelow checkpoint.nextBuffer := by
  calc (memory.revert checkpoint outer).pooledBelow memory.slots.size
      = (memory.revert checkpoint outer).pooledBelow checkpoint.nextBuffer := by
        symm
        apply Finset.sum_subset (Finset.range_subset_range.mpr issued)
        intro id _ later
        rw [pooled?_revert, if_pos (Nat.not_lt.mp (later ∘ Finset.mem_range.mpr))]
        rfl
    _ = memory.pooledBelow checkpoint.nextBuffer := by
        apply pooledBelow_congr
        intro id below
        rw [pooled?_revert, if_neg (Nat.not_le.mpr below)]

/-- The count of used bytes is right, now and in every checkpoint. -/
structure Accounted (memory : Memory) : Prop where
  used : memory.used = memory.pooledBelow memory.slots.size
  capacity : memory.used ≤ memory.capacity
  saved : ∀ checkpoint ∈ memory.checkpoints,
    checkpoint.used = memory.pooledBelow checkpoint.nextBuffer
  issued : ∀ checkpoint ∈ memory.checkpoints, checkpoint.nextBuffer ≤ memory.slots.size
  nested : memory.checkpoints.Pairwise fun inner outer => outer.nextBuffer ≤ inner.nextBuffer

def tables (memory : Memory) : List SegmentTable :=
  memory.segments :: memory.fixed :: memory.checkpoints.map (·.segments)

def Maps (memory : Memory) (bound : BufferId) (table : SegmentTable) : Prop :=
  ∀ mapping, some mapping ∈ table → mapping.buffer < bound ∧ memory.isLive mapping.buffer

/-- No mapping can come to lead nowhere: one that was saved is to a buffer from before the
checkpoint, and one that is fixed is to a buffer that is never released. -/
structure Mapped (memory : Memory) : Prop where
  segments : memory.Maps memory.slots.size memory.segments
  fixed : ∀ mapping, some mapping ∈ memory.fixed → (memory.permanent? mapping.buffer).isSome
  saved : ∀ checkpoint ∈ memory.checkpoints, memory.Maps checkpoint.nextBuffer checkpoint.segments

theorem isLive_of_permanent? {id : BufferId} (permanent : (memory.permanent? id).isSome) :
    memory.isLive id := by
  rw [permanent?, Option.isSome_filter] at permanent
  exact Option.isSome_of_any permanent

theorem lt_of_isLive {id : BufferId} (live : memory.isLive id) : id < memory.slots.size := by
  by_contra unused
  have absent : memory.slot? id = none := slot?_of_size_le (Nat.not_lt.mp unused)
  rw [isLive, show memory.slots[id]?.join = none from absent] at live
  cases live

theorem isLive_push {buffer : Buffer} (pushed : after.slots = memory.slots.push (some buffer))
    {id : BufferId} (live : memory.isLive id) : after.isLive id :=
  (congrArg Option.isSome (slot?_push_of_lt pushed (lt_of_isLive live))).trans live

theorem isLive_revert {checkpoint : Checkpoint} (outer : List Checkpoint) {id : BufferId}
    (below : id < checkpoint.nextBuffer) (live : memory.isLive id) :
    (memory.revert checkpoint outer).isLive id :=
  (congrArg Option.isSome (slot?_revert_of_lt outer below)).trans live

namespace Accounted

theorem ofImage (image : Bytes) (capacity : Nat) : (ofImage image capacity).Accounted where
  used := rfl
  capacity := Nat.zero_le _
  saved := by simp [Memory.ofImage]
  issued := by simp [Memory.ofImage]
  nested := .nil

theorem pushState (accounted : memory.Accounted) : memory.pushState.Accounted where
  used := accounted.used
  capacity := accounted.capacity
  saved checkpoint member := by
    rcases List.mem_cons.mp member with rfl | member
    · exact accounted.used
    · exact accounted.saved checkpoint member
  issued checkpoint member := by
    rcases List.mem_cons.mp member with rfl | member
    · exact Nat.le_refl _
    · exact accounted.issued checkpoint member
  nested := .cons accounted.issued accounted.nested

theorem saved_le (accounted : memory.Accounted) {checkpoint : Checkpoint}
    (member : checkpoint ∈ memory.checkpoints) : checkpoint.used ≤ memory.used := by
  rw [accounted.saved checkpoint member, accounted.used]
  exact memory.pooledBelow_mono (accounted.issued checkpoint member)

theorem revert (accounted : memory.Accounted) {checkpoint : Checkpoint} {outer : List Checkpoint}
    (top : memory.checkpoints = checkpoint :: outer) :
    (memory.revert checkpoint outer).Accounted := by
  have innermost : checkpoint ∈ memory.checkpoints := top ▸ List.mem_cons_self
  have older {other : Checkpoint} (member : other ∈ outer) : other ∈ memory.checkpoints :=
    top ▸ List.mem_cons_of_mem _ member
  have nested := accounted.nested
  rw [top, List.pairwise_cons] at nested
  refine {
    used := ?_
    capacity := Nat.le_trans (accounted.saved_le innermost) accounted.capacity
    saved := ?_
    issued := ?_
    nested := nested.2 }
  · rw [size_revert, pooledBelow_revert outer (accounted.issued checkpoint innermost)]
    exact accounted.saved checkpoint innermost
  · intro other member
    rw [accounted.saved other (older member)]
    symm
    apply pooledBelow_congr
    intro id below
    have kept : id < checkpoint.nextBuffer := Nat.lt_of_lt_of_le below (nested.1 other member)
    rw [pooled?_revert, if_neg (Nat.not_le.mpr kept)]
  · intro other member
    rw [size_revert]
    exact accounted.issued other (older member)

theorem push (buffer : Buffer) (accounted : memory.Accounted)
    (pushed : after.slots = memory.slots.push (some buffer))
    (checkpoints : after.checkpoints = memory.checkpoints)
    (used : after.used = memory.used + if buffer.pooled then buffer.bytes.size else 0)
    (fits : after.used ≤ after.capacity) : after.Accounted := by
  refine {
    used := ?_
    capacity := fits
    saved := ?_
    issued := ?_
    nested := checkpoints ▸ accounted.nested }
  · rw [used, pooledBelow_push pushed, accounted.used]
  · rw [checkpoints]
    intro checkpoint member
    rw [accounted.saved checkpoint member]
    symm
    apply pooledBelow_congr
    intro id below
    exact pooled?_push pushed (Nat.lt_of_lt_of_le below (accounted.issued checkpoint member))
  · rw [checkpoints, pushed, Array.size_push]
    intro checkpoint member
    exact Nat.le_succ_of_le (accounted.issued checkpoint member)

theorem called {operation : Operation} {answer : Option BufferId} (accounted : memory.Accounted)
    (called : memory.Called operation answer after) : after.Accounted := by
  cases called with
  | pushState => exact accounted.pushState
  | popState top => exact accounted.revert top
  | @loadSegment _ _ _ _ _ raw bytes found read unpacked =>
    have free : bytes.size ≤ memory.capacity - memory.used := size_of_unpack unpacked
    have within : memory.used ≤ memory.capacity := accounted.capacity
    have fits : memory.used + bytes.size ≤ memory.capacity := by omega
    exact accounted.push ⟨bytes, true⟩ rfl rfl rfl fits
  | @loadFixed _ _ _ _ bytes found read =>
    exact accounted.push ⟨bytes, false⟩ rfl rfl rfl accounted.capacity
  | install bytes => exact accounted.push ⟨bytes, false⟩ rfl rfl rfl accounted.capacity
  | mapSegment found live => exact { accounted with }

end Accounted

theorem mem_set {table : SegmentTable} {index : Fin segmentCount} {added mapping : Mapping}
    (member : some mapping ∈ table.set index (some added) index.isLt) :
    mapping = added ∨ some mapping ∈ table := by
  rcases Vector.mem_or_eq_of_mem_set member with old | new
  · exact .inr old
  · exact .inl (Option.some.inj new)

namespace Maps

variable {bound : BufferId} {table : SegmentTable}

theorem push {buffer : Buffer} (maps : memory.Maps bound table)
    (pushed : after.slots = memory.slots.push (some buffer)) : after.Maps bound table := by
  intro mapping member
  exact ⟨(maps mapping member).1, isLive_push pushed (maps mapping member).2⟩

theorem revert {checkpoint : Checkpoint} (outer : List Checkpoint)
    (maps : memory.Maps bound table) (below : bound ≤ checkpoint.nextBuffer) :
    (memory.revert checkpoint outer).Maps bound table := by
  intro mapping member
  have inside : mapping.buffer < checkpoint.nextBuffer :=
    Nat.lt_of_lt_of_le (maps mapping member).1 below
  exact ⟨(maps mapping member).1, isLive_revert outer inside (maps mapping member).2⟩

theorem mono {limit : BufferId} (maps : memory.Maps bound table) (lower : bound ≤ limit) :
    memory.Maps limit table := by
  intro mapping member
  exact ⟨Nat.lt_of_lt_of_le (maps mapping member).1 lower, (maps mapping member).2⟩

theorem set {index : Fin segmentCount} {added : Mapping} (maps : memory.Maps bound table)
    (inside : added.buffer < bound) (live : memory.isLive added.buffer) :
    memory.Maps bound (table.set index (some added) index.isLt) := by
  intro mapping member
  rcases mem_set member with rfl | old
  · exact ⟨inside, live⟩
  · exact maps mapping old

end Maps

namespace Mapped

theorem ofImage (image : Bytes) (capacity : Nat) : (ofImage image capacity).Mapped where
  segments mapping member := by simp [Memory.ofImage, Vector.mem_replicate] at member
  fixed mapping member := by simp [Memory.ofImage, Vector.mem_replicate] at member
  saved checkpoint member := by simp [Memory.ofImage] at member

theorem pushState (mapped : memory.Mapped) : memory.pushState.Mapped where
  segments := mapped.segments
  fixed := mapped.fixed
  saved checkpoint member := by
    rcases List.mem_cons.mp member with rfl | member
    · exact mapped.segments
    · exact mapped.saved checkpoint member

theorem revert (mapped : memory.Mapped) (accounted : memory.Accounted) {checkpoint : Checkpoint}
    {outer : List Checkpoint} (top : memory.checkpoints = checkpoint :: outer) :
    (memory.revert checkpoint outer).Mapped := by
  have innermost : checkpoint ∈ memory.checkpoints := top ▸ List.mem_cons_self
  have nested := accounted.nested
  rw [top, List.pairwise_cons] at nested
  refine { segments := ?_, fixed := ?_, saved := ?_ }
  -- what the checkpoint has saved is older than the checkpoint, and what outer ones have saved is
  -- older still
  · have kept := (mapped.saved checkpoint innermost).revert outer (Nat.le_refl _)
    apply kept.mono
    rw [size_revert]
    exact accounted.issued checkpoint innermost
  · intro mapping member
    rw [permanent?_revert]
    exact mapped.fixed mapping member
  · intro other member
    have older : other ∈ memory.checkpoints := top ▸ List.mem_cons_of_mem _ member
    exact (mapped.saved other older).revert outer (nested.1 other member)

theorem push {buffer : Buffer} (mapped : memory.Mapped)
    (pushed : after.slots = memory.slots.push (some buffer))
    (segments : after.segments = memory.segments) (fixed : after.fixed = memory.fixed)
    (checkpoints : after.checkpoints = memory.checkpoints) : after.Mapped := by
  refine { segments := ?_, fixed := ?_, saved := ?_ }
  · rw [segments]
    apply (mapped.segments.push pushed).mono
    rw [pushed, Array.size_push]
    exact Nat.le_succ _
  · rw [fixed]
    intro mapping member
    have permanent := mapped.fixed mapping member
    have issued : mapping.buffer < memory.slots.size := lt_of_isLive (isLive_of_permanent? permanent)
    rw [permanent?, slot?_push_of_lt pushed issued]
    exact permanent
  · rw [checkpoints]
    intro checkpoint member
    exact (mapped.saved checkpoint member).push pushed

theorem setSegment {index : Fin segmentCount} {added : Mapping} (mapped : memory.Mapped)
    (live : memory.isLive added.buffer) :
    { memory with segments := memory.segments.set index (some added) index.isLt }.Mapped :=
  { mapped with segments := mapped.segments.set (lt_of_isLive live) live }

theorem setFixed {index : Fin segmentCount} {added : Mapping} (mapped : memory.Mapped)
    (permanent : (memory.permanent? added.buffer).isSome) :
    { memory with fixed := memory.fixed.set index (some added) index.isLt }.Mapped :=
  { mapped with
    fixed mapping member := by
      rcases mem_set member with rfl | old
      · exact permanent
      · exact mapped.fixed mapping old }

theorem called {operation : Operation} {answer : Option BufferId} (mapped : memory.Mapped)
    (accounted : memory.Accounted) (called : memory.Called operation answer after) :
    after.Mapped := by
  cases called with
  | pushState => exact mapped.pushState
  | popState top => exact mapped.revert accounted top
  | @loadSegment _ _ _ _ _ raw bytes found read unpacked =>
    let loaded : Memory := { memory with
      used := memory.used + bytes.size
      slots := memory.slots.push (some ⟨bytes, true⟩) }
    have pushed : loaded.Mapped := mapped.push rfl rfl rfl rfl
    apply pushed.setSegment
    simp [isLive, loaded]
  | @loadFixed _ _ _ _ bytes found read =>
    let loaded : Memory := { memory with slots := memory.slots.push (some ⟨bytes, false⟩) }
    have pushed : loaded.Mapped := mapped.push rfl rfl rfl rfl
    apply pushed.setFixed
    simp [permanent?, slot?, loaded]
  | install bytes => exact mapped.push rfl rfl rfl rfl
  | mapSegment found live => exact mapped.setSegment live

theorem isLive (mapped : memory.Mapped) {table : SegmentTable} (known : table ∈ memory.tables)
    {mapping : Mapping} (member : some mapping ∈ table) : memory.isLive mapping.buffer := by
  simp only [tables, List.mem_cons, List.mem_map] at known
  rcases known with rfl | rfl | ⟨checkpoint, saved, rfl⟩
  · exact (mapped.segments mapping member).2
  · exact isLive_of_permanent? (mapped.fixed mapping member)
  · exact (mapped.saved checkpoint saved mapping member).2

end Mapped

theorem accounted_and_mapped (image : Bytes) (capacity : Nat) (operations : List Operation) :
    ((ofImage image capacity).calls operations).Accounted ∧
      ((ofImage image capacity).calls operations).Mapped := by
  apply calls_induction (fun memory => memory.Accounted ∧ memory.Mapped)
  · exact ⟨.ofImage image capacity, .ofImage image capacity⟩
  · rintro memory after operation answer ⟨accounted, mapped⟩ called
    exact ⟨accounted.called called, mapped.called accounted called⟩

/-- Calls in any order, refused ones among them, keep the count of used bytes right in the memory
and in each checkpoint and leave no mapping without its buffer; and a call that is refused after
them changes nothing. -/
theorem calls_accounted (image : Bytes) (capacity : Nat) (operations : List Operation) :
    let memory := (ofImage image capacity).calls operations
    memory.Accounted ∧ (∀ checkpoint ∈ memory.checkpoints, checkpoint.used ≤ memory.used) ∧
    (∀ table ∈ memory.tables, ∀ mapping, some mapping ∈ table → memory.isLive mapping.buffer) ∧
    ∀ (operation : Operation) (error : MemoryError) (left : Memory),
      operation.perform memory = .error error left → left = memory := by
  intro memory
  obtain ⟨accounted, mapped⟩ := accounted_and_mapped image capacity operations
  refine ⟨accounted, fun _ => accounted.saved_le, fun _ known _ => mapped.isLive known, ?_⟩
  intro operation error left refused
  rw [operation.perform_eq memory] at refused
  cases done : operation.outcome memory with
  | ok result => simp [done] at refused
  | error reason =>
    rw [done] at refused
    cases refused
    rfl

end Memory

end StageScript
