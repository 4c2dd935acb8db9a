import StageScript.Proofs.Footprint

/-!
Scopes that are not entered. An execute command that comes to nothing gives its checkpoint back,
and the memory can be seen to differ in nothing. A command that replaces the scope has popped the
scope's checkpoint by the time its own load fails, and what that took away stays away.
-/

namespace StageScript

theorem Address.exists_start (segment : Fin segmentCount) :
    ∃ address : Address, address.segment.toNat = segment ∧ address.offset.toNat = 0 := by
  have start : ∀ segment : Fin segmentCount,
      (Address.mk (UInt32.ofNat segment <<< 24)).segment.toNat = segment ∧
        (Address.mk (UInt32.ofNat segment <<< 24)).offset.toNat = 0 := by
    decide +kernel
  exact ⟨_, start segment⟩

def Instruction.opensScope : Instruction → Bool
  | .execute .. | .exitAndExecute .. => true
  | _ => false

namespace Memory

variable {memory after : Memory}

/-- What a script or its host can tell about a memory: the space that is left, the number of open
checkpoints, the buffers issued so far, and where addresses lead. -/
structure SameObservations (before after : Memory) : Prop where
  available : after.available = before.available
  depth : after.checkpoints.length = before.checkpoints.length
  buffers : ∀ id < before.slots.size, after.buffer? id = before.buffer? id
  addresses : ∀ address, after.resolve? address = before.resolve? address

/-- Popping the innermost checkpoint would take back nothing that can be told. -/
def Unspent (memory : Memory) : Prop :=
  ∃ checkpoint outer, memory.checkpoints = checkpoint :: outer ∧
    memory.capacity - checkpoint.used = memory.available ∧
    (∀ id, checkpoint.nextBuffer ≤ id → memory.pooled? id = none) ∧
    ∀ address, { memory with segments := checkpoint.segments }.resolve? address =
      memory.resolve? address

theorem SameObservations.refl (memory : Memory) : memory.SameObservations memory := by
  constructor <;> simp

theorem resolve?_congr (segments : after.segments = memory.segments)
    (fixed : after.fixed = memory.fixed) (slots : ∀ id, after.slot? id = memory.slot? id)
    (address : Address) : after.resolve? address = memory.resolve? address := by
  have live (id : BufferId) : after.isLive id = memory.isLive id :=
    congrArg Option.isSome (slots id)
  simp only [resolve?, segments, fixed, live]

theorem lt_of_resolve? {address : Address} {pointer : Pointer}
    (resolved : memory.resolve? address = some pointer) : pointer.buffer < memory.slots.size := by
  simp only [resolve?, Option.bind_eq_bind, Option.bind_eq_some_iff, Option.ite_none_right_eq_some,
    Option.some.injEq] at resolved
  obtain ⟨mapping, _, ⟨_, live⟩, rfl⟩ := resolved
  by_cases issued : mapping.buffer < memory.slots.size
  · exact issued
  · simp [isLive, Array.getElem?_eq_none (Nat.not_lt.mp issued)] at live

theorem resolve?_loadRange {load : SegmentLoad} {compression : Compression} {buffer : BufferId}
    (loaded : memory.loadRange load compression = .ok (buffer, after)) :
    ∃ address, after.resolve? address = some ⟨memory.slots.size, 0⟩ := by
  obtain ⟨index, _, bytes, _, _, _, _, rfl⟩ := loadSegment_eq_ok loaded
  obtain ⟨address, segment, offset⟩ := Address.exists_start index
  refine ⟨address, ?_⟩
  simp [resolve?, segment, offset, isLive]

theorem sameObservations_of_unresolved {load : SegmentLoad} {buffer : BufferId} {loaded : Memory}
    (loads : memory.pushState.loadRange load .raw = .ok (buffer, loaded))
    (popped : loaded.popState = .ok after) : memory.SameObservations after := by
  obtain ⟨index, _, bytes, _, _, _, _, same⟩ := loadSegment_eq_ok loads
  have pushed : loaded.slots = memory.slots.push (some ⟨bytes, true⟩) := congrArg Memory.slots same
  have top : loaded.checkpoints =
      ⟨memory.used, memory.slots.size, memory.segments⟩ :: memory.checkpoints :=
    congrArg Memory.checkpoints same
  rw [popState_of_checkpoints top] at popped
  cases popped
  have slots (id : BufferId) :
      (loaded.revert ⟨memory.used, memory.slots.size, memory.segments⟩ memory.checkpoints).slot? id =
        memory.slot? id := by
    rw [slot?_revert, permanent?, slot?_push pushed]
    split
    next later =>
      rw [slot?_of_size_le later]
      split <;> rfl
    next earlier => rw [if_neg (fun fresh => earlier (Nat.le_of_eq fresh.symm))]
  have capacity : loaded.capacity = memory.capacity := by rw [same]; rfl
  have fixed : loaded.fixed = memory.fixed := by rw [same]; rfl
  exact {
    available := congrArg (· - memory.used) capacity
    depth := rfl
    buffers id _ := congrArg (Option.map _) (slots id)
    addresses := resolve?_congr rfl fixed slots }

theorem size_replaceState (memory : Memory) :
    memory.replaceState.slots.size = memory.slots.size := by
  unfold replaceState
  split
  next popped was =>
    obtain ⟨_, _, _, rfl⟩ := popState_eq_ok.mp was
    exact size_revert _ _
  next => rfl

theorem slot?_revert_of_unspent {checkpoint : Checkpoint} {outer : List Checkpoint}
    (unspent : ∀ id, checkpoint.nextBuffer ≤ id → memory.pooled? id = none) (id : BufferId) :
    (memory.revert checkpoint outer).slot? id = memory.slot? id := by
  rw [slot?_revert]
  split
  next later =>
    have none := unspent id later
    cases slot : memory.slot? id with
    | none => rw [permanent?, slot, Option.filter_none]
    | some buffer =>
      rw [pooled?, slot, Option.filter_eq_none_iff] at none
      simpa [permanent?, slot, Option.filter] using none
  next => rfl

theorem resolve?_revert_of_unspent {checkpoint : Checkpoint} {outer : List Checkpoint}
    (unspent : ∀ id, checkpoint.nextBuffer ≤ id → memory.pooled? id = none) (address : Address) :
    (memory.revert checkpoint outer).pushState.resolve? address =
      { memory with segments := checkpoint.segments }.resolve? address := by
  refine resolve?_congr ?_ ?_ ?_ address
  · rfl
  · rfl
  · exact slot?_revert_of_unspent unspent

theorem sameObservations_replaceState_iff :
    memory.SameObservations memory.replaceState ↔ memory.Unspent := by
  unfold replaceState
  cases top : memory.checkpoints with
  | nil =>
    have error : memory.popState = .error .noCheckpoint := popState_eq_error.mpr ⟨top, rfl⟩
    rw [error]
    constructor
    · intro same
      have depth := same.depth
      simp [pushState, top] at depth
    · rintro ⟨_, _, saved, _⟩
      simp [top] at saved
  | cons checkpoint outer =>
    rw [popState_of_checkpoints top]
    constructor
    · intro same
      have unspent (id : BufferId) (later : checkpoint.nextBuffer ≤ id) :
          memory.pooled? id = none := by
        by_cases issued : id < memory.slots.size
        · have kept : ((memory.revert checkpoint outer).slot? id).map (·.bytes) =
              (memory.slot? id).map (·.bytes) :=
            same.buffers id issued
          rw [slot?_revert, if_pos later] at kept
          cases slot : memory.slot? id with
          | none => rw [pooled?, slot, Option.filter_none]
          | some buffer =>
            rw [permanent?, slot] at kept
            rw [pooled?, slot]
            cases pooled : buffer.pooled <;> simp_all [Option.filter]
        · rw [pooled?, slot?_of_size_le (Nat.not_lt.mp issued), Option.filter_none]
      refine ⟨checkpoint, outer, top, same.available, unspent, fun address => ?_⟩
      rw [← same.addresses address]
      exact (resolve?_revert_of_unspent unspent address).symm
    · rintro ⟨_, _, saved, available, unspent, addresses⟩
      rw [top] at saved
      obtain ⟨rfl, rfl⟩ := List.cons.inj saved
      exact {
        available := available
        depth := by rw [top]; rfl
        buffers id _ := congrArg (Option.map _) (slot?_revert_of_unspent unspent id)
        addresses address := (resolve?_revert_of_unspent unspent address).trans (addresses address) }

theorem not_sameObservations_of_loaded {load : SegmentLoad} {buffer : BufferId}
    (loaded : memory.replaceState.loadRange load .raw = .ok (buffer, after)) :
    ¬ memory.SameObservations after := by
  intro same
  obtain ⟨address, resolved⟩ := resolve?_loadRange loaded
  rw [same.addresses, size_replaceState] at resolved
  exact Nat.lt_irrefl _ (lt_of_resolve? resolved)

end Memory

namespace Machine

variable {E : Embedding}

theorem execute_refused (load : SegmentLoad) (entry : Address) (following : Pointer)
    (machine : Machine E)
    (refused : ∀ target, (machine.execute load entry following).flow ≠ .ok (.goto target)) :
    machine.memory.SameObservations (machine.execute load entry following).machine.memory := by
  rcases machine.execute_cases load entry following with
    ⟨_, _, same⟩ | ⟨_, _, same⟩ | ⟨_, _, _, loads, _, popped, same⟩ |
    ⟨_, _, _, target, _, _, _, same⟩
  · rw [same]
    exact .refl _
  · rw [same]
    exact .refl _
  · rw [same]
    exact Memory.sameObservations_of_unresolved loads popped
  · exact absurd (by rw [same, goto]) (refused target)

/-- An execute command that does not enter its scope leaves the memory as it was, for all that
can be told. A command that was to replace the scope does so exactly when its load has failed and
the checkpoint it has popped was unspent. -/
theorem refused_sameObservations_iff {machine : Machine E} {instruction : Instruction}
    (opens : instruction.opensScope) (following : Pointer)
    (refused : ∀ target, (machine.exec instruction following).flow ≠ .ok (.goto target)) :
    machine.memory.SameObservations (machine.exec instruction following).machine.memory ↔
      (∃ load entry, instruction = .execute load entry) ∨
      (machine.exec instruction following).flow = .ok .next ∧ machine.memory.Unspent := by
  cases instruction with
  | execute load entry =>
    exact iff_of_true (machine.execute_refused load entry following refused)
      (.inl ⟨load, entry, rfl⟩)
  | exitAndExecute load entry =>
    rcases machine.exitAndExecute_cases load entry with
      ⟨_, _, same⟩ | ⟨_, _, loads, _, same⟩ | ⟨_, _, target, _, _, same⟩
    · rw [exec, same]
      simp [next, report, memory_replaceCheckpoint, Memory.sameObservations_replaceState_iff]
    · rw [exec, same]
      simp [fault, Memory.not_sameObservations_of_loaded loads]
    · exact absurd (by rw [exec, same, goto]) (refused target)
  | _ => simp [Instruction.opensScope] at opens

end Machine

namespace Run

/-- Tries to run content from beyond the end of the image. -/
def overreaching : Run Scripted.embedding := ofScript #[]
  #[0x00, 16, 14, 0, 0, 0, 0, 0, 4, 0, 0, 0, 0, 0, 0, 14]

theorem refused_sameObservations_overreaching :
    overreaching.machine.memory.SameObservations
      (overreaching.machine.exec (.execute ⟨14, 0, 4⟩ ⟨0x0E000000⟩) ⟨0, 16⟩).machine.memory := by
  have refused : ∀ target, (overreaching.machine.exec (.execute ⟨14, 0, 4⟩ ⟨0x0E000000⟩)
      ⟨0, 16⟩).flow ≠ .ok (.goto target) := by
    have next : (overreaching.machine.exec (.execute ⟨14, 0, 4⟩ ⟨0x0E000000⟩) ⟨0, 16⟩).flow =
        .ok .next := by
      decide +kernel
    simp [next]
  exact (Machine.refused_sameObservations_iff rfl ⟨0, 16⟩ refused).mpr (.inl ⟨_, _, rfl⟩)

def stranding : Run Scripted.embedding := ofScript
  #[0x01, 16, 14, 0, 0, 0, 0, 0, 0, 16, 0, 0, 0, 0, 0, 14,
    0x02, 4, 0, 0]
  #[0x00, 16, 14, 0, 0, 0, 0, 0, 20, 0, 0, 0, 0, 0, 0, 14,
    0x02, 4, 0, 0]

/-- Content whose replacement cannot be loaded loses its own buffer, and the step that should go
on behind the command faults. -/
theorem refused_replacement_stranding :
    ∃ run next : Run Scripted.embedding, ∃ command, stranding.Step run ∧
      run.machine.Dispatches run.cursor command (.exitAndExecute ⟨14, 0, 4096⟩ ⟨0x0E000000⟩) ∧
      run.Step next ∧ next.cursor = command.next ∧
      ¬ run.machine.memory.SameObservations next.machine.memory ∧
      (next.machine.step next.canonical next.cursor).1 = .error (.danglingPointer next.cursor) := by
  let run := stranding.next?.get (by decide +kernel)
  let next := run.next?.get (by decide +kernel)
  have replaces : run.machine.Dispatches run.cursor
      ⟨⟨1, 0⟩, 0x01, 16, #[0x01, 16, 14, 0, 0, 0, 0, 0, 0, 16, 0, 0, 0, 0, 0, 14], .standard⟩
      (.exitAndExecute ⟨14, 0, 4096⟩ ⟨0x0E000000⟩) :=
    Machine.fetch?_eq_some.mp (by decide +kernel)
  refine ⟨run, next, _, (Option.some_get _).symm, replaces, (Option.some_get _).symm,
    by decide +kernel, fun same => ?_, by decide +kernel⟩
  have kept := same.buffers 1 (by decide +kernel)
  have released : next.machine.memory.buffer? 1 = none := by decide +kernel
  have live : (run.machine.memory.buffer? 1).isSome := by decide +kernel
  rw [← kept, released] at live
  cases live

end Run

end StageScript
