import StageScript.Proofs.Memory

/-!
Other bytes in a buffer. What a memory does has nothing to do with the bytes that lie in its buffers:
its operations come to the same when others lie there.
-/

namespace StageScript

def Buffer.rewrite (bytes : Bytes) (buffer : Buffer) : Buffer := { buffer with bytes }

def Memory.rewrite (buffer : BufferId) (bytes : Bytes) (memory : Memory) : Memory :=
  { memory with slots := memory.slots.modify buffer (Option.map (Buffer.rewrite bytes)) }

namespace Memory

variable {memory : Memory} {buffer : BufferId} {bytes : Bytes}

theorem size_rewrite : (memory.rewrite buffer bytes).slots.size = memory.slots.size :=
  Array.size_modify

theorem slot?_rewrite (memory : Memory) (buffer id : BufferId) (bytes : Bytes) :
    (memory.rewrite buffer bytes).slot? id =
      if buffer = id then (memory.slot? id).map (Buffer.rewrite bytes) else memory.slot? id := by
  simp only [slot?, rewrite, Array.getElem?_modify]
  split
  next => rcases memory.slots[id]? with _ | _ | _ <;> rfl
  next => rfl

theorem rewrite_rewrite {others : Bytes} :
    (memory.rewrite buffer bytes).rewrite buffer others = memory.rewrite buffer others := by
  simp only [rewrite]
  congr 1
  refine Array.ext_getElem? fun id => ?_
  simp only [Array.getElem?_modify]
  split
  next => rcases memory.slots[id]? with _ | _ | _ <;> rfl
  next => rfl

theorem rewrite_self (live : memory.buffer? buffer = some bytes) :
    memory.rewrite buffer bytes = memory := by
  have slots : memory.slots.modify buffer (Option.map (Buffer.rewrite bytes)) = memory.slots := by
    refine Array.ext_getElem? fun id => ?_
    rw [Array.getElem?_modify]
    split
    next here =>
      subst here
      simp only [buffer?, Option.map_eq_some_iff, Option.join_eq_some_iff] at live
      obtain ⟨slot, found, rfl⟩ := live
      rw [found]
      rfl
    next => rfl
  rw [rewrite, slots]

theorem isLive_rewrite (id : BufferId) :
    (memory.rewrite buffer bytes).isLive id = memory.isLive id := by
  have same := memory.slot?_rewrite buffer id bytes
  unfold slot? at same
  rw [isLive, same]
  split
  next => exact Option.isSome_map
  next => rfl

theorem resolve?_rewrite (address : Address) :
    (memory.rewrite buffer bytes).resolve? address = memory.resolve? address := by
  simp only [resolve?, isLive_rewrite]
  rfl

theorem buffer?_rewrite (live : memory.isLive buffer) :
    (memory.rewrite buffer bytes).buffer? buffer = some bytes := by
  have same := memory.slot?_rewrite buffer buffer bytes
  obtain ⟨slot, found⟩ := Option.isSome_iff_exists.mp live
  unfold slot? at same
  rw [if_pos rfl, found] at same
  rw [buffer?, same]
  rfl

theorem pushState_rewrite :
    (memory.rewrite buffer bytes).pushState = memory.pushState.rewrite buffer bytes := by
  simp only [pushState, size_rewrite]
  rfl

theorem releasePooled_rewrite (slot : Option Buffer) :
    releasePooled (slot.map (Buffer.rewrite bytes)) =
      (releasePooled slot).map (Buffer.rewrite bytes) := by
  cases slot with
  | none => rfl
  | some buffer =>
    have pooled : (buffer.rewrite bytes).pooled = buffer.pooled := rfl
    simp only [Option.map_some, releasePooled, pooled]
    split <;> rfl

theorem releaseFrom_modify (slots : Array (Option Buffer)) (start : BufferId) (count : Nat) :
    releaseFrom (slots.modify buffer (Option.map (Buffer.rewrite bytes))) start count =
      (releaseFrom slots start count).modify buffer (Option.map (Buffer.rewrite bytes)) := by
  refine Array.ext_getElem? fun id => ?_
  simp only [getElem?_releaseFrom, Array.getElem?_modify]
  split
  next =>
    split
    next => simp only [Option.map_map, Function.comp_def, releasePooled_rewrite]
    next => rfl
  next => rfl

theorem popState_rewrite :
    (memory.rewrite buffer bytes).popState = memory.popState.map (rewrite buffer bytes) := by
  have saved : (memory.rewrite buffer bytes).checkpoints = memory.checkpoints := rfl
  rcases top : memory.checkpoints with _ | ⟨checkpoint, outer⟩
  · rw [popState, popState, saved, top]
    rfl
  · rw [popState_of_checkpoints top, popState_of_checkpoints (saved.trans top)]
    simp only [revert, size_rewrite]
    simp only [rewrite, releaseFrom_modify]
    rfl

theorem modify_push {slots : Array (Option Buffer)} {added : Option Buffer}
    {change : Option Buffer → Option Buffer} (issued : buffer < slots.size) :
    (slots.modify buffer change).push added = (slots.push added).modify buffer change := by
  refine Array.ext_getElem? fun id => ?_
  simp only [Array.getElem?_modify, Array.getElem?_push, Array.size_modify]
  grind

theorem loadFixed_rewrite (issued : buffer < memory.slots.size) (dest : Address)
    (start stop : Nat) :
    (memory.rewrite buffer bytes).loadFixed dest start stop =
      (memory.loadFixed dest start stop).map (Prod.map id (rewrite buffer bytes)) := by
  have read : (memory.rewrite buffer bytes).readImage start stop = memory.readImage start stop :=
    rfl
  simp only [loadFixed, read]
  cases segmentIndex dest.segment.toNat with
  | error => rfl
  | ok index =>
    cases memory.readImage start stop with
    | error => rfl
    | ok content =>
      simp only [bind, Except.bind, allocate, size_rewrite]
      simp only [rewrite, modify_push issued]
      rfl

theorem loadSegment_rewrite (issued : buffer < memory.slots.size) (segment : Int)
    (start stop : Nat) (compression : Compression) :
    (memory.rewrite buffer bytes).loadSegment segment start stop compression =
      (memory.loadSegment segment start stop compression).map
        (Prod.map id (rewrite buffer bytes)) := by
  have read : (memory.rewrite buffer bytes).readImage start stop = memory.readImage start stop :=
    rfl
  have room : (memory.rewrite buffer bytes).available = memory.available := rfl
  simp only [loadSegment, read, room]
  cases segmentIndex segment with
  | error => rfl
  | ok index =>
    cases memory.readImage start stop with
    | error => rfl
    | ok raw =>
      simp only [bind, Except.bind]
      cases unpack raw memory.available compression with
      | error => rfl
      | ok content =>
        simp only [allocate, size_rewrite]
        simp only [rewrite, modify_push issued]
        rfl

end Memory

end StageScript
