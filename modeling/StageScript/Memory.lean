import StageScript.Address
import StageScript.Memory.Mio0
import StageScript.Pointer

/-!
Content memory. Ranges of a content image are loaded into buffers and mapped by segments.
Pooled buffers are charged to the capacity and released when the checkpoint that was open at
their load is popped; the segment table then returns to what it was. Other buffers, and the
mappings of fixed loads, stay for good. The number of a released buffer is never used again.
-/

namespace StageScript

inductive MemoryError where
  | capacityExceeded (requested available : Nat)
  | rangeOutsideImage (start stop imageSize : Nat)
  | invalidSegment (segment : Int)
  | invalidBuffer (buffer : BufferId)
  | noCheckpoint
  | corrupt (corruption : Mio0.Corruption)
  deriving DecidableEq, Repr

namespace MemoryError

def title : MemoryError → String
  | .capacityExceeded .. => "CapacityExceeded"
  | .rangeOutsideImage .. => "RangeOutOfImage"
  | .invalidSegment _ => "InvalidSegment"
  | .invalidBuffer _ => "InvalidBuffer"
  | .noCheckpoint => "NoCheckpoint"
  | .corrupt _ => "Corrupt"

def message : MemoryError → String
  | .capacityExceeded requested available =>
    s!"memory pool exhausted: requested {requested} bytes, {available} bytes available"
  | .rangeOutsideImage start stop imageSize =>
    s!"content range {Text.Hex.tagged 0 start}..{Text.Hex.tagged 0 stop} lies outside the " ++
    s!"{imageSize}-byte content image"
  | .invalidSegment segment => s!"segment {segment} is outside the segment table"
  | .invalidBuffer buffer => s!"invalid buffer BufferId({buffer})"
  | .noCheckpoint => "no memory checkpoint to pop"
  | .corrupt corruption => s!"compressed block is corrupt: {corruption.message}"

def ofExpansion : Mio0.Failure → MemoryError
  | .corrupt corruption => .corrupt corruption
  | .tooLong length limit => .capacityExceeded length limit

end MemoryError

inductive Compression where
  | raw
  | mio0
  deriving DecidableEq, Repr

structure Buffer where
  bytes : Bytes
  pooled : Bool
  deriving DecidableEq, Repr

/-- A segment is mapped to a buffer whose first byte has the given offset in the segment. -/
structure Mapping where
  buffer : BufferId
  base : Nat
  deriving DecidableEq, Repr

abbrev SegmentTable := Vector (Option Mapping) segmentCount

structure Checkpoint where
  used : Nat
  nextBuffer : BufferId
  segments : SegmentTable
  deriving DecidableEq, Repr

structure Memory where
  image : Bytes
  capacity : Nat
  used : Nat
  /-- The buffer with each number so far, absent once it is released. -/
  slots : Array (Option Buffer)
  segments : SegmentTable
  fixed : SegmentTable
  /-- Open checkpoints, innermost first. -/
  checkpoints : List Checkpoint
  deriving Repr

structure MemoryStats where
  capacity : Nat
  used : Nat
  buffers : Nat
  checkpoints : Nat
  deriving DecidableEq, Repr

def MemoryStats.text (stats : MemoryStats) : String :=
  s!"{stats.used} used / {stats.capacity} capacity " ++
  s!"({stats.buffers} buffers, {stats.checkpoints} checkpoints)"

namespace Memory

def ofImage (image : Bytes) (capacity : Nat) : Memory where
  image := image
  capacity := capacity
  used := 0
  slots := #[]
  segments := Vector.replicate _ none
  fixed := Vector.replicate _ none
  checkpoints := []

def available (memory : Memory) : Nat := memory.capacity - memory.used

def buffer? (memory : Memory) (buffer : BufferId) : Option Bytes :=
  memory.slots[buffer]?.join.map (·.bytes)

def isLive (memory : Memory) (buffer : BufferId) : Bool := memory.slots[buffer]?.join.isSome

def stats (memory : Memory) : MemoryStats where
  capacity := memory.capacity
  used := memory.used
  buffers := memory.slots.countP (·.isSome)
  checkpoints := memory.checkpoints.length

/-- Where an address leads. A segment mapped by a load or by hand hides its fixed mapping. -/
def resolve? (memory : Memory) (address : Address) : Option Pointer := do
  let segment := address.segment.toNat
  let mapping ← memory.segments[segment]?.join.or memory.fixed[segment]?.join
  if mapping.base ≤ address.offset.toNat ∧ memory.isLive mapping.buffer then
    some ⟨mapping.buffer, address.offset.toNat - mapping.base⟩
  else none

def pushState (memory : Memory) : Memory :=
  let checkpoint := ⟨memory.used, memory.slots.size, memory.segments⟩
  { memory with checkpoints := checkpoint :: memory.checkpoints }

/-- Releases a slot that holds a pooled buffer. -/
def releasePooled : Option Buffer → Option Buffer
  | some buffer => if buffer.pooled then none else some buffer
  | none => none

/-- Releases the pooled buffers from a number on, for as many numbers as are given. -/
def releaseFrom (slots : Array (Option Buffer)) (start : BufferId) : Nat → Array (Option Buffer)
  | 0 => slots
  | count + 1 => releaseFrom (slots.modify start releasePooled) (start + 1) count

def popState (memory : Memory) : Except MemoryError Memory :=
  match memory.checkpoints with
  | [] => .error .noCheckpoint
  | checkpoint :: outer =>
    .ok { memory with
      used := checkpoint.used
      slots := releaseFrom memory.slots checkpoint.nextBuffer
        (memory.slots.size - checkpoint.nextBuffer)
      segments := checkpoint.segments
      checkpoints := outer }

def segmentIndex (segment : Int) : Except MemoryError (Fin segmentCount) :=
  if inside : 0 ≤ segment ∧ segment < segmentCount then
    .ok ⟨segment.toNat, by omega⟩
  else .error (.invalidSegment segment)

def readImage (memory : Memory) (start stop : Nat) : Except MemoryError Bytes :=
  if start ≤ stop ∧ stop ≤ memory.image.size then .ok (memory.image.extract start stop)
  else .error (.rangeOutsideImage start stop memory.image.size)

/-- Adds a buffer under the next number. -/
def allocate (memory : Memory) (buffer : Buffer) : BufferId × Memory :=
  (memory.slots.size, { memory with slots := memory.slots.push (some buffer) })

def install (memory : Memory) (bytes : Bytes) : BufferId × Memory :=
  memory.allocate ⟨bytes, false⟩

def unpack (raw : Bytes) (available : Nat) : Compression → Except MemoryError Bytes
  | .raw =>
    if available < raw.size then .error (.capacityExceeded raw.size available) else .ok raw
  | .mio0 =>
    match Mio0.expand raw available with
    | .ok bytes => .ok bytes
    | .error failure => .error (.ofExpansion failure)

/-- Loads a range of the image into a pooled buffer and maps the segment to it. -/
def loadSegment (memory : Memory) (segment : Int) (start stop : Nat) (compression : Compression) :
    Except MemoryError (BufferId × Memory) := do
  let index ← segmentIndex segment
  let raw ← memory.readImage start stop
  let bytes ← unpack raw memory.available compression
  let (buffer, memory) := memory.allocate ⟨bytes, true⟩
  return (buffer, { memory with
    used := memory.used + bytes.size
    segments := memory.segments.set index (some ⟨buffer, 0⟩) })

/-- Loads a range of the image for good and maps it at an address. -/
def loadFixed (memory : Memory) (dest : Address) (start stop : Nat) :
    Except MemoryError (BufferId × Memory) := do
  let index ← segmentIndex dest.segment.toNat
  let bytes ← memory.readImage start stop
  let (buffer, memory) := memory.allocate ⟨bytes, false⟩
  return (buffer, { memory with
    fixed := memory.fixed.set index (some ⟨buffer, dest.offset.toNat⟩) })

def mapSegment (memory : Memory) (segment : Nat) (buffer : BufferId) :
    Except MemoryError Memory := do
  let index ← segmentIndex segment
  if memory.isLive buffer then
    return { memory with segments := memory.segments.set index (some ⟨buffer, 0⟩) }
  else throw (.invalidBuffer buffer)

end Memory

end StageScript
