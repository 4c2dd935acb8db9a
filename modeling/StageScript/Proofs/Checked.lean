import StageScript.Proofs.Expansion
import StageScript.Proofs.Soundness

/-!
The machine with its numbers checked. Some commands take one number from another, move a pointer
on, number a buffer, shift a mask or index a table without asking first whether that can be done.
Here each of them asks, and where the answer is no there is no result at all. As long as the numbers
are in range, the checked commands are the commands themselves.
-/

namespace StageScript

/-- What is left of a number, absent when the part is more than the whole. -/
def difference? (whole part : Nat) : Option Nat :=
  if part ≤ whole then some (whole - part) else none

theorem difference?_of_le {whole part : Nat} (within : part ≤ whole) :
    difference? whole part = some (whole - part) :=
  if_pos within

def writeSlot? {α : Type} {slots : Nat} (table : Vector α slots) (slot : Nat) (value : α) :
    Option (Vector α slots) :=
  if inside : slot < slots then some (table.set slot value inside) else none

theorem writeSlot?_of_lt {α : Type} {slots slot : Nat} (table : Vector α slots) (value : α)
    (inside : slot < slots) : writeSlot? table slot value = some (table.set slot value inside) :=
  dif_pos inside

namespace Stack

variable {stack : Stack}

def checkedDrop (stack : Stack) (top : Frame) (rest : List Frame) : Option Stack := do
  let used ← difference? stack.used top.slots
  return { stack.drop top rest with used }

def checkedPopReturn (stack : Stack) : Option (Except StackFault (Pointer × Stack)) :=
  match stack.frames with
  | .ret resume :: rest => do
    let left ← stack.checkedDrop (.ret resume) rest
    return .ok (resume, left)
  | _ => some stack.popReturn

def checkedPopLoop (stack : Stack) : Option (Except StackFault ((Pointer × Int32) × Stack)) :=
  match stack.frames with
  | .loop resume remaining :: rest => do
    let left ← stack.checkedDrop (.loop resume remaining) rest
    return .ok ((resume, remaining), left)
  | _ => some stack.popLoop

/-- The number of used slots once the frames are gone, one after the other. -/
def checkedFree : List Frame → Nat → Option Nat
  | [], used => some used
  | frame :: rest, used => do
    let left ← difference? used frame.slots
    checkedFree rest left

def checkedUnwindScope (stack : Stack) : Option Stack := do
  let used ← checkedFree (stack.frames.take stack.unwindScope.1) stack.used
  return { stack.unwindScope.2 with used }

theorem checkedDrop_eq {top : Frame} {rest : List Frame} (well : stack.WellFormed)
    (frames : stack.frames = top :: rest) :
    stack.checkedDrop top rest = some (stack.drop top rest) := by
  have counted : top.slots ≤ stack.used := by
    rw [well.counted, frames]
    exact Nat.le_add_right _ _
  rw [checkedDrop, difference?_of_le counted]
  rfl

theorem checkedPopReturn_eq (well : stack.WellFormed) :
    stack.checkedPopReturn = some stack.popReturn := by
  unfold checkedPopReturn
  split
  next resume rest frames =>
    rw [checkedDrop_eq well frames, popReturn, frames]
    rfl
  next => rfl

theorem checkedPopLoop_eq (well : stack.WellFormed) :
    stack.checkedPopLoop = some stack.popLoop := by
  unfold checkedPopLoop
  split
  next resume remaining rest frames =>
    rw [checkedDrop_eq well frames, popLoop, frames]
    rfl
  next => rfl

theorem checkedFree_eq (frames : List Frame) {used : Nat} (counted : slotsOf frames ≤ used) :
    checkedFree frames used = some (used - slotsOf frames) := by
  induction frames generalizing used with
  | nil => rfl
  | cons frame rest ih =>
    simp only [slotsOf] at counted ⊢
    rw [checkedFree, difference?_of_le (by omega), Option.bind_eq_bind, Option.bind_some,
      ih (by omega), Nat.sub_sub]

theorem checkedUnwindScope_eq (well : stack.WellFormed) :
    stack.checkedUnwindScope = some stack.unwindScope.2 := by
  have counted : slotsOf (stack.frames.take stack.unwindScope.1) ≤ stack.used := by
    have split := slotsOf_append (stack.frames.take stack.unwindScope.1)
      (stack.frames.drop stack.unwindScope.1)
    rw [List.take_append_drop] at split
    rw [well.counted, split]
    exact Nat.le_add_right _ _
  rw [checkedUnwindScope, checkedFree_eq _ counted]
  rfl

end Stack

namespace Pool

variable {pool : Pool}

def checkedAllocate (pool : Pool) (bytes : Nat) : Option (Except PoolExhausted Pool) := do
  let available ← difference? pool.capacity pool.used
  if available < bytes then return .error ⟨bytes, available⟩
  else if pool.used + bytes ≤ pool.capacity then
    return .ok { pool with used := pool.used + bytes }
  else none

theorem checkedAllocate_eq (within : pool.used ≤ pool.capacity) (bytes : Nat) :
    pool.checkedAllocate bytes = some (pool.allocate bytes) := by
  rw [checkedAllocate, difference?_of_le within, allocate, available]
  by_cases full : pool.capacity - pool.used < bytes
  · simp [full]
  · have fits : pool.used + bytes ≤ pool.capacity := by omega
    simp [full, fits]

-- A pool that has used more than there is could not even tell what it has left.
example : checkedAllocate ⟨8, 9⟩ 0 = none := rfl

end Pool

namespace Variables

def checkedActMatches (vars : Variables) (acts : UInt8) : Option Bool :=
  if acts = allActs then some true
  else if 1 ≤ vars.act ∧ vars.act ≤ 8 then
    let shift := vars.act.toInt - 1
    if 0 ≤ shift ∧ shift < 8 then some (acts.toNat.testBit shift.toNat) else none
  else some false

theorem checkedActMatches_eq (vars : Variables) (acts : UInt8) :
    vars.checkedActMatches acts = some (vars.actMatches acts) := by
  unfold checkedActMatches actMatches
  by_cases every : acts = allActs
  · simp [every]
  · rw [if_neg every]
    by_cases one : 1 ≤ vars.act ∧ vars.act ≤ 8
    · have low := Int32.le_iff_toInt_le.mp one.1
      have high := Int32.le_iff_toInt_le.mp one.2
      have first : Int32.toInt 1 = 1 := rfl
      have last : Int32.toInt 8 = 8 := rfl
      have shift : 0 ≤ vars.act.toInt - 1 ∧ vars.act.toInt - 1 < 8 := by omega
      rw [if_pos one, if_pos shift]
      simp [every, one]
    · rw [if_neg one]
      simp_all

end Variables

namespace Mio0

variable {input out : Bytes} {header : Header}

def checkedCopyBack (length distance : Nat) : (count : Nat) → Bytes → Option Bytes
  | 0, out => some out
  | count + 1, out =>
    if out.size < length then do
      let place ← difference? out.size distance
      let byte ← out[place]?
      checkedCopyBack length distance count (out.push byte)
    else some out

def checkedExpandFrom (input : Bytes) (header : Header) :
    (fuel literals copies : Nat) → Bytes → Option (Except Corruption Bytes)
  | 0, _, _, _ => none
  | fuel + 1, literals, copies, out =>
    if out.size < header.length then
      match token input header literals copies with
      | .error corruption => some (.error corruption)
      | .ok (.literal byte) =>
        checkedExpandFrom input header fuel (literals + 1) copies (out.push byte)
      | .ok (.copy distance count) =>
        if out.size < distance then some (.error (.distanceTooLong distance out.size))
        else do
          let copied ← checkedCopyBack header.length distance count out
          checkedExpandFrom input header fuel literals (copies + 1) copied
    else some (.ok out)

def checkedExpand (input : Bytes) (limit : Nat) : Option (Except Failure Bytes) :=
  match readHeader input with
  | .error corruption => some (.error (.corrupt corruption))
  | .ok header =>
    if limit < header.length then some (.error (.tooLong header.length limit))
    else do
      let expanded ← checkedExpandFrom input header (header.length + 1) 0 0
        (Array.emptyWithCapacity 0)
      return expanded.mapError .corrupt

theorem checkedCopyBack_eq (length distance : Nat) (positive : 0 < distance) (count : Nat)
    (inside : distance ≤ out.size) :
    checkedCopyBack length distance count out =
      some (copyBack length distance positive count out inside) := by
  induction count generalizing out with
  | zero => rfl
  | succ count ih =>
    simp only [checkedCopyBack, copyBack]
    split
    next =>
      have place : out.size - distance < out.size := by omega
      rw [difference?_of_le inside, Option.bind_eq_bind, Option.bind_some,
        Array.getElem?_eq_getElem place, Option.bind_eq_bind, Option.bind_some]
      exact ih _
    next => rfl

/-- Every token makes the output longer, so the fuel lasts. -/
theorem checkedExpandFrom_eq {fuel literals copies : Nat}
    (enough : header.length - out.size < fuel) :
    checkedExpandFrom input header fuel literals copies out =
      some (expandFrom input header literals copies out) := by
  induction fuel generalizing literals copies out with
  | zero => omega
  | succ fuel ih =>
    rw [checkedExpandFrom, expandFrom]
    by_cases more : out.size < header.length
    · simp only [more, if_true, dif_pos]
      cases found : token input header literals copies with
      | error => rfl
      | ok next =>
        cases next with
        | literal byte =>
          apply ih
          rw [Array.size_push]
          omega
        | copy distance count =>
          obtain ⟨-, near, short, -⟩ := token_eq_copy.mp found
          by_cases far : out.size < distance
          · have unreached : ¬ (0 < distance ∧ distance ≤ out.size ∧ 0 < count) := by omega
            simp only [far, unreached, if_true, dite_false]
          · have reach : 0 < distance ∧ distance ≤ out.size ∧ 0 < count := by omega
            simp only [far, reach, if_false, and_self, dite_true]
            rw [checkedCopyBack_eq header.length distance reach.1 count reach.2.1,
              Option.bind_eq_bind, Option.bind_some]
            apply ih
            rw [size_copyBack]
            omega
    · simp only [more, if_false, dite_false]

theorem checkedExpand_eq (input : Bytes) (limit : Nat) :
    checkedExpand input limit = some (expand input limit) := by
  unfold checkedExpand expand
  cases readHeader input with
  | error => rfl
  | ok header =>
    by_cases long : limit < header.length
    · simp only [long, if_true]
    · have enough : header.length - (Array.emptyWithCapacity 0 : Bytes).size < header.length + 1 := by
        omega
      simp only [long, if_false, checkedExpandFrom_eq enough]
      cases expandFrom input header 0 0 (Array.emptyWithCapacity 0) <;> rfl

end Mio0

namespace Memory

variable {memory : Memory}

def checkedAllocate (memory : Memory) (buffer : Buffer) : Option (BufferId × Memory) :=
  if memory.slots.size + 1 < limit32 then some (memory.allocate buffer) else none

def checkedUnpack (raw : Bytes) (available : Nat) :
    Compression → Option (Except MemoryError Bytes)
  | .raw => some (unpack raw available .raw)
  | .mio0 => do
    let expanded ← Mio0.checkedExpand raw available
    return expanded.mapError .ofExpansion

def checkedLoadSegment (memory : Memory) (segment : Int) (start stop : Nat)
    (compression : Compression) : Option (Except MemoryError (BufferId × Memory)) :=
  match segmentIndex segment with
  | .error error => some (.error error)
  | .ok index =>
    match memory.readImage start stop with
    | .error error => some (.error error)
    | .ok raw => do
      match ← checkedUnpack raw memory.available compression with
      | .error error => return .error error
      | .ok bytes =>
        if memory.used + bytes.size ≤ memory.capacity then
          let (buffer, loaded) ← memory.checkedAllocate ⟨bytes, true⟩
          return .ok (buffer, { loaded with
            used := memory.used + bytes.size
            segments := memory.segments.set index (some ⟨buffer, 0⟩) index.isLt })
        else none

def checkedLoadFixed (memory : Memory) (dest : Address) (start stop : Nat) :
    Option (Except MemoryError (BufferId × Memory)) :=
  match segmentIndex dest.segment.toNat with
  | .error error => some (.error error)
  | .ok index =>
    match memory.readImage start stop with
    | .error error => some (.error error)
    | .ok bytes => do
      let (buffer, loaded) ← memory.checkedAllocate ⟨bytes, false⟩
      return .ok (buffer, { loaded with
        fixed := memory.fixed.set index (some ⟨buffer, dest.offset.toNat⟩) index.isLt })

def checkedPopState (memory : Memory) : Option (Except MemoryError Memory) :=
  match memory.checkpoints with
  | [] => some memory.popState
  | checkpoint :: _ => do
    let _reclaimed ← difference? memory.used checkpoint.used
    return memory.popState

theorem checkedUnpack_eq (raw : Bytes) (available : Nat) (compression : Compression) :
    checkedUnpack raw available compression = some (unpack raw available compression) := by
  cases compression with
  | raw => rfl
  | mio0 =>
    simp only [checkedUnpack, unpack, Mio0.checkedExpand_eq]
    cases Mio0.expand raw available <;> rfl

theorem checkedLoadSegment_eq {segment : Int} {start stop : Nat} {compression : Compression}
    (accounted : memory.Accounted)
    (few : ∀ buffer after, memory.loadSegment segment start stop compression = .ok (buffer, after) →
      after.slots.size < limit32) :
    memory.checkedLoadSegment segment start stop compression =
      some (memory.loadSegment segment start stop compression) := by
  unfold checkedLoadSegment
  cases found : segmentIndex segment with
  | error => simp only [loadSegment, found]; rfl
  | ok index =>
    cases read : memory.readImage start stop with
    | error => simp only [loadSegment, found, read]; rfl
    | ok raw =>
      simp only [checkedUnpack_eq]
      cases unpacked : unpack raw memory.available compression with
      | error => simp only [loadSegment, found, read, unpacked, bind, Except.bind]; rfl
      | ok bytes =>
        have free : bytes.size ≤ memory.capacity - memory.used := size_of_unpack unpacked
        have within := accounted.capacity
        have fits : memory.used + bytes.size ≤ memory.capacity := by omega
        have loaded : memory.loadSegment segment start stop compression =
            .ok (memory.slots.size, { memory with
              used := memory.used + bytes.size
              slots := memory.slots.push (some ⟨bytes, true⟩)
              segments := memory.segments.set index (some ⟨memory.slots.size, 0⟩) index.isLt }) := by
          simp only [loadSegment, found, read, unpacked, bind, Except.bind]
          rfl
        have numbered : memory.slots.size + 1 < limit32 := by
          simpa only [Array.size_push] using few _ _ loaded
        rw [loaded]
        simp only [checkedAllocate, if_pos numbered, Option.bind_eq_bind, Option.bind_some,
          if_pos fits]
        rfl

theorem checkedLoadFixed_eq {dest : Address} {start stop : Nat}
    (few : ∀ buffer after, memory.loadFixed dest start stop = .ok (buffer, after) →
      after.slots.size < limit32) :
    memory.checkedLoadFixed dest start stop = some (memory.loadFixed dest start stop) := by
  unfold checkedLoadFixed
  cases found : segmentIndex dest.segment.toNat with
  | error => simp only [loadFixed, found]; rfl
  | ok index =>
    cases read : memory.readImage start stop with
    | error => simp only [loadFixed, found, read]; rfl
    | ok bytes =>
      have loaded : memory.loadFixed dest start stop =
          .ok (memory.slots.size, { memory with
            slots := memory.slots.push (some ⟨bytes, false⟩)
            fixed := memory.fixed.set index (some ⟨memory.slots.size, dest.offset.toNat⟩)
              index.isLt }) := by
        simp only [loadFixed, found, read]
        rfl
      have numbered : memory.slots.size + 1 < limit32 := by
        simpa only [Array.size_push] using few _ _ loaded
      rw [loaded]
      simp only [checkedAllocate, if_pos numbered]
      rfl

theorem checkedPopState_eq (accounted : memory.Accounted) :
    memory.checkedPopState = some memory.popState := by
  unfold checkedPopState
  split
  next => rfl
  next checkpoint outer top =>
    have saved := accounted.saved_le (top ▸ List.mem_cons_self : checkpoint ∈ memory.checkpoints)
    rw [difference?_of_le saved]
    rfl

theorem size_lt_of_all {bound : Nat}
    (all : memory.slots.all fun slot => slot.all (·.bytes.size < bound)) {buffer : BufferId}
    {bytes : Bytes} (live : memory.buffer? buffer = some bytes) : bytes.size < bound := by
  obtain ⟨held, found, rfl⟩ := Option.map_eq_some_iff.mp live
  obtain ⟨issued, slot⟩ := Array.getElem?_eq_some_iff.mp (Option.join_eq_some_iff.mp found)
  have bounded := Array.all_eq_true.mp all buffer issued
  rw [slot, Option.all_some] at bounded
  exact of_decide_eq_true bounded

end Memory

/-- A read whose operand ends where a 64-bit offset leads. -/
def inReach {α : Type} (read : Except ReadFault α) : Option (Except ReadFault α) :=
  match read with
  | .error (.operandUnreachable ..) => none
  | result => some result

/-- Reads the operands of a command, those that are only looked at later among them. -/
def Instruction.checkedRead (opcode : Opcode) (command : Command) :
    Option (Except ReadFault Instruction) := do
  let instruction ← inReach (Instruction.read opcode command)
  match instruction with
  | .ok (.jumpIf _ target) | .ok (.jumpLinkIf _ target) =>
    let _operand ← inReach target
    return instruction
  | .ok (.placeObjectExt2 _ _ _ _ behaviorToken _) =>
    let _operand ← inReach behaviorToken
    return instruction
  | _ => return instruction

def Level.checkedCurrentArea (level : Level) : Option (Option Area) :=
  match level.current with
  | none => some none
  | some index => if index.toNat < areaCount then some (level.area? index) else none

theorem Level.checkedCurrentArea_eq {level : Level} (made : level.Made) :
    level.checkedCurrentArea = some level.currentArea? := by
  unfold checkedCurrentArea currentArea?
  cases filled : level.current with
  | none => rfl
  | some index => exact if_pos (made.current_lt filled)

def Reached {α : Type} (read : Except ReadFault α) : Prop := inReach read = some read

namespace Reached

variable {α β : Type}

theorem bind {read : Except ReadFault α} {next : α → Except ReadFault β} (reached : Reached read)
    (further : ∀ value, Reached (next value)) : Reached (read >>= next) := by
  cases read with
  | ok value => exact further value
  | error fault =>
    cases fault with
    | operandUnreachable => cases reached
    | _ => rfl

theorem map {read : Except ReadFault α} (change : α → β) (reached : Reached read) :
    Reached (change <$> read) := by
  cases read with
  | ok value => rfl
  | error fault =>
    cases fault with
    | operandUnreachable => cases reached
    | _ => rfl

variable (command : Command) {offset : Nat}

theorem operand (near : offset ≤ 64) {width : Nat} (narrow : width ≤ 8) :
    Reached (command.operand offset width) := by
  have small : 2 * offset < limit64 := by
    simp only [limit64]
    omega
  have place : command.layout.place offset ≤ 2 * offset := by
    rw [command.layout.place_of_lt offset small]
    unfold PointerWidth.scale
    cases command.layout.pointerWidth <;> simp only <;> omega
  have within : ¬ limit64 ≤ command.layout.place offset + width := by
    simp only [limit64]
    omega
  simp only [Command.operand, within, if_false]
  split <;> rfl

theorem u8 (near : offset ≤ 64) : Reached (command.u8 offset) :=
  (operand command near (by decide)).map _

theorem u16 (near : offset ≤ 64) : Reached (command.u16 offset) :=
  (operand command near (by decide)).map _

theorem i16 (near : offset ≤ 64) : Reached (command.i16 offset) :=
  (u16 command near).map _

theorem u32 (near : offset ≤ 64) : Reached (command.u32 offset) :=
  (operand command near (by decide)).map _

theorem i32 (near : offset ≤ 64) : Reached (command.i32 offset) :=
  (u32 command near).map _

theorem address (near : offset ≤ 64) : Reached (command.address offset) := by
  have narrow : command.layout.pointerWidth.bytes ≤ 8 := by
    cases command.layout.pointerWidth <;> decide
  refine (operand command near narrow).bind fun value => ?_
  split <;> rfl

theorem number (near : offset ≤ 64) : Reached (command.number offset) :=
  (address command near).map _

theorem vec3 (near : offset ≤ 60) : Reached (command.vec3 offset) := by
  refine (i16 command (by omega)).bind fun _ => ?_
  refine (i16 command (by omega)).bind fun _ => ?_
  exact (i16 command (by omega)).bind fun _ => rfl

theorem segmentLoad : Reached command.segmentLoad := by
  refine (i16 command (by decide)).bind fun _ => ?_
  refine (number command (by decide)).bind fun _ => ?_
  exact (number command (by decide)).bind fun _ => rfl

theorem condition : Reached command.condition := by
  refine (u8 command (by decide)).bind fun code => ?_
  split
  next => rfl
  next => exact (i32 command (by decide)).bind fun _ => rfl

theorem warpNode : Reached command.warpNode := by
  refine (u8 command (by decide)).bind fun _ => ?_
  refine (u8 command (by decide)).bind fun _ => ?_
  refine (u8 command (by decide)).bind fun _ => ?_
  refine (u8 command (by decide)).bind fun _ => ?_
  exact (u8 command (by decide)).bind fun _ => rfl

theorem read (opcode : Opcode) : Reached (Instruction.read opcode command) := by
  cases opcode <;> simp only [Instruction.read]
  all_goals
    repeat'
      first
      | exact rfl
      | simp only [u8, i16, u16, u32, address, number, vec3, segmentLoad, condition, warpNode,
          Nat.reduceLeDiff]
      | refine bind ?_ fun _ => ?_

end Reached

namespace Instruction

/-- What an instruction looks at only later is in reach as well. -/
def LaterReached : Instruction → Prop
  | .jumpIf _ target | .jumpLinkIf _ target => Reached target
  | .placeObjectExt2 _ _ _ _ behaviorToken _ => Reached behaviorToken
  | _ => True

def Reads (kind : Instruction → Prop) (read : Except ReadFault Instruction) : Prop :=
  ∀ instruction, read = .ok instruction → kind instruction

theorem Reads.ok {kind : Instruction → Prop} {instruction : Instruction} (holds : kind instruction) :
    Reads kind (.ok instruction) := by
  rintro _ ⟨⟩
  exact holds

theorem Reads.bind {α : Type} {kind : Instruction → Prop} {operand : Except ReadFault α}
    {next : α → Except ReadFault Instruction} (reads : ∀ value, Reads kind (next value)) :
    Reads kind (operand >>= next) := by
  intro instruction read
  cases operand with
  | error => cases read
  | ok value => exact reads value instruction read

theorem read_laterReached (opcode : Opcode) (command : Command) :
    Reads LaterReached (read opcode command) := by
  cases opcode with
  | jumpIf => exact .bind fun _ => .ok (.address command (by decide))
  | jumpLinkIf => exact .bind fun _ => .ok (.address command (by decide))
  | placeObjectExt2 =>
    simp only [read]
    repeat' refine .bind fun _ => ?_
    exact .ok (.u32 command (by decide))
  | _ =>
    simp only [read]
    repeat'
      first
      | exact .ok trivial
      | refine .bind fun _ => ?_

theorem checkedRead_eq (opcode : Opcode) (command : Command) :
    checkedRead opcode command = some (read opcode command) := by
  have reached : inReach (read opcode command) = some (read opcode command) :=
    Reached.read command opcode
  have later := read_laterReached opcode command
  rw [checkedRead, reached, Option.bind_eq_bind, Option.bind_some]
  split
  next target same =>
    have reached : inReach target = some target := later _ same
    rw [reached]
    rfl
  next target same =>
    have reached : inReach target = some target := later _ same
    rw [reached]
    rfl
  next behaviorToken _ same =>
    have reached : inReach behaviorToken = some behaviorToken := later _ same
    rw [reached]
    rfl
  next => rfl

end Instruction
end StageScript
