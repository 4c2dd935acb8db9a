import StageScript.Proofs.Commuting
import StageScript.Proofs.Disguise
import StageScript.Proofs.Lifetime
import StageScript.Proofs.Rewriting

/-!
Commands see their own bytes only. Whatever lies in a buffer outside of the command that a step is at,
the step comes to the same, and the other bytes stay as they are. Only a skip looks at the commands
behind it.
-/

namespace StageScript

/-- Two byte strings of one length have the same command at an offset, as far as its size byte reaches. -/
structure Command.SameExtent (layout : Layout) (offset : Nat) (bytes other : Bytes) : Prop where
  size : other.size = bytes.size
  code : other[offset]? = bytes[offset]?
  sizeByte : other[offset + 1]? = bytes[offset + 1]?
  body : ∀ size, bytes[offset + 1]? = some size → ∀ place, offset ≤ place →
    place < offset + layout.commandBytes size → other[place]? = bytes[place]?

namespace Command.SameExtent

variable {layout : Layout} {pointer : Pointer} {bytes other : Bytes}
  (same : SameExtent layout pointer.offset bytes other)
include same

theorem codeAt_eq : codeAt other pointer = codeAt bytes pointer := by
  rw [codeAt, codeAt, same.code]

theorem extract_eq {size : UInt8} (found : bytes[pointer.offset + 1]? = some size) :
    other.extract pointer.offset (pointer.offset + layout.commandBytes size) =
      bytes.extract pointer.offset (pointer.offset + layout.commandBytes size) := by
  refine Array.ext_getElem? fun place => ?_
  rw [Array.getElem?_extract, Array.getElem?_extract, same.size]
  split
  next inside => exact same.body size found _ (by omega) (by omega)
  next => rfl

theorem decode_eq : decode layout other pointer = decode layout bytes pointer := by
  unfold decode
  rw [same.code, same.sizeByte, same.size]
  cases bytes[pointer.offset]? with
  | none => rfl
  | some code =>
    cases found : bytes[pointer.offset + 1]? with
    | none => rfl
    | some size => simp only [same.extract_eq found]

end Command.SameExtent

namespace Disguise

def rewriting (buffer : BufferId) (bytes : Bytes) : Disguise :=
  ⟨Memory.rewrite buffer bytes, id, id⟩

theorem fits_rewriting (buffer : BufferId) (bytes : Bytes) :
    (rewriting buffer bytes).Fits fun memory => buffer < memory.slots.size where
  available _ := rfl
  resolve? _ := Memory.resolve?_rewrite
  pushState _ := Memory.pushState_rewrite
  popState _ := Memory.popState_rewrite
  loadRange _ issued _ := Memory.loadSegment_rewrite issued _ _ _
  loadFixed _ issued := Memory.loadFixed_rewrite issued
  kept_pushState _ issued := issued
  kept_popState _ _ issued popped := by
    obtain ⟨checkpoint, outer, _, rfl⟩ := Memory.popState_eq_ok.mp popped
    rwa [Memory.size_revert]

end Disguise

namespace Machine

variable {E : Embedding} {machine : Machine E} {buffer : BufferId} {bytes other : Bytes}
  {canonical : Bool} {cursor : Pointer}

def rewrite (buffer : BufferId) (bytes : Bytes) (machine : Machine E) : Machine E :=
  { machine with memory := machine.memory.rewrite buffer bytes }

def looksAhead (cursor : Pointer) (machine : Machine E) : Bool :=
  (machine.fetch? cursor).any fun fetched => fetched.2.looksAhead machine.context.register

theorem exec_rewrite (issued : buffer < machine.memory.slots.size) {instruction : Instruction}
    (stays : instruction.looksAhead machine.context.register = false) (following : Pointer) :
    (machine.rewrite buffer bytes).exec instruction following =
      (machine.exec instruction following).disguised (.rewriting buffer bytes) := by
  refine exec_disguised (Disguise.fits_rewriting buffer bytes) issued ?_ instruction following ?_
  · intro _ function _ context argument register
    rfl
  · rw [stays]
    exact nofun

theorem unled_rewrite (buffer : BufferId) (bytes : Bytes) :
    Unled (rewrite (E := E) buffer bytes) :=
  ⟨fun _ => rfl, fun _ => rfl, fun _ _ => rfl, fun _ _ => rfl⟩

section Step

variable [Patches E] (live : machine.memory.buffer? cursor.buffer = some bytes)
include live

omit [Patches E] in
theorem lookup_rewrite (same : Command.SameExtent machine.config.layout cursor.offset bytes other) :
    (machine.rewrite cursor.buffer other).lookup canonical cursor =
      machine.lookup canonical cursor := by
  have rewritten : (machine.rewrite cursor.buffer other).memory.buffer? cursor.buffer = some other :=
    Memory.buffer?_rewrite (Memory.isLive_of_buffer? live)
  have config : (machine.rewrite cursor.buffer other).config = machine.config := rfl
  have handlers (code : UInt8) : (machine.rewrite cursor.buffer other).handler? canonical code =
      machine.handler? canonical code := rfl
  simp only [lookup, live, rewritten, same.codeAt_eq, handlers, config, same.decode_eq]

variable (plain : canonical = true ∨ machine.dispatch = .canonical)
  (stays : machine.looksAhead cursor = false)
include plain stays

theorem dispatchCommand_rewrite {command : Command} {handler : Handler E.Patch}
    (called : machine.dispatched? canonical cursor = some (handler, command)) :
    (machine.rewrite cursor.buffer other).dispatchCommand handler command =
      (machine.dispatchCommand handler command).disguised (.rewriting cursor.buffer other) := by
  obtain ⟨opcode, known, rfl⟩ := canonical_of_dispatched plain called
  simp only [dispatchCommand]
  cases read : Instruction.read opcode command with
  | error fault => rfl
  | ok instruction =>
    obtain ⟨held, again, decoded, _⟩ := dispatched?_eq_some.mp called
    have fetched : machine.fetch? cursor = some (command, instruction) :=
      fetch?_eq_some.mpr ⟨⟨held, again, decoded⟩, opcode, known, read⟩
    rw [looksAhead, fetched] at stays
    exact exec_rewrite (Memory.lt_of_buffer? live) stays command.next

theorem step_rewrite (same : Command.SameExtent machine.config.layout cursor.offset bytes other) :
    (machine.rewrite cursor.buffer other).step canonical cursor =
      (machine.step canonical cursor).map id (rewrite cursor.buffer other) := by
  refine step_map id ?_ (fun _ => rfl) rfl fun handler command called => ?_
  · rw [lookup_rewrite live same, Prod.map_id, Option.map_id, Except.map_id]
    rfl
  · exact ⟨dispatchCommand_rewrite live plain stays called,
      settle_map fun _ _ => followOverrides_map (unled_rewrite _ _) _ _⟩

/-- Whether a step goes on, where, and what it comes to otherwise is the same whatever lies in the
buffer outside of the command that it is at, and so is the machine that it leaves, except that the
bytes are there that have been there before: as long as the buffer is live, it holds what it held. This
is so of every command that does not look for another one behind it, however short its size byte says
that it is. -/
theorem step_seesOwnBytes
    (same : Command.SameExtent machine.config.layout cursor.offset bytes other) :
    let stepped := machine.step canonical cursor
    (machine.rewrite cursor.buffer other).step canonical cursor =
        (stepped.1, stepped.2.rewrite cursor.buffer other) ∧
      ∀ held, stepped.2.memory.buffer? cursor.buffer = some held → held = bytes := by
  intro stepped
  refine ⟨step_rewrite live plain stays same, fun held left => ?_⟩
  -- the machine is its own rewriting with the bytes that are there, and so is what it becomes
  have selfSame : Command.SameExtent machine.config.layout cursor.offset bytes bytes :=
    ⟨rfl, rfl, rfl, fun _ _ _ _ _ => rfl⟩
  have again := step_rewrite live plain stays selfSame
  have unchanged : machine.rewrite cursor.buffer bytes = machine := by
    rw [rewrite, Memory.rewrite_self live]
  rw [unchanged] at again
  have kept : stepped.2.memory.rewrite cursor.buffer bytes = stepped.2.memory :=
    congrArg (fun result => result.2.memory) again.symm
  have there : (stepped.2.memory.rewrite cursor.buffer bytes).buffer? cursor.buffer = some bytes :=
    Memory.buffer?_rewrite (Memory.isLive_of_buffer? left)
  rw [kept, left] at there
  exact Option.some.inj there

end Step

/-- A jump that is too short for its target, and behind it what would be one: the exit at its end. -/
def shortJump : Bytes := #[0x05, 4, 0, 0, 8, 0, 0, 0x10, 0x02, 4, 0, 0]

def shortJumpBack : Bytes := #[0x05, 4, 0, 0, 0, 0, 0, 0x10, 0x02, 4, 0, 0]

theorem sameExtent_shortJump : Command.SameExtent .standard 0 shortJump shortJumpBack where
  size := rfl
  code := rfl
  sizeByte := rfl
  body size found place _ inside := by
    cases found
    have four : place < 4 := inside
    have all : ∀ near < 4, shortJumpBack[near]? = shortJump[near]? := by decide
    exact all place four

theorem step_seesOwnBytes_shortJump :
    let machine := (Run.ofScript #[] shortJump).machine
    machine.memory.buffer? 0 = some shortJump ∧ machine.looksAhead ⟨0, 0⟩ = false ∧
      Command.SameExtent machine.config.layout 0 shortJump shortJumpBack ∧
      (machine.rewrite 0 shortJumpBack).step true ⟨0, 0⟩ =
        (.error (.read (.operandOutside ⟨0, 0⟩ 0x05 4 4)),
          (machine.step true ⟨0, 0⟩).2.rewrite 0 shortJumpBack) := by
  intro machine
  have live : machine.memory.buffer? (⟨0, 0⟩ : Pointer).buffer = some shortJump := by decide +kernel
  have stays : machine.looksAhead ⟨0, 0⟩ = false := by decide +kernel
  have layout : machine.config.layout = .standard := by decide +kernel
  have same : Command.SameExtent machine.config.layout 0 shortJump shortJumpBack := by
    rw [layout]
    exact sameExtent_shortJump
  have plain : true = true ∨ machine.dispatch = .canonical := .inl rfl
  have faulted : (machine.step true ⟨0, 0⟩).1 =
      .error (.read (.operandOutside ⟨0, 0⟩ 0x05 4 4)) := by decide +kernel
  have again := (step_seesOwnBytes live plain stays same).1
  rw [faulted] at again
  exact ⟨live, stays, same, again⟩

end Machine

end StageScript
