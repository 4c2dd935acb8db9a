import Mathlib.Data.List.Chain
import StageScript.Machine.Scripted
import StageScript.Proofs.Agreement
import StageScript.Proofs.SingleLine

/-!
A listing and a machine read the same commands. A listing goes through any bytes from one command to
the next and ends at the first place where there is none; at each place that it has a line for, a
step of a machine finds what the line says, and the text of the line shows what the step finds.
-/

namespace StageScript

/-- The same fault of a command that stands in another buffer. -/
def ReadFault.inBuffer (buffer : BufferId) : ReadFault → ReadFault
  | .outsideBuffer pointer => .outsideBuffer { pointer with buffer }
  | .zeroSize pointer code => .zeroSize { pointer with buffer } code
  | .overrun pointer code bytes => .overrun { pointer with buffer } code bytes
  | .operandOutside pointer code offset width =>
    .operandOutside { pointer with buffer } code offset width
  | .operandUnreachable pointer offset width =>
    .operandUnreachable { pointer with buffer } offset width
  | .invalidComparison pointer comparison => .invalidComparison { pointer with buffer } comparison
  | .notAnAddress pointer value => .notAnAddress { pointer with buffer } value

namespace Command

def inBuffer (buffer : BufferId) (command : Command) : Command :=
  { command with pointer := { command.pointer with buffer } }

theorem decode_inBuffer (layout : Layout) (bytes : Bytes) (buffer : BufferId) (offset : Nat) :
    decode layout bytes ⟨buffer, offset⟩ =
      ((decode layout bytes ⟨0, offset⟩).map (inBuffer buffer)).mapError
        (ReadFault.inBuffer buffer) := by
  unfold decode
  cases bytes[offset]? with
  | none => rfl
  | some code =>
    cases bytes[offset + 1]? with
    | none => rfl
    | some size =>
      simp only
      split
      next => rfl
      next =>
        split
        next => rfl
        next => rfl

theorem decode_inBuffer_of_ok {layout : Layout} {bytes : Bytes} {offset : Nat} {command : Command}
    (decoded : decode layout bytes ⟨0, offset⟩ = .ok command) (buffer : BufferId) :
    decode layout bytes ⟨buffer, offset⟩ = .ok (command.inBuffer buffer) := by
  rw [decode_inBuffer, decoded]
  rfl

theorem decode_inBuffer_of_error {layout : Layout} {bytes : Bytes} {offset : Nat}
    {fault : ReadFault} (failed : decode layout bytes ⟨0, offset⟩ = .error fault)
    (buffer : BufferId) : decode layout bytes ⟨buffer, offset⟩ = .error (fault.inBuffer buffer) := by
  rw [decode_inBuffer, failed]
  rfl

theorem inBuffer_of_decode {layout : Layout} {bytes : Bytes} {offset : Nat} {command : Command}
    (decoded : decode layout bytes ⟨0, offset⟩ = .ok command) (buffer : BufferId) :
    (command.inBuffer buffer).inBuffer 0 = command := by
  have itself := decode_inBuffer_of_ok decoded 0
  rw [decoded, Except.ok.injEq] at itself
  exact itself.symm

end Command

theorem ReadFault.inBuffer_inBuffer (fault : ReadFault) (buffer other : BufferId) :
    (fault.inBuffer buffer).inBuffer other = fault.inBuffer other := by
  cases fault <;> rfl

theorem ReadFault.inBuffer_of_decode {layout : Layout} {bytes : Bytes} {offset : Nat}
    {fault : ReadFault} (failed : Command.decode layout bytes ⟨0, offset⟩ = .error fault)
    (buffer : BufferId) : (fault.inBuffer buffer).inBuffer 0 = fault := by
  have itself := Command.decode_inBuffer_of_error failed 0
  rw [failed, Except.error.injEq] at itself
  rw [inBuffer_inBuffer, ← itself]

namespace Listing

variable {layout : Layout} {bytes : Bytes} {offset : Nat} {line : Line} {lines : List Line}

namespace Line

def command? : Line → Option Command
  | .command _ decoded => some decoded
  | .unknown _ _ | .broken _ _ => none

/-- The line is right about the bytes at its offset. -/
inductive Reads (layout : Layout) (bytes : Bytes) : Line → Prop where
  | command {offset : Nat} {command : Command} {opcode : Opcode}
    (decoded : Command.decode layout bytes ⟨0, offset⟩ = .ok command)
    (known : command.opcode? = some opcode) : Reads layout bytes (.command offset command)
  | unknown {offset : Nat} {code : UInt8} (found : bytes[offset]? = some code)
    (beyond : Opcode.ofCode? code = none) : Reads layout bytes (.unknown offset code)
  | broken {offset : Nat} {code : UInt8} {opcode : Opcode} {fault : ReadFault}
    (found : bytes[offset]? = some code) (known : Opcode.ofCode? code = some opcode)
    (failed : Command.decode layout bytes ⟨0, offset⟩ = .error fault) :
    Reads layout bytes (.broken offset fault)

theorem Reads.offset_lt (reads : line.Reads layout bytes) : line.offset < bytes.size := by
  cases reads with
  | command decoded _ =>
    have bounds := Command.length_of_decode decoded
    simp only [offset] at bounds ⊢
    omega
  | unknown found _ | broken found _ _ => exact (Array.getElem?_eq_some_iff.mp found).1

end Line

/-- The lines go through the bytes from an offset on, each beginning where the command before it ends,
up to the end of the bytes or the first line that has no command. -/
inductive Covers (layout : Layout) (bytes : Bytes) : Nat → List Line → Prop where
  | ended {offset : Nat} (ends : bytes.size ≤ offset) : Covers layout bytes offset []
  | stopped {line : Line} (reads : line.Reads layout bytes) (last : line.command? = none) :
    Covers layout bytes line.offset [line]
  | command {offset : Nat} {command : Command} {rest : List Line}
    (reads : (Line.command offset command).Reads layout bytes)
    (others : Covers layout bytes (offset + command.length) rest) :
    Covers layout bytes offset (.command offset command :: rest)

theorem exists_opcode {code : UInt8} (within : ¬ Opcode.count ≤ code.toNat) :
    ∃ opcode, Opcode.ofCode? code = some opcode := by
  rw [← Opcode.ofCode?_eq_none_iff] at within
  exact Option.ne_none_iff_exists'.mp within

theorem covers_linesFrom (layout : Layout) (bytes : Bytes) (offset : Nat) :
    Covers layout bytes offset (linesFrom layout bytes offset) := by
  induction offset using linesFrom.induct layout bytes with
  | case1 offset ends =>
    rw [linesFrom, ends]
    exact .ended (Array.getElem?_eq_none_iff.mp ends)
  | case2 offset code found beyond =>
    rw [linesFrom, found]
    simp only [beyond, if_true]
    have reads : (Line.unknown offset code).Reads layout bytes :=
      .unknown found ((Opcode.ofCode?_eq_none_iff code).mpr beyond)
    exact .stopped reads rfl
  | case3 offset code found within fault failed =>
    obtain ⟨opcode, known⟩ := exists_opcode within
    have broken : linesFrom layout bytes offset = [.broken offset fault] := by
      rw [linesFrom, found]
      simp only [if_neg within]
      split
      next same => rw [failed] at same; cases same; rfl
      next same => rw [failed] at same; cases same
    rw [broken]
    have reads : (Line.broken offset fault).Reads layout bytes := .broken found known failed
    exact .stopped reads rfl
  | case4 offset code found within command decoded ih =>
    obtain ⟨opcode, known⟩ := exists_opcode within
    have same : command.code = code :=
      Option.some.inj ((Command.getElem?_of_decode decoded).symm.trans found)
    have meant : command.opcode? = some opcode := (congrArg Opcode.ofCode? same).trans known
    rw [linesFrom_of_decode decoded meant]
    exact .command (.command decoded meant) ih

namespace Covers

variable (covers : Covers layout bytes offset lines)
include covers

theorem reads : ∀ line ∈ lines, line.Reads layout bytes := by
  induction covers with
  | ended => nofun
  | stopped reads last =>
    intro line member
    cases List.mem_singleton.mp member
    exact reads
  | command reads _ ih => exact List.forall_mem_cons.mpr ⟨reads, ih⟩

theorem length_le : lines.length ≤ bytes.size - offset := by
  induction covers with
  | ended => exact Nat.zero_le _
  | stopped reads =>
    have inside := reads.offset_lt
    rw [List.length_singleton]
    omega
  | command reads _ ih =>
    cases reads with
    | command decoded =>
      have bounds := Command.length_of_decode decoded
      simp only [List.length_cons] at bounds ⊢
      omega

theorem le_offset : ∀ line ∈ lines, offset ≤ line.offset := by
  induction covers with
  | ended => nofun
  | stopped =>
    intro line member
    cases List.mem_singleton.mp member
    exact Nat.le_refl _
  | command _ _ ih =>
    refine List.forall_mem_cons.mpr ⟨Nat.le_refl _, fun line member => ?_⟩
    exact Nat.le_trans (Nat.le_add_right _ _) (ih line member)

theorem head? : lines.head?.map Line.offset = if bytes.size ≤ offset then none else some offset := by
  cases covers with
  | ended ends => rw [if_pos ends]; rfl
  | stopped reads | command reads => exact (if_neg (Nat.not_le.mpr reads.offset_lt)).symm

theorem chain : lines.IsChain fun line next =>
    ∃ command, line.command? = some command ∧ next.offset = line.offset + command.length := by
  induction covers with
  | ended => exact .nil
  | stopped => exact .singleton _
  | @command offset command rest _ others ih =>
    refine List.isChain_cons.mpr ⟨fun next leads => ?_, ih⟩
    have first := others.head?
    rw [leads] at first
    split at first
    next => cases first
    next => exact ⟨command, rfl, Option.some.inj first⟩

theorem ascending : lines.Pairwise fun line next => line.offset < next.offset := by
  induction covers with
  | ended => exact .nil
  | stopped => exact List.pairwise_singleton _ _
  | command reads others ih =>
    refine .cons (fun line member => ?_) ih
    have later := others.le_offset line member
    cases reads with
    | command decoded =>
      have bounds := Command.length_of_decode decoded
      simp only [Line.offset] at later ⊢
      omega

theorem total (inside : offset ≤ bytes.size) :
    let ends := offset + ((lines.filterMap Line.command?).map Command.length).sum
    ends ≤ bytes.size ∧ (ends = bytes.size ↔ ∀ line ∈ lines, line.command?.isSome) := by
  induction covers with
  | ended ends => exact ⟨inside, fun _ => nofun, fun _ => Nat.le_antisymm inside ends⟩
  | @stopped line reads last =>
    have short := reads.offset_lt
    simp only [List.filterMap_cons, last, List.filterMap_nil, List.map_nil, List.sum_nil,
      Nat.add_zero, List.forall_mem_singleton]
    simp
    omega
  | @command offset command rest reads _ ih =>
    cases reads with
    | command decoded =>
      have bounds := Command.length_of_decode decoded
      have others := ih bounds.2
      have shown : (Line.command offset command).command? = some command := rfl
      simp only [List.filterMap_cons, shown, List.map_cons, List.sum_cons, List.forall_mem_cons,
        Option.isSome_some, true_and]
      rwa [← Nat.add_assoc]

end Covers

end Listing

/-- What a step finds at a cursor, before any handler runs. -/
inductive Encounter where
  | pauses (code : UInt8)
  | faults (fault : ReadFault)
  | calls (command : Command)

/-- What a line announces to a machine that has the bytes in the buffer. -/
def Listing.Line.encounter (buffer : BufferId) : Line → Encounter
  | .command _ decoded => .calls (decoded.inBuffer buffer)
  | .unknown _ code => .pauses code
  | .broken _ fault => .faults (fault.inBuffer buffer)

/-- What a listing shows of it, for which all bytes are in buffer zero. -/
def Encounter.shown : Encounter → String
  | .pauses code => s!"{Listing.unknownText code} ; end of recognized stream"
  | .faults fault => s!"; {(fault.inBuffer 0).message}"
  | .calls command => Listing.commandText (command.inBuffer 0)

theorem Listing.Line.text_eq {layout : Layout} {bytes : Bytes} {line : Line}
    (reads : line.Reads layout bytes) (buffer : BufferId) :
    line.text = s!"{Text.Hex.padded 6 line.offset}: {(line.encounter buffer).shown}" := by
  cases reads with
  | command decoded _ =>
    have back := Command.inBuffer_of_decode decoded buffer
    simp only [encounter, Encounter.shown, back]
    rfl
  | @unknown offset code =>
    calc Text.Hex.padded 6 offset ++ ": " ++ unknownText code ++ " ; end of recognized stream"
      _ = Text.Hex.padded 6 offset ++ ": " ++ (unknownText code ++ " ; end of recognized stream") :=
        String.append_assoc
  | @broken offset _ _ fault _ _ failed =>
    have back := ReadFault.inBuffer_of_decode failed buffer
    simp only [encounter, Encounter.shown, back]
    calc Text.Hex.padded 6 offset ++ ": ; " ++ fault.message
      _ = Text.Hex.padded 6 offset ++ (": " ++ "; ") ++ fault.message := rfl
      _ = Text.Hex.padded 6 offset ++ ": " ++ ("; " ++ fault.message) := by
        simp only [String.append_assoc]

namespace Machine

variable {E : Embedding} {canonical : Bool} {machine : Machine E} {cursor : Pointer}

variable [Patches E]

/-- A step pauses in place, or faults in decoding, without having called a handler; or it calls the
handler of the command's opcode and goes on from what that comes to. -/
inductive Encounters (canonical : Bool) (machine : Machine E) (cursor : Pointer) :
    Encounter → Prop where
  | pauses {bytes : Bytes} {code : UInt8} (live : machine.memory.buffer? cursor.buffer = some bytes)
    (read : Command.codeAt bytes cursor = .ok code) (beyond : Opcode.ofCode? code = none)
    (idle : machine.dispatched? canonical cursor = none)
    (paused : machine.step canonical cursor = (.ok cursor, machine.setStatus .paused)) :
    Encounters canonical machine cursor (.pauses code)
  | faults {fault : ReadFault} (idle : machine.dispatched? canonical cursor = none)
    (faulted : machine.step canonical cursor = (.error (.read fault), machine)) :
    Encounters canonical machine cursor (.faults fault)
  | calls {command : Command} {opcode : Opcode} (meant : command.opcode? = some opcode)
    (called : machine.dispatched? canonical cursor = some (.canonical opcode, command))
    (settled : machine.step canonical cursor =
      settle command.next cursor (machine.dispatchCommand (.canonical opcode) command)) :
    Encounters canonical machine cursor (.calls command)

theorem Encounters.unique {one other : Encounter} (encounters : machine.Encounters canonical cursor one)
    (again : machine.Encounters canonical cursor other) : other = one := by
  cases encounters with
  | pauses live read _ idle paused =>
    cases again with
    | pauses live' read' =>
      cases live.symm.trans live'
      cases read.symm.trans read'
      rfl
    | faults _ faulted => cases paused.symm.trans faulted
    | calls _ called => cases idle.symm.trans called
  | faults idle faulted =>
    cases again with
    | pauses _ _ _ _ paused => cases paused.symm.trans faulted
    | faults _ same =>
      cases faulted.symm.trans same
      rfl
    | calls _ called => cases idle.symm.trans called
  | calls meant called =>
    cases again with
    | pauses _ _ _ idle => cases idle.symm.trans called
    | faults idle => cases idle.symm.trans called
    | calls _ same =>
      cases called.symm.trans same
      rfl

section Buffer

variable {buffer : BufferId} {offset : Nat} {bytes : Bytes}
  (live : machine.memory.buffer? buffer = some bytes)
  (plain : canonical = true ∨ machine.dispatch = .canonical)
include live plain

theorem encounters_unknown {code : UInt8} (found : bytes[offset]? = some code)
    (beyond : Opcode.ofCode? code = none) :
    machine.Encounters canonical ⟨buffer, offset⟩ (.pauses code) := by
  have none : machine.handler? canonical code = none := by
    rw [handler?_of_plain plain, beyond]
    rfl
  have code : Command.codeAt bytes ⟨buffer, offset⟩ = .ok code := by
    simp only [Command.codeAt, found]
  refine .pauses live code beyond ?idle ?paused
  case idle =>
    refine Option.eq_none_iff_forall_ne_some.mpr fun ⟨handler, command⟩ called => ?_
    obtain ⟨_, again, decoded, handled⟩ := dispatched?_eq_some.mp called
    cases live.symm.trans again
    rw [Command.code_of_decode decoded code, none] at handled
    cases handled
  case paused => simp only [step, live, code, none]

theorem encounters_broken {code : UInt8} {opcode : Opcode} {fault : ReadFault}
    (found : bytes[offset]? = some code) (known : Opcode.ofCode? code = some opcode)
    (failed : Command.decode machine.config.layout bytes ⟨buffer, offset⟩ = .error fault) :
    machine.Encounters canonical ⟨buffer, offset⟩ (.faults fault) := by
  have handler : machine.handler? canonical code = some (.canonical opcode) := by
    rw [handler?_of_plain plain, known]
    rfl
  have code : Command.codeAt bytes ⟨buffer, offset⟩ = .ok code := by
    simp only [Command.codeAt, found]
  constructor
  case idle =>
    refine Option.eq_none_iff_forall_ne_some.mpr fun ⟨handler, command⟩ called => ?_
    obtain ⟨_, again, decoded, _⟩ := dispatched?_eq_some.mp called
    cases live.symm.trans again
    cases failed.symm.trans decoded
  case faulted => simp only [step, live, code, handler, failed]

theorem encounters_command {command : Command} {opcode : Opcode}
    (decoded : Command.decode machine.config.layout bytes ⟨buffer, offset⟩ = .ok command)
    (known : command.opcode? = some opcode) :
    machine.Encounters canonical ⟨buffer, offset⟩ (.calls command) := by
  have handler : machine.handler? canonical command.code = some (.canonical opcode) := by
    rw [handler?_of_plain plain, show Opcode.ofCode? command.code = some opcode from known]
    rfl
  have called := dispatched?_eq_some.mpr ⟨bytes, live, decoded, handler⟩
  exact .calls known called (step_of_dispatched called)

theorem encounters_line {line : Listing.Line} (reads : line.Reads machine.config.layout bytes) :
    machine.Encounters canonical ⟨buffer, line.offset⟩ (line.encounter buffer) := by
  cases reads with
  | command decoded known =>
    exact encounters_command live plain (Command.decode_inBuffer_of_ok decoded buffer) known
  | unknown found beyond => exact encounters_unknown live plain found beyond
  | broken found known failed =>
    have elsewhere := Command.decode_inBuffer_of_error failed buffer
    exact encounters_broken live plain found known elsewhere

end Buffer

end Machine

/-- The listing of any bytes is made of finitely many lines, with ascending offsets from zero on, a
command's line being followed by the one where the command ends; and at each of its lines, a machine that
has the bytes in some buffer and goes by the canonical table finds what the line says and nothing else:
it pauses at an opcode that is none, faults as the line does except for the buffer, or calls the handler
of a command that is the same except for the buffer. The text that is listed has one line for each of
them, which shows its offset and what the machine finds there. Nothing but commands is listed just when
the commands end where the bytes end. -/
theorem Listing.lines_encountered {E : Embedding} [Patches E] (layout : Layout) (bytes : Bytes) :
    let listed := lines layout bytes
    let commands := listed.filterMap Line.command?
    disassemble layout bytes = String.join (listed.map fun line => line.text ++ "\n") ∧
    (∀ line ∈ listed, SingleLine line.text) ∧
    listed.length ≤ bytes.size ∧
    listed.head?.map Line.offset = (if bytes.size = 0 then none else some 0) ∧
    listed.Pairwise (fun line next => line.offset < next.offset) ∧
    (listed.IsChain fun line next => ∃ command,
      line.command? = some command ∧ next.offset = line.offset + command.length) ∧
    (∀ line ∈ listed, line.offset < bytes.size ∧ ∀ buffer : BufferId,
      line.text = s!"{Text.Hex.padded 6 line.offset}: {(line.encounter buffer).shown}" ∧
      ∀ (machine : Machine E) (canonical : Bool),
        machine.memory.buffer? buffer = some bytes → machine.config.layout = layout →
        (canonical = true ∨ machine.dispatch = .canonical) →
        ∀ encounter, machine.Encounters canonical ⟨buffer, line.offset⟩ encounter ↔
          encounter = line.encounter buffer) ∧
    ((commands.map Command.length).sum = bytes.size ↔ ∀ line ∈ listed, line.command?.isSome) := by
  intro listed commands
  have covers : Covers layout bytes 0 listed := covers_linesFrom layout bytes 0
  have total := covers.total (Nat.zero_le _)
  have head := covers.head?
  rw [Nat.zero_add] at total
  simp only [Nat.le_zero] at head
  refine ⟨rfl, fun line _ => line.singleLine_text, covers.length_le, head, covers.ascending,
    covers.chain, fun line member => ?_, total.2⟩
  have reads := covers.reads line member
  refine ⟨reads.offset_lt, fun buffer => ⟨Line.text_eq reads buffer, ?_⟩⟩
  intro machine canonical live same plain encounter
  subst same
  have encounters := Machine.encounters_line live plain reads
  constructor
  · exact encounters.unique
  · rintro rfl
    exact encounters

/-- A command that sets the register, and one of size zero. -/
def stuntedScript : Bytes := #[0x13, 4, 0, 5, 0x05, 0]

def stunted : Machine Scripted.embedding :=
  let machine : Machine Scripted.embedding := .ofImage .standard #[]
  let (_, memory) := machine.memory.install #[]
  { machine with memory := (memory.install stuntedScript).2 }

/-- The listing ends with a fault in its own buffer, and the machine faults there in the other. -/
theorem Listing.lines_encountered_stunted :
    disassemble .standard stuntedScript =
        "000000: SET_REG value=1280\n000004: ; command 0x05 at buf0+0x0004 has a zero size field\n" ∧
      stunted.memory.buffer? 1 = some stuntedScript ∧
      stunted.Encounters false ⟨1, 4⟩ (.faults (.zeroSize ⟨1, 4⟩ 0x05)) := by
  let command : Command := ⟨⟨0, 0⟩, 0x13, 4, #[0x13, 4, 0, 5], .standard⟩
  let fault : ReadFault := .zeroSize ⟨0, 4⟩ 0x05
  have decoded : Command.decode .standard stuntedScript ⟨0, 0⟩ = .ok command := by decide +kernel
  have known : command.opcode? = some .setRegister := by decide +kernel
  have last : linesFrom .standard stuntedScript (0 + command.length) = [.broken 4 fault] := by
    rw [linesFrom]
    rfl
  have listed : lines .standard stuntedScript = [.command 0 command, .broken 4 fault] := by
    rw [lines, linesFrom_of_decode decoded known, last]
  have live : stunted.memory.buffer? 1 = some stuntedScript := by decide +kernel
  obtain ⟨text, _, _, _, _, _, met, _⟩ :=
    lines_encountered (E := Scripted.embedding) .standard stuntedScript
  rw [listed] at text met
  have faults := ((met (.broken 4 fault) (.tail _ (.head _))).2 1).2 stunted false live rfl (.inr rfl)
  exact ⟨text.trans (by decide +kernel), live, (faults _).mpr rfl⟩

end StageScript
