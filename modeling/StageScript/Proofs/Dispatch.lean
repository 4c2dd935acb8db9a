import StageScript.Machine.Run
import StageScript.Proofs.Results

/-!
What a step dispatches. A step that calls a handler settles where control goes from the command.
While every opcode has its canonical meaning, it either runs the instruction at the cursor in this
way, or changes nothing but the status.
-/

namespace StageScript

theorem DispatchTable.handler?_canonical {P : Type} (code : UInt8) :
    (canonical : DispatchTable P).handler? code = (Opcode.ofCode? code).map .canonical := by
  simp [canonical, handler?, Opcode.ofCode?]

theorem Command.codeAt_of_decode {layout : Layout} {bytes : Bytes} {pointer : Pointer}
    {command : Command} (decoded : decode layout bytes pointer = .ok command) :
    codeAt bytes pointer = .ok command.code := by
  unfold decode at decoded
  unfold codeAt
  split at decoded
  next => simp at decoded
  next code found =>
    simp only [found]
    split at decoded
    next => simp at decoded
    next =>
      simp only at decoded
      split at decoded
      next => simp at decoded
      next =>
        split at decoded
        next => simp at decoded
        next =>
          simp only [Except.ok.injEq] at decoded
          subst decoded
          rfl

theorem Command.code_of_decode {layout : Layout} {bytes : Bytes} {pointer : Pointer}
    {command : Command} {code : UInt8} (decoded : decode layout bytes pointer = .ok command)
    (found : codeAt bytes pointer = .ok code) : command.code = code :=
  Except.ok.inj ((codeAt_of_decode decoded).symm.trans found)

theorem Command.pointer_of_decode {layout : Layout} {bytes : Bytes} {pointer : Pointer}
    {command : Command} (decoded : decode layout bytes pointer = .ok command) :
    command.pointer = pointer := by
  unfold decode at decoded
  split at decoded
  next => cases decoded
  next =>
    split at decoded
    next => cases decoded
    next =>
      simp only at decoded
      split at decoded
      next => cases decoded
      next =>
        split at decoded
        next => cases decoded
        next =>
          cases decoded
          rfl

theorem Command.next_of_decode {layout : Layout} {bytes : Bytes} {pointer : Pointer}
    {command : Command} (decoded : decode layout bytes pointer = .ok command) :
    command.next = pointer.advance command.length := by
  rw [next, pointer_of_decode decoded]

def Flow.target (flow : Flow) (following cursor : Pointer) : Pointer :=
  match flow with
  | .next => following
  | .goto target => target
  | .hold => cursor

namespace Machine

variable {E : Embedding}

/-- The command under a pointer decodes to an instruction, so that a step there runs it. -/
structure Dispatches (machine : Machine E) (cursor : Pointer) (command : Command)
    (instruction : Instruction) : Prop where
  decoded : ∃ bytes, machine.memory.buffer? cursor.buffer = some bytes ∧
    Command.decode machine.config.layout bytes cursor = .ok command
  meant : ∃ opcode, command.opcode? = some opcode ∧
    Instruction.read opcode command = .ok instruction

def fetch? (machine : Machine E) (cursor : Pointer) : Option (Command × Instruction) := do
  let bytes ← machine.memory.buffer? cursor.buffer
  let command ← (Command.decode machine.config.layout bytes cursor).toOption
  let opcode ← command.opcode?
  let instruction ← (Instruction.read opcode command).toOption
  return (command, instruction)

deriving instance DecidableEq for Except, Instruction

theorem fetch?_eq_some {machine : Machine E} {cursor : Pointer} {command : Command}
    {instruction : Instruction} :
    machine.fetch? cursor = some (command, instruction) ↔
      machine.Dispatches cursor command instruction := by
  constructor
  · intro fetched
    simp only [fetch?, Option.bind_eq_bind, Option.bind_eq_some_iff, Option.pure_def,
      Option.some.injEq, Prod.mk.injEq, toOption_eq_some] at fetched
    obtain ⟨bytes, live, _, decoded, opcode, known, _, read, rfl, rfl⟩ := fetched
    exact ⟨⟨bytes, live, decoded⟩, opcode, known, read⟩
  · rintro ⟨⟨bytes, live, decoded⟩, opcode, known, read⟩
    simp [fetch?, live, decoded, known, read, Except.toOption]

theorem Dispatches.unique {machine : Machine E} {cursor : Pointer} {command other : Command}
    {instruction second : Instruction} (dispatched : machine.Dispatches cursor command instruction)
    (again : machine.Dispatches cursor other second) : command = other ∧ instruction = second := by
  rw [← fetch?_eq_some] at dispatched again
  simpa [dispatched] using again

/-- Where an outcome leaves the run: at the resolved target of its flow, or at its fault. -/
def settle (following cursor : Pointer) (outcome : Outcome E) : Except Fault Pointer × Machine E :=
  match outcome.flow with
  | .error fault => (.error fault, outcome.machine)
  | .ok flow =>
    let (resolved, machine) := outcome.machine.followOverrides (flow.target following cursor)
    (.ok resolved, machine)

theorem settle_eq_ok {following cursor target : Pointer} {outcome : Outcome E}
    {machine : Machine E} :
    settle following cursor outcome = (.ok target, machine) ↔ ∃ flow, outcome.flow = .ok flow ∧
      outcome.machine.followOverrides (flow.target following cursor) = (target, machine) := by
  unfold settle
  split
  next fault failed => simp [failed]
  next flow went => simp [went, Prod.ext_iff]

theorem settle_eq_error {following cursor : Pointer} {outcome : Outcome E} {fault : Fault}
    {machine : Machine E} :
    settle following cursor outcome = (.error fault, machine) ↔
      outcome.flow = .error fault ∧ outcome.machine = machine := by
  unfold settle
  split
  next fault failed => simp [failed]
  next flow went => simp [went]

theorem settle_keeps {property : Machine E → Prop} {outcome : Outcome E}
    (holds : property outcome.machine)
    (followed : ∀ pointer after, property after → property (after.followOverrides pointer).2)
    (following cursor : Pointer) : property (settle following cursor outcome).2 := by
  unfold settle
  split
  next => exact holds
  next => exact followed _ _ holds

theorem handler?_of_canonical {machine : Machine E} (table : machine.dispatch = .canonical)
    (canonical : Bool) (code : UInt8) :
    machine.handler? canonical code = (Opcode.ofCode? code).map .canonical := by
  cases canonical with
  | true => rfl
  | false => simp only [handler?, table, DispatchTable.handler?_canonical, Bool.false_eq_true, if_false]

theorem handler?_of_plain {machine : Machine E} {canonical : Bool}
    (plain : canonical = true ∨ machine.dispatch = .canonical) (code : UInt8) :
    machine.handler? canonical code = (Opcode.ofCode? code).map .canonical := by
  rcases plain with rfl | table
  · rfl
  · rw [handler?_of_canonical table]

def dispatched? (canonical : Bool) (cursor : Pointer) (machine : Machine E) :
    Option (Handler E.Patch × Command) := do
  let bytes ← machine.memory.buffer? cursor.buffer
  let command ← (Command.decode machine.config.layout bytes cursor).toOption
  let handler ← machine.handler? canonical command.code
  return (handler, command)

theorem dispatched?_eq_some {canonical : Bool} {cursor : Pointer} {machine : Machine E}
    {handler : Handler E.Patch} {command : Command} :
    machine.dispatched? canonical cursor = some (handler, command) ↔
      ∃ bytes, machine.memory.buffer? cursor.buffer = some bytes ∧
        Command.decode machine.config.layout bytes cursor = .ok command ∧
        machine.handler? canonical command.code = some handler := by
  simp only [dispatched?, Option.bind_eq_bind, Option.bind_eq_some_iff, Option.pure_def,
    Option.some.injEq, Prod.mk.injEq, toOption_eq_some]
  constructor
  · rintro ⟨bytes, live, _, decoded, _, handled, rfl, rfl⟩
    exact ⟨bytes, live, decoded, handled⟩
  · rintro ⟨bytes, live, decoded, handled⟩
    exact ⟨bytes, live, command, decoded, handler, handled, rfl, rfl⟩

/-- What a step finds at the cursor: the handler that it calls, with its command, or none when the code
there is none; or what is wrong there. -/
def lookup (canonical : Bool) (cursor : Pointer) (machine : Machine E) :
    Except Fault (Option (Handler E.Patch × Command)) :=
  match machine.memory.buffer? cursor.buffer with
  | none => .error (.danglingPointer cursor)
  | some bytes =>
    match Command.codeAt bytes cursor with
    | .error fault => .error (.read fault)
    | .ok code =>
      match machine.handler? canonical code with
      | none => .ok none
      | some handler =>
        match Command.decode machine.config.layout bytes cursor with
        | .error fault => .error (.read fault)
        | .ok command => .ok (some (handler, command))

theorem dispatched?_eq_some_iff {canonical : Bool} {cursor : Pointer} {machine : Machine E}
    {called : Handler E.Patch × Command} :
    machine.dispatched? canonical cursor = some called ↔
      machine.lookup canonical cursor = .ok (some called) := by
  obtain ⟨handler, command⟩ := called
  rw [dispatched?_eq_some]
  constructor
  · rintro ⟨bytes, live, decoded, handled⟩
    simp only [lookup, live, Command.codeAt_of_decode decoded, handled, decoded]
  · intro found
    unfold lookup at found
    split at found
    next => cases found
    next bytes live =>
      split at found
      next => cases found
      next code coded =>
        split at found
        next => cases found
        next known handled =>
          split at found
          next => cases found
          next decoded =>
            cases found
            rw [← Command.code_of_decode decoded coded] at handled
            exact ⟨bytes, live, decoded, handled⟩

theorem canonical_of_dispatched {canonical : Bool} {cursor : Pointer} {machine : Machine E}
    {handler : Handler E.Patch} {command : Command}
    (plain : canonical = true ∨ machine.dispatch = .canonical)
    (dispatched : machine.dispatched? canonical cursor = some (handler, command)) :
    ∃ opcode, command.opcode? = some opcode ∧ handler = .canonical opcode := by
  obtain ⟨_, _, _, handled⟩ := dispatched?_eq_some.mp dispatched
  rw [handler?_of_plain plain] at handled
  obtain ⟨opcode, known, rfl⟩ := Option.map_eq_some_iff.mp handled
  exact ⟨opcode, known, rfl⟩

/-- Two machines decode the same commands and look up the same handlers for them. -/
structure LooksAlike (canonical : Bool) (machine other : Machine E) : Prop where
  memory : other.memory = machine.memory
  layout : other.config.layout = machine.config.layout
  handler : ∀ code, other.handler? canonical code = machine.handler? canonical code

theorem LooksAlike.refl (canonical : Bool) (machine : Machine E) : machine.LooksAlike canonical machine :=
  ⟨rfl, rfl, fun _ => rfl⟩

theorem LooksAlike.dispatched? {canonical : Bool} {machine other : Machine E}
    (alike : machine.LooksAlike canonical other) (cursor : Pointer) :
    other.dispatched? canonical cursor = machine.dispatched? canonical cursor := by
  simp only [Machine.dispatched?, alike.memory, alike.layout, alike.handler]

theorem LooksAlike.lookup {canonical : Bool} {machine other : Machine E}
    (alike : machine.LooksAlike canonical other) (cursor : Pointer) :
    other.lookup canonical cursor = machine.lookup canonical cursor := by
  simp only [Machine.lookup, alike.memory, alike.layout, alike.handler]

variable [Patches E]

theorem step_eq_lookup (canonical : Bool) (cursor : Pointer) (machine : Machine E) :
    machine.step canonical cursor = match machine.lookup canonical cursor with
      | .error fault => (.error fault, machine)
      | .ok none => (.ok cursor, machine.setStatus .paused)
      | .ok (some (handler, command)) =>
        settle command.next cursor (machine.dispatchCommand handler command) := by
  unfold step lookup
  cases machine.memory.buffer? cursor.buffer with
  | none => rfl
  | some bytes =>
    simp only
    cases Command.codeAt bytes cursor with
    | error fault => rfl
    | ok code =>
      simp only
      cases machine.handler? canonical code with
      | none => rfl
      | some handler =>
        simp only
        cases Command.decode machine.config.layout bytes cursor with
        | error fault => rfl
        | ok command =>
          simp only [settle]
          cases (machine.dispatchCommand handler command).flow with
          | error fault => rfl
          | ok flow => cases flow <;> rfl

theorem step_of_undispatched {canonical : Bool} {cursor : Pointer} {machine : Machine E}
    (idle : machine.dispatched? canonical cursor = none) :
    (∀ other, machine.LooksAlike canonical other →
      other.step canonical cursor = (.ok cursor, other.setStatus .paused)) ∨
    ∃ fault, ∀ other, machine.LooksAlike canonical other →
      other.step canonical cursor = (.error fault, other) := by
  cases found : machine.lookup canonical cursor with
  | error fault =>
    refine .inr ⟨fault, fun other alike => ?_⟩
    rw [step_eq_lookup, alike.lookup, found]
  | ok called =>
    cases called with
    | none =>
      refine .inl fun other alike => ?_
      rw [step_eq_lookup, alike.lookup, found]
    | some called => cases idle.symm.trans (dispatched?_eq_some_iff.mpr found)

theorem step_of_dispatched {canonical : Bool} {cursor : Pointer} {machine : Machine E}
    {handler : Handler E.Patch} {command : Command}
    (dispatched : machine.dispatched? canonical cursor = some (handler, command)) :
    machine.step canonical cursor =
      settle command.next cursor (machine.dispatchCommand handler command) := by
  rw [step_eq_lookup, dispatched?_eq_some_iff.mp dispatched]

theorem dispatchCommand_keeps {property : Machine E → Prop} {machine : Machine E} {opcode : Opcode}
    {command : Command} (holds : property machine)
    (ran : ∀ instruction : Instruction, property (machine.exec instruction command.next).machine) :
    property (machine.dispatchCommand (.canonical opcode) command).machine := by
  simp only [dispatchCommand]
  cases Instruction.read opcode command with
  | error => exact holds
  | ok instruction => exact ran instruction

/-- What the handler that it calls keeps and following the overrides keeps, a step keeps. -/
theorem step_keeps {property : Machine E → Prop} {machine : Machine E} {canonical : Bool}
    {cursor : Pointer} (holds : property machine) (paused : property (machine.setStatus .paused))
    (handled : ∀ handler command, machine.dispatched? canonical cursor = some (handler, command) →
      property (machine.dispatchCommand handler command).machine)
    (followed : ∀ pointer after, property after → property (after.followOverrides pointer).2) :
    property (machine.step canonical cursor).2 := by
  cases called : machine.dispatched? canonical cursor with
  | none =>
    rcases step_of_undispatched called with idle | ⟨fault, faulted⟩
    · rw [idle machine (.refl canonical machine)]
      exact paused
    · rw [faulted machine (.refl canonical machine)]
      exact holds
  | some found =>
    obtain ⟨handler, command⟩ := found
    rw [step_of_dispatched called]
    exact settle_keeps (handled handler command called) followed command.next cursor

theorem step_of_handler {machine : Machine E} {cursor : Pointer} {bytes : Bytes} {command : Command}
    {opcode : Opcode} {instruction : Instruction} {canonical : Bool}
    (live : machine.memory.buffer? cursor.buffer = some bytes)
    (decoded : Command.decode machine.config.layout bytes cursor = .ok command)
    (handler : machine.handler? canonical command.code = some (.canonical opcode))
    (read : Instruction.read opcode command = .ok instruction) :
    machine.step canonical cursor =
      settle command.next cursor (machine.exec instruction command.next) := by
  rw [step_of_dispatched (dispatched?_eq_some.mpr ⟨bytes, live, decoded, handler⟩)]
  simp only [dispatchCommand, read]

theorem step_of_dispatches {machine : Machine E} {cursor : Pointer} {command : Command}
    {instruction : Instruction} (table : machine.dispatch = .canonical)
    (dispatched : machine.Dispatches cursor command instruction) (canonical : Bool) :
    machine.step canonical cursor =
      settle command.next cursor (machine.exec instruction command.next) := by
  obtain ⟨bytes, live, decoded⟩ := dispatched.decoded
  obtain ⟨opcode, known, read⟩ := dispatched.meant
  have handler : machine.handler? canonical command.code = some (.canonical opcode) := by
    rw [handler?_of_canonical table, show Opcode.ofCode? command.code = some opcode from known]
    rfl
  exact step_of_handler live decoded handler read

theorem step_cases {machine : Machine E} (table : machine.dispatch = .canonical)
    (canonical : Bool) (cursor : Pointer) :
    (∃ command instruction, machine.Dispatches cursor command instruction ∧
      machine.step canonical cursor =
        settle command.next cursor (machine.exec instruction command.next)) ∨
    machine.step canonical cursor = (.ok cursor, machine.setStatus .paused) ∨
    ∃ fault, machine.step canonical cursor = (.error fault, machine) := by
  cases called : machine.dispatched? canonical cursor with
  | none =>
    rcases step_of_undispatched called with paused | ⟨fault, faulted⟩
    · exact .inr (.inl (paused machine (.refl canonical machine)))
    · exact .inr (.inr ⟨fault, faulted machine (.refl canonical machine)⟩)
  | some found =>
    obtain ⟨handler, command⟩ := found
    obtain ⟨opcode, known, rfl⟩ := canonical_of_dispatched (.inr table) called
    obtain ⟨bytes, live, decoded, _⟩ := dispatched?_eq_some.mp called
    cases read : Instruction.read opcode command with
    | error fault =>
      refine .inr (.inr ⟨.read fault, ?_⟩)
      rw [step_of_dispatched called]
      simp only [dispatchCommand, read]
      rfl
    | ok instruction =>
      have dispatched : machine.Dispatches cursor command instruction :=
        ⟨⟨bytes, live, decoded⟩, opcode, known, read⟩
      exact .inl ⟨command, instruction, dispatched, step_of_dispatches table dispatched canonical⟩

end Machine

end StageScript
