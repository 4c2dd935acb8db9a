import Mathlib.Data.List.Basic
import StageScript.Proofs.Commuting
import StageScript.Proofs.Disguise

/-!
The byte order of extensions is the business of extensions alone. Two machines that differ in it go
through the same runs as long as these call no handler for an extension: whatever they read, skip,
report and fault at, and however often they are executed.
-/

namespace StageScript

def Disguise.reordered (order : ByteOrder) : Disguise := ⟨id, id, fun _ => order⟩

namespace Machine

variable {E : Embedding} {machine : Machine E} {order : ByteOrder} {canonical : Bool}
  {cursor : Pointer}

def withOrder (order : ByteOrder) (machine : Machine E) : Machine E :=
  { machine with
    config := { machine.config with layout := machine.config.layout.withOrder order } }

theorem exec_withOrder (instruction : Instruction) (following : Pointer) :
    (machine.withOrder order).exec instruction following =
      (machine.exec instruction following).map (withOrder order) :=
  exec_disguised (.of_memory (.reordered order) rfl) trivial
    (fun _ _ _ _ _ _ => rfl) instruction following fun _ => rfl

theorem lookup_withOrder (order : ByteOrder) (canonical : Bool) (cursor : Pointer)
    (machine : Machine E) :
    (machine.withOrder order).lookup canonical cursor =
      (machine.lookup canonical cursor).map (Option.map (Prod.map id (Command.withOrder order))) := by
  have memory : (machine.withOrder order).memory = machine.memory := rfl
  have handlers (code : UInt8) : (machine.withOrder order).handler? canonical code =
      machine.handler? canonical code := rfl
  have layout : (machine.withOrder order).config.layout =
      machine.config.layout.withOrder order := rfl
  simp only [lookup, memory, handlers, layout, Command.decode_withOrder]
  cases machine.memory.buffer? cursor.buffer with
  | none => rfl
  | some bytes =>
    simp only
    cases Command.codeAt bytes cursor with
    | error fault => rfl
    | ok code =>
      simp only
      cases machine.handler? canonical code with
      | none => rfl
      | some handler =>
        simp only
        cases Command.decode machine.config.layout bytes cursor <;> rfl

theorem unled_withOrder (order : ByteOrder) : Unled (withOrder (E := E) order) :=
  ⟨fun _ => rfl, fun _ => rfl, fun _ _ => rfl, fun _ _ => rfl⟩

theorem selectTable_withOrder (machine : Machine E) :
    (machine.withOrder order).selectTable = Prod.map id (withOrder order) machine.selectTable := by
  have dispatch : (machine.withOrder order).dispatch = machine.dispatch := rfl
  simp only [selectTable, dispatch]
  cases machine.dispatch.tampered <;> rfl

theorem steady_withOrder (order : ByteOrder) : Steady (withOrder (E := E) order) :=
  ⟨fun _ => rfl, fun _ => rfl⟩

variable [Patches E]

/-- A patch does the same under every order for a command that is no extension; canonical handlers do
anyway. -/
def IgnoresOrder (E : Embedding) [Patches E] : Handler E.Patch → Prop
  | .canonical _ => True
  | .patch patch => ∀ command (machine : Machine E) order, ¬ Opcode.codeIsExtension command.code →
    Patches.run patch (command.withOrder order) (machine.withOrder order) =
      (Patches.run patch command machine).map (withOrder order)

theorem dispatchCommand_withOrder {handler : Handler E.Patch} {command : Command}
    (ignores : IgnoresOrder E handler) (plain : ¬ Opcode.codeIsExtension command.code) :
    (machine.withOrder order).dispatchCommand handler (command.withOrder order) =
      (machine.dispatchCommand handler command).map (withOrder order) := by
  cases handler with
  | patch patch => exact ignores command machine order plain
  | canonical opcode =>
    simp only [dispatchCommand, Command.read_withOrder plain]
    cases Instruction.read opcode command with
    | error fault => rfl
    | ok instruction => exact exec_withOrder instruction command.next

theorem step_withOrder (ordinary : ∀ handler command,
      machine.dispatched? canonical cursor = some (handler, command) →
        ¬ Opcode.codeIsExtension command.code ∧ IgnoresOrder E handler) :
    (machine.withOrder order).step canonical cursor =
      Prod.map id (withOrder order) (machine.step canonical cursor) := by
  refine step_map (Command.withOrder order) (lookup_withOrder order canonical cursor machine)
    (fun _ => rfl) rfl ?_
  intro handler command found
  obtain ⟨plain, ignores⟩ := ordinary handler command found
  exact ⟨dispatchCommand_withOrder ignores plain,
    settle_map fun _ _ => followOverrides_map (unled_withOrder _) _ _⟩

end Machine

namespace Run

variable {E : Embedding} [Patches E] {order : ByteOrder}

/-- The next step calls no handler for an extension, and no patch that looks at their order. -/
def Ordinary (run : Run E) : Prop :=
  ∀ handler command, run.dispatched? = some (handler, command) →
    ¬ Opcode.codeIsExtension command.code ∧ Machine.IgnoresOrder E handler

omit [Patches E] in
theorem start_withOrder (order : ByteOrder) (pointer : Pointer) (machine : Machine E) :
    start pointer (machine.withOrder order) = (start pointer machine).map (Machine.withOrder order) := by
  have begun : (machine.withOrder order).begin = machine.begin.withOrder order := rfl
  simp only [start, begun, Machine.selectTable_withOrder, Prod.map,
    Machine.followOverrides_map (Machine.unled_withOrder order)]
  rfl

/-- The runs that an execution comes to in fewer steps than there is fuel, each with its number of
steps. -/
def passes (fuel : Nat) (first : Run E) : List (Nat × Run E) :=
  (List.range fuel).filterMap fun taken => (first.reached? taken).map (taken, ·)

variable {first run : Run E} {fuel taken : Nat}

theorem mem_passes : (taken, run) ∈ first.passes fuel ↔
    taken < fuel ∧ first.reached? taken = some run := by
  simp only [passes, List.mem_filterMap, List.mem_range, Option.map_eq_some_iff, Prod.mk.injEq]
  constructor
  · rintro ⟨_, few, _, reached, rfl, rfl⟩
    exact ⟨few, reached⟩
  · rintro ⟨few, reached⟩
    exact ⟨taken, few, run, reached, rfl, rfl⟩

theorem passes_map {change : Machine E → Machine E} (steady : Machine.Steady change)
    (commutes : first.CommutesFor change fuel) :
    (first.map change).passes fuel = (first.passes fuel).map (Prod.map id (map change)) := by
  rw [passes, passes, List.map_filterMap]
  refine List.filterMap_congr fun taken listed => ?_
  have few := List.mem_range.mp listed
  rw [reached?_map steady fun earlier sooner => commutes earlier (Nat.lt_trans sooner few)]
  cases first.reached? taken <;> rfl

theorem commutesFor_withOrder
    (ordinary : ∀ entry ∈ first.passes fuel, entry.2.Allows entry.1 → entry.2.Ordinary) :
    first.CommutesFor (Machine.withOrder order) fuel := by
  intro taken few run reached allowed running
  have plain := ordinary (taken, run) (mem_passes.mpr ⟨few, reached⟩) allowed
  refine Machine.step_withOrder fun handler command called => plain handler command ?_
  exact (if_pos running).trans called

end Run

/-- An execution that a host asks for, and what it does to the machine before. -/
structure Job (E : Embedding) where
  prepare : Machine E → Machine E
  pointer : Pointer
  fuel : Nat

namespace Machine

variable {E : Embedding} [Patches E] {machine : Machine E} {order : ByteOrder}

/-- Every run that executions one after the other come through, each with its number of steps. -/
def journal : List (Job E) → Machine E → List (Nat × Run E)
  | [], _ => []
  | job :: rest, machine =>
    let ready := job.prepare machine
    (Run.start job.pointer ready).passes job.fuel ++
      match ready.execute? job.fuel job.pointer with
      | some (_, after) => journal rest after
      | none => []

/-- What executions one after the other answer, and the machine that they leave; absent when the fuel of
one of them does not last. -/
def answers : List (Job E) → Machine E → Option (List (Except Fault Pointer) × Machine E)
  | [], machine => some ([], machine)
  | job :: rest, machine => do
    let (result, after) ← (job.prepare machine).execute? job.fuel job.pointer
    let (results, last) ← answers rest after
    return (result :: results, last)

/-- Machines that differ in nothing but the order for the operands of extensions go through the same runs,
answer the same and are left the same in all their executions, if none of these calls a handler for
an extension. Whatever the host does between executions must not depend on that order, and neither
must the patches that are called. -/
theorem order_isForExtensions (order : ByteOrder) (jobs : List (Job E)) (machine : Machine E)
    (prepares : ∀ job ∈ jobs, ∀ machine, job.prepare (machine.withOrder order) =
      (job.prepare machine).withOrder order)
    (ordinary : ∀ entry ∈ machine.journal jobs, entry.2.Allows entry.1 → entry.2.Ordinary) :
    (machine.withOrder order).journal jobs =
        (machine.journal jobs).map (Prod.map id (Run.map (withOrder order))) ∧
      (machine.withOrder order).answers jobs =
        (machine.answers jobs).map (Prod.map id (withOrder order)) := by
  induction jobs generalizing machine with
  | nil => exact ⟨rfl, rfl⟩
  | cons job rest ih =>
    rw [List.forall_mem_cons] at prepares
    obtain ⟨prepares, others⟩ := prepares
    simp only [journal, List.forall_mem_append] at ordinary
    simp only [journal, answers, prepares machine]
    generalize job.prepare machine = ready at ordinary ⊢
    have steady := steady_withOrder (E := E) order
    have starts := Run.start_withOrder order job.pointer ready
    have commutes : (Run.start job.pointer ready).CommutesFor (withOrder order) job.fuel :=
      Run.commutesFor_withOrder ordinary.1
    have passed := Run.passes_map steady commutes
    have executed := Run.execute?_map steady starts commutes fun _ => rfl
    rw [starts, passed, executed, List.map_append]
    cases ran : ready.execute? job.fuel job.pointer with
    | none => exact ⟨rfl, rfl⟩
    | some ended =>
      obtain ⟨result, after⟩ := ended
      rw [ran] at ordinary
      obtain ⟨journals, answered⟩ := ih after others ordinary.2
      simp only [Option.map_some, Prod.map, id, journals, Option.bind_eq_bind, Option.bind_some,
        answered, true_and]
      cases after.answers rest <;> rfl

theorem ignoresOrder_scripted (handler : Handler Scripted.embedding.Patch) :
    IgnoresOrder Scripted.embedding handler := by
  cases handler with
  | canonical opcode => trivial
  | patch patch => cases (patch : Scripted.Instrument) <;> exact fun _ _ _ _ => rfl

/-- Skips an extension, sleeps, calls a host function that nobody has registered, and exits. -/
def passing : Machine Scripted.embedding :=
  { (Run.ofScript #[] #[
      0x0F, 4, 0, 0,
      0x3D, 8, 0, 0, 5, 0, 0, 0,
      0x13, 4, 7, 0,
      0x03, 4, 1, 0,
      0x11, 8, 0, 0, 6, 0, 0, 0,
      0x02, 4, 0, 0]).machine with
    reporter := { Reporter.ofLimit 4 with listener := .recording } }

/-- The script is begun, and resumed where it sleeps with another value in the register. -/
def naps : List (Job Scripted.embedding) :=
  [⟨id, ⟨0, 0⟩, 4⟩, ⟨(·.setRegister 9), ⟨0, 16⟩, 4⟩]

/-- The extension that the script skips is told by its code, and its operands are not looked at. -/
theorem order_isForExtensions_passing :
    (∀ job ∈ naps, ∀ machine, job.prepare (machine.withOrder .big) =
      (job.prepare machine).withOrder .big) ∧
    (∀ entry ∈ passing.journal naps, entry.2.Allows entry.1 → entry.2.Ordinary) ∧
    ∃ last, (passing.withOrder .big).answers naps = some ([.ok ⟨0, 16⟩, .ok ⟨0, 28⟩], last) ∧
      last.context.register = 9 ∧ last.context.status = .exited ∧
      last.reporter.delivered = #[.unknownHostFunction 6] := by
  have prepares : ∀ job ∈ naps, ∀ machine, job.prepare (machine.withOrder .big) =
      (job.prepare machine).withOrder .big := by
    rw [naps, List.forall_mem_cons, List.forall_mem_singleton]
    exact ⟨fun _ => rfl, fun _ => rfl⟩
  have codes : (passing.journal naps).all fun entry => entry.2.dispatched?.all fun called =>
      !Opcode.codeIsExtension called.2.code := by decide +kernel
  have ordinary : ∀ entry ∈ passing.journal naps, entry.2.Allows entry.1 → entry.2.Ordinary := by
    intro entry listed _ handler command called
    have plain := List.all_eq_true.mp codes entry listed
    rw [called] at plain
    exact ⟨by simpa using plain, ignoresOrder_scripted handler⟩
  have same := (order_isForExtensions .big naps passing prepares ordinary).2
  let left := (passing.answers naps).get (by decide +kernel)
  have answered : passing.answers naps = some ([.ok ⟨0, 16⟩, .ok ⟨0, 28⟩], left.2) := by
    have results : left.1 = [.ok ⟨0, 16⟩, .ok ⟨0, 28⟩] := by decide +kernel
    rw [← results]
    exact (Option.some_get _).symm
  rw [answered] at same
  refine ⟨prepares, ordinary, left.2.withOrder .big, same, ?_, ?_, ?_⟩
  · decide +kernel
  · decide +kernel
  · decide +kernel

end Machine

end StageScript
