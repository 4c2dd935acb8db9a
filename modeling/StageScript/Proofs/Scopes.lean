import StageScript.Machine.Loading
import StageScript.Proofs.Memory

/-!
What the commands that load content, and those that open, replace and close scopes, come to, case
by case.
-/

namespace StageScript

namespace Memory

def loadRange (memory : Memory) (load : SegmentLoad) (compression : Compression) :
    Except MemoryError (BufferId × Memory) :=
  memory.loadSegment load.segment.toInt load.start.toNat load.stop.toNat compression

end Memory

namespace Machine

variable {E : Embedding}

theorem load_eq (load : SegmentLoad) (compression : Compression) (machine : Machine E) :
    machine.load load compression =
      (machine.memory.loadRange load compression).map (fun loaded =>
        { machine with memory := loaded.2 }) := by
  unfold Machine.load Memory.loadRange
  cases machine.memory.loadSegment load.segment.toInt load.start.toNat load.stop.toNat
    compression <;> rfl

theorem popCheckpoint_cases (opcode : Opcode) (machine : Machine E) :
    (∃ after, machine.memory.popState = .ok after ∧
      machine.popCheckpoint opcode = { machine with memory := after }) ∨
    machine.memory.checkpoints = [] ∧
      machine.popCheckpoint opcode = machine.report (.poolUnderflow opcode) := by
  unfold popCheckpoint
  cases popped : machine.memory.popState with
  | ok after => exact .inl ⟨after, rfl, rfl⟩
  | error error => exact .inr ⟨(Memory.popState_eq_error.mp popped).1, rfl⟩

theorem popCheckpoint_pushCheckpoint (opcode : Opcode) (machine : Machine E) :
    machine.pushCheckpoint.popCheckpoint opcode = machine := by
  unfold popCheckpoint pushCheckpoint
  simp only [Memory.popState_pushState]

def replaceCheckpoint (opcode : Opcode) (machine : Machine E) : Machine E :=
  (machine.popCheckpoint opcode).pushCheckpoint

theorem memory_replaceCheckpoint (opcode : Opcode) (machine : Machine E) :
    (machine.replaceCheckpoint opcode).memory = machine.memory.replaceState := by
  unfold replaceCheckpoint pushCheckpoint popCheckpoint Memory.replaceState
  cases machine.memory.popState <;> rfl

/-- An execution scope is refused by the stack, by the load or by its entry, or it is entered. -/
theorem execute_cases (load : SegmentLoad) (entry : Address) (following : Pointer)
    (machine : Machine E) :
    (∃ fault, machine.stack.pushScope following = .error fault ∧
      machine.execute load entry following = machine.fault (.stack fault)) ∨
    (∃ error, machine.memory.pushState.loadRange load .raw = .error error ∧
      machine.execute load entry following =
        (machine.report (loadFailure .execute error)).next) ∨
    (∃ buffer loaded after, machine.memory.pushState.loadRange load .raw = .ok (buffer, loaded) ∧
      loaded.resolve? entry = none ∧ loaded.popState = .ok after ∧
      machine.execute load entry following =
        { machine with memory := after }.fault (.unresolvedAddress entry)) ∨
    ∃ stack buffer loaded target, machine.stack.pushScope following = .ok stack ∧
      machine.memory.pushState.loadRange load .raw = .ok (buffer, loaded) ∧
      loaded.resolve? entry = some target ∧
      machine.execute load entry following = { machine with memory := loaded, stack }.goto target := by
  cases room : machine.stack.pushScope following with
  | error fault => exact .inl ⟨fault, rfl, by simp only [execute, room]⟩
  | ok stack =>
    right
    cases loads : machine.memory.pushState.loadRange load .raw with
    | error error =>
      have failed : machine.pushCheckpoint.load load .raw = .error error := by
        rw [load_eq]
        exact congrArg (Except.map _) loads
      exact .inl ⟨error, rfl, by simp only [execute, room, failed, popCheckpoint_pushCheckpoint]⟩
    | ok pair =>
      obtain ⟨buffer, loaded⟩ := pair
      have succeeded : machine.pushCheckpoint.load load .raw = .ok { machine with memory := loaded } := by
        rw [load_eq]
        exact congrArg (Except.map _) loads
      right
      cases resolved : loaded.resolve? entry with
      | some target =>
        exact .inr ⟨stack, buffer, loaded, target, rfl, rfl, resolved, by
          simp only [execute, room, succeeded, resolved]⟩
      | none =>
        rcases popCheckpoint_cases .execute { machine with memory := loaded } with
          ⟨after, popped, left⟩ | ⟨closed, _⟩
        · exact .inl ⟨buffer, loaded, after, rfl, resolved, popped, by
            simp only [execute, room, succeeded, resolved, left]⟩
        · obtain ⟨_, _, _, _, _, _, _, rfl⟩ := Memory.loadSegment_eq_ok loads
          simp [Memory.pushState] at closed

/-- A scope is replaced in memory before anything is loaded, and so even where nothing is. -/
theorem exitAndExecute_cases (load : SegmentLoad) (entry : Address) (machine : Machine E) :
    (∃ error, machine.memory.replaceState.loadRange load .raw = .error error ∧
      machine.exitAndExecute load entry =
        ((machine.replaceCheckpoint .exitAndExecute).report
          (loadFailure .exitAndExecute error)).next) ∨
    (∃ buffer loaded, machine.memory.replaceState.loadRange load .raw = .ok (buffer, loaded) ∧
      loaded.resolve? entry = none ∧
      machine.exitAndExecute load entry =
        { machine.replaceCheckpoint .exitAndExecute with memory := loaded }.fault
          (.unresolvedAddress entry)) ∨
    ∃ buffer loaded target, machine.memory.replaceState.loadRange load .raw = .ok (buffer, loaded) ∧
      loaded.resolve? entry = some target ∧
      machine.exitAndExecute load entry =
        { machine.replaceCheckpoint .exitAndExecute with
          memory := loaded
          stack := (machine.replaceCheckpoint .exitAndExecute).stack.unwindScope.2 }.goto target := by
  have same := machine.memory_replaceCheckpoint .exitAndExecute
  have loads := load_eq load .raw (machine.replaceCheckpoint .exitAndExecute)
  rw [same] at loads
  unfold exitAndExecute
  rw [← replaceCheckpoint]
  cases range : machine.memory.replaceState.loadRange load .raw with
  | error error =>
    rw [range] at loads
    exact .inl ⟨error, rfl, by simp only [loads, Except.map]⟩
  | ok pair =>
    obtain ⟨buffer, loaded⟩ := pair
    rw [range] at loads
    right
    cases resolved : loaded.resolve? entry with
    | none =>
      exact .inl ⟨buffer, loaded, rfl, resolved, by simp only [loads, Except.map, resolved]⟩
    | some target =>
      exact .inr ⟨buffer, loaded, target, rfl, resolved, by
        simp only [loads, Except.map, resolved]⟩

theorem exit_cases (machine : Machine E) :
    machine.stack.frames = [] ∧ machine.exit = (machine.setStatus .exited).hold ∨
    (∃ fault, machine.stack.popReturn = .error fault ∧
      machine.exit = machine.fault (.stack fault)) ∨
    ∃ resume stack, machine.stack.popReturn = .ok (resume, stack) ∧
      machine.exit = ({ machine with stack }.popCheckpoint .exit).goto resume := by
  unfold exit
  cases machine.stack.frames with
  | nil => exact .inl ⟨rfl, rfl⟩
  | cons =>
    right
    cases machine.stack.popReturn with
    | error fault => exact .inl ⟨fault, rfl, rfl⟩
    | ok popped => exact .inr ⟨popped.1, popped.2, rfl, rfl⟩

theorem loadFixed_cases (dest : Address) (start stop : UInt32) (machine : Machine E) :
    (∃ error, machine.loadFixed dest start stop =
      (machine.report (loadFailure .loadFixed error)).next) ∨
    ∃ buffer after, machine.memory.loadFixed dest start.toNat stop.toNat = .ok (buffer, after) ∧
      machine.loadFixed dest start stop = { machine with memory := after }.next := by
  unfold Machine.loadFixed
  cases machine.memory.loadFixed dest start.toNat stop.toNat with
  | error error => exact .inl ⟨error, rfl⟩
  | ok loaded => exact .inr ⟨loaded.1, loaded.2, rfl, rfl⟩

theorem loadContent_cases (opcode : Opcode) (load : SegmentLoad) (compression : Compression)
    (machine : Machine E) :
    (∃ error, machine.loadContent opcode load compression =
      (machine.report (loadFailure opcode error)).next) ∨
    ∃ buffer after, machine.memory.loadRange load compression = .ok (buffer, after) ∧
      machine.loadContent opcode load compression = { machine with memory := after }.next := by
  unfold loadContent
  rw [load_eq]
  cases machine.memory.loadRange load compression with
  | error error => exact .inl ⟨error, rfl⟩
  | ok loaded => exact .inr ⟨loaded.1, loaded.2, rfl, rfl⟩

end Machine

end StageScript
