import StageScript.Proofs.Emission

/-!
Failover. When a host has patched a canary, an execution goes through the canonical table from its
first step to its last: it calls no patch, and does what it does under a table that nobody has
patched. When no canary is patched, every step calls what the live table has.
-/

namespace StageScript

namespace DispatchTable

variable {P : Type} {table : DispatchTable P} {opcode : Opcode}

def Keeps (table : DispatchTable P) (opcode : Opcode) : Prop :=
  ∃ own, table.handler? opcode.code = some (.canonical own) ∧
    Handler.meaning own = Handler.meaning opcode

theorem mem_tampered : opcode ∈ table.tampered ↔ opcode ∈ canaries ∧ ¬ table.Keeps opcode := by
  simp only [tampered, List.mem_filter, and_congr_right_iff, Keeps]
  intro _
  cases table.handler? opcode.code with
  | none => simp
  | some handler => cases handler <;> simp [Handler.isCanonicalFor]

theorem nodup_tampered (table : DispatchTable P) : table.tampered.Nodup :=
  .filter _ (by decide)

end DispatchTable

namespace Machine

variable {E : Embedding}

def withTable (table : DispatchTable E.Patch) (machine : Machine E) : Machine E :=
  { machine with dispatch := table }

end Machine

def Outcome.withTable {E : Embedding} (table : DispatchTable E.Patch) (outcome : Outcome E) :
    Outcome E :=
  ⟨outcome.machine.withTable table, outcome.flow⟩

namespace Machine

variable {E : Embedding} {machine : Machine E} (table : DispatchTable E.Patch)

def Ending.withTable (ending : Ending E) : Ending E :=
  ⟨ending.result, ending.cursor, ending.machine.withTable table⟩

theorem exec_withTable (instruction : Instruction) (following : Pointer) :
    (machine.withTable table).exec instruction following =
      (machine.exec instruction following).withTable table := by
  obtain ⟨said, same⟩ := tells_exec instruction following machine
  have itself : machine.exec instruction following =
      (machine.exec instruction following).beside (machine.ledger.told said) machine.dispatch :=
    same machine.ledger machine.dispatch
  have other : (machine.withTable table).exec instruction following =
      (machine.exec instruction following).beside (machine.ledger.told said) table :=
    same machine.ledger table
  rw [other, itself]
  rfl

theorem unled_withTable : Unled (withTable (E := E) table) :=
  ⟨fun _ => rfl, fun _ => rfl, fun _ _ => rfl, fun _ _ => rfl⟩

theorem selectTable_of_kept (machine : Machine E)
    (kept : ∀ canary ∈ DispatchTable.canaries, machine.dispatch.Keeps canary) :
    machine.selectTable = (false, machine) := by
  have whole : machine.dispatch.tampered = [] := by
    refine List.eq_nil_iff_forall_not_mem.mpr fun opcode listed => ?_
    obtain ⟨canary, lost⟩ := DispatchTable.mem_tampered.mp listed
    exact lost (kept opcode canary)
  simp only [selectTable, whole]

theorem selectTable_of_tampered (machine : Machine E) {canary : Opcode}
    (listed : canary ∈ machine.dispatch.tampered) :
    machine.selectTable =
      (true, machine.report (.dispatchTableRestored machine.dispatch.tampered)) := by
  unfold selectTable
  split
  next whole =>
    rw [whole] at listed
    cases listed
  next => rfl

variable [Patches E]

theorem dispatchCommand_withTable (opcode : Opcode) (command : Command) :
    (machine.withTable table).dispatchCommand (.canonical opcode) command =
      (machine.dispatchCommand (.canonical opcode) command).withTable table := by
  simp only [dispatchCommand]
  cases Instruction.read opcode command with
  | error => rfl
  | ok instruction => exact exec_withTable table instruction command.next

theorem step_withTable (cursor : Pointer) :
    (machine.withTable table).step true cursor =
      Prod.map id (withTable table) (machine.step true cursor) := by
  have alike : machine.LooksAlike true (machine.withTable table) := ⟨rfl, rfl, fun _ => rfl⟩
  refine step_map id ?_ (fun _ => rfl) rfl fun handler command found => ?_
  · rw [alike.lookup, Prod.map_id, Option.map_id, Except.map_id]
    rfl
  · obtain ⟨opcode, _, rfl⟩ := canonical_of_dispatched (.inl rfl) found
    exact ⟨dispatchCommand_withTable table opcode command,
      settle_map fun _ _ => followOverrides_map (unled_withTable table) _ _⟩

theorem step_of_canonical (plain : machine.dispatch = .canonical) (canonical : Bool)
    (cursor : Pointer) : machine.step canonical cursor = machine.step true cursor := by
  simp only [step, handler?_of_canonical plain]

theorem steps_withTable (plain : machine.dispatch = .canonical) (canonical : Bool)
    (fuel taken : Nat) (cursor : Pointer) :
    steps true fuel taken cursor (machine.withTable table) =
      (steps canonical fuel taken cursor machine).map (Ending.withTable table) := by
  induction fuel generalizing taken cursor machine with
  | zero => rfl
  | succ fuel ih =>
    have status : (machine.withTable table).context = machine.context := rfl
    have config : (machine.withTable table).config = machine.config := rfl
    have kept := step_dispatch true machine (.inl rfl) cursor
    simp only [steps, status, config, step_withTable, step_of_canonical plain canonical]
    split
    next => rfl
    next =>
      split
      next => rfl
      next =>
        cases stepped : machine.step true cursor with
        | mk result after =>
          rw [stepped] at kept
          cases result with
          | error fault => rfl
          | ok target => exact ih (kept.trans plain) (taken + 1) target

theorem proceed?_withTable (plain : machine.dispatch = .canonical) (canonical : Bool) (fuel : Nat)
    (pointer : Pointer) :
    (machine.withTable table).proceed? true fuel pointer =
      (machine.proceed? canonical fuel pointer).map (Ending.withTable table) := by
  rw [proceed?, followOverrides_map (unled_withTable table)]
  exact steps_withTable table
    ((machine.followOverrides_sameExcept pointer).dispatch.trans plain) canonical fuel 0 _

end Machine

namespace Run

variable {E : Embedding} [Patches E] {run first : Run E} {taken : Nat}

/-- The next step of a run calls what a table has for the command under the cursor. Where it has
nothing, or there is no command, the machine stays as it is but for its status. -/
structure CallsFrom (table : DispatchTable E.Patch) (run : Run E) : Prop where
  calls : ∀ bytes command handler, run.machine.memory.buffer? run.cursor.buffer = some bytes →
    Command.decode run.machine.config.layout bytes run.cursor = .ok command →
    table.handler? command.code = some handler →
      run.machine.step run.canonical run.cursor =
        Machine.settle command.next run.cursor (run.machine.dispatchCommand handler command)
  idles : (∀ bytes command handler, run.machine.memory.buffer? run.cursor.buffer = some bytes →
    Command.decode run.machine.config.layout bytes run.cursor = .ok command →
    table.handler? command.code ≠ some handler) →
      (run.machine.step run.canonical run.cursor).2 = run.machine ∨
      (run.machine.step run.canonical run.cursor).2 = run.machine.setStatus .paused

theorem callsFrom_of_lookup {table : DispatchTable E.Patch}
    (looks : ∀ code, run.machine.handler? run.canonical code = table.handler? code) :
    run.CallsFrom table where
  calls bytes command handler live decoded found :=
    Machine.step_of_dispatched
      (Machine.dispatched?_eq_some.mpr ⟨bytes, live, decoded, (looks command.code).trans found⟩)
  idles nothing := by
    cases found : run.machine.dispatched? run.canonical run.cursor with
    | some called =>
      obtain ⟨bytes, live, decoded, handled⟩ := Machine.dispatched?_eq_some.mp found
      exact absurd ((looks _).symm.trans handled) (nothing bytes _ _ live decoded)
    | none =>
      rcases Machine.step_of_undispatched found with paused | ⟨fault, faulted⟩
      · exact .inr (congrArg Prod.snd (paused _ (.refl _ _)))
      · exact .inl (congrArg Prod.snd (faulted _ (.refl _ _)))

theorem callsFrom_canonical (plain : run.canonical = true) : run.CallsFrom .canonical :=
  callsFrom_of_lookup fun code => by
    rw [DispatchTable.handler?_canonical, plain]
    rfl

theorem callsFrom_live (live : run.canonical = false) : run.CallsFrom run.machine.dispatch :=
  callsFrom_of_lookup fun code => by
    rw [live]
    rfl

theorem Arrives.dispatch_of_plain (arrives : first.Arrives taken run)
    (plain : first.canonical = true) : run.machine.dispatch = first.machine.dispatch := by
  induction arrives with
  | start => rfl
  | @step taken run next arrives _ step ih =>
    have through := arrives.canonical.trans plain
    have kept := Machine.step_dispatch run.canonical run.machine (.inl through) run.cursor
    rw [(step_iff.mp step).2.1] at kept
    exact kept.trans ih

end Run

namespace Machine

variable {E : Embedding} [Patches E]

/-- Every execution from a pointer goes through the canonical table: it calls nothing else, leaves the
live table alone, reports the canaries that are patched and then emits what it emits under a table that
nobody has patched. But for the table and the reports it comes to the same end. -/
structure FailsOver (pointer : Pointer) (machine : Machine E) : Prop where
  once : machine.dispatch.tampered.Nodup
  lists : ∀ opcode, opcode ∈ machine.dispatch.tampered ↔
    opcode ∈ DispatchTable.canaries ∧ ¬ machine.dispatch.Keeps opcode
  calls : ∀ taken run, (Run.start pointer machine).Arrives taken run →
    run.CallsFrom .canonical ∧ run.machine.dispatch = machine.dispatch
  same : ∀ fuel, ∃ said, (machine.withTable .canonical).Emits fuel pointer said ∧
    machine.Emits fuel pointer (.dispatchTableRestored machine.dispatch.tampered :: said) ∧
    ∃ reporter, machine.execute? fuel pointer =
      ((machine.withTable .canonical).execute? fuel pointer).map
        (Prod.map id fun after => (after.withTable machine.dispatch).withReporter reporter)

variable {machine : Machine E} {pointer : Pointer}

theorem execute?_of_tampered {canary : Opcode} (listed : canary ∈ machine.dispatch.tampered)
    (pointer : Pointer) (fuel : Nat) :
    ∃ said, (machine.withTable .canonical).Emits fuel pointer said ∧
      ∀ reporter, (machine.withReporter reporter).execute? fuel pointer =
        ((machine.withTable .canonical).execute? fuel pointer).map (Prod.map id fun after =>
          (after.withTable machine.dispatch).withReporter (reporter.beginRun.told
            (.dispatchTableRestored machine.dispatch.tampered :: said)).finishRun) := by
  let plain := (machine.withTable .canonical).begin
  have table : plain.dispatch = .canonical := rfl
  have followed := (plain.followOverrides_sameExcept pointer).dispatch.trans table
  obtain ⟨said, proceeds⟩ := proceed?_withReporter
    (outspoken_of_plain false _ (.inr followed)) pointer rfl fuel
  have executes : (machine.withTable .canonical).execute? fuel pointer =
      (plain.proceed? false fuel pointer).map finish := by
    rw [execute?_eq_proceed?, selectTable_of_canonical table]
  refine ⟨said, fun reporter => ?_, fun reporter => ?_⟩
  · have selects : (plain.withReporter reporter.beginRun).selectTable =
        (false, plain.withReporter reporter.beginRun) := selectTable_of_canonical table
    have begun : ((machine.withTable .canonical).withReporter reporter).begin =
        plain.withReporter reporter.beginRun := rfl
    rw [execute?_eq_proceed?, begun, selects, proceeds, executes, Option.map_map, Option.map_map]
    rfl
  · let restored : Diagnostic := .dispatchTableRestored machine.dispatch.tampered
    let begun := reporter.beginRun.emit restored
    have selects : ((machine.withReporter reporter).begin).selectTable =
        (true, (plain.withReporter begun).withTable machine.dispatch) :=
      selectTable_of_tampered (machine.withReporter reporter).begin listed
    rw [execute?_eq_proceed?, selects, proceed?_withTable machine.dispatch rfl false, proceeds,
      executes, Option.map_map, Option.map_map, Option.map_map]
    rfl

/-- A patched canary moves every execution to the canonical table for good, whatever else is patched;
and while no canary is, each step of an execution calls what the live table then has. -/
theorem failover_isComplete (machine : Machine E) (pointer : Pointer) :
    ((∃ canary ∈ DispatchTable.canaries, ¬ machine.dispatch.Keeps canary) →
      machine.FailsOver pointer) ∧
    ((∀ canary ∈ DispatchTable.canaries, machine.dispatch.Keeps canary) →
      ∀ taken run, (Run.start pointer machine).Arrives taken run →
        run.CallsFrom run.machine.dispatch) := by
  constructor
  · rintro ⟨canary, canary_mem, lost⟩
    have listed := DispatchTable.mem_tampered.mpr ⟨canary_mem, lost⟩
    have canonical : (Run.start pointer machine).canonical = true :=
      congrArg Prod.fst (machine.begin.selectTable_of_tampered listed)
    refine ⟨DispatchTable.nodup_tampered _, fun _ => DispatchTable.mem_tampered, ?_, fun fuel => ?_⟩
    · intro taken run arrives
      exact ⟨Run.callsFrom_canonical (arrives.canonical.trans canonical),
        (arrives.dispatch_of_plain canonical).trans (Run.start_sameExcept pointer machine).dispatch⟩
    · obtain ⟨said, emits, executes⟩ := execute?_of_tampered listed pointer fuel
      refine ⟨said, emits, fun reporter => ?_, _, executes machine.reporter⟩
      rw [executes, show machine.execute? fuel pointer = _ from executes machine.reporter,
        Option.map_map]
      rfl
  · intro kept taken run arrives
    have live : (Run.start pointer machine).canonical = false :=
      congrArg Prod.fst (machine.begin.selectTable_of_kept kept)
    exact Run.callsFrom_live (arrives.canonical.trans live)

/-- Two commands that do nothing, under a table that puts a patch in their place and another one in the
place of a canary. -/
def sabotaged : Machine Scripted.embedding :=
  let table := (DispatchTable.canonical.patch .nop (.patch Scripted.Instrument.addHundred)).2
  (Run.ofScript #[] #[0x30, 4, 0, 0, 0x30, 4, 0, 0, 0x02, 4, 0, 0]).machine.withTable
    (table.patch .sleep (.patch Scripted.Instrument.restart)).2

theorem failover_isComplete_sabotaged :
    sabotaged.dispatch.tampered = [.sleep] ∧
      ∃ after, sabotaged.execute? 4 ⟨0, 0⟩ = some (.ok ⟨0, 8⟩, after) ∧
        after.context.register = 0 ∧ after.dispatch = sabotaged.dispatch := by
  have listed : sabotaged.dispatch.tampered = [.sleep] := by decide +kernel
  have lost : ¬ sabotaged.dispatch.Keeps .sleep :=
    (DispatchTable.mem_tampered.mp (listed ▸ List.mem_singleton_self _)).2
  obtain ⟨_, _, _, reporter, same⟩ :=
    ((failover_isComplete sabotaged ⟨0, 0⟩).1 ⟨.sleep, by decide, lost⟩).same 4
  let ended := ((sabotaged.withTable .canonical).execute? 4 ⟨0, 0⟩).get (by decide +kernel)
  have executed : (sabotaged.withTable .canonical).execute? 4 ⟨0, 0⟩ = some (.ok ⟨0, 8⟩, ended.2) := by
    have result : ended.1 = .ok ⟨0, 8⟩ := by decide +kernel
    rw [← result]
    exact (Option.some_get _).symm
  have untouched : ended.2.context.register = 0 := by decide +kernel
  rw [executed] at same
  exact ⟨listed, _, same, untouched, rfl⟩

end Machine

end StageScript
