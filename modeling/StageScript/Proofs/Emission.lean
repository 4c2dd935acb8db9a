import StageScript.Proofs.Resumption

/-!
What executions emit. Whoever listens to it, and however much it may report, an execution does the
same and emits the same diagnostics; only which of them are delivered is a matter of the reporter.
-/

namespace StageScript

def Reporter.told (said : List Diagnostic) (reporter : Reporter) : Reporter :=
  said.foldl emit reporter

theorem Reporter.told_append (said more : List Diagnostic) (reporter : Reporter) :
    reporter.told (said ++ more) = (reporter.told said).told more := by
  simp only [told, List.foldl_append]

namespace Reporter

variable {reporter : Reporter} {diagnostic : Diagnostic} {said other : List Diagnostic}

theorem deliver_of_recording (recording : reporter.listener = .recording) :
    reporter.deliver diagnostic = { reporter with delivered := reporter.delivered.push diagnostic } := by
  simp only [deliver, recording]

theorem listener_emit (recording : reporter.listener = .recording) (diagnostic : Diagnostic) :
    (reporter.emit diagnostic).listener = .recording := by
  unfold emit
  split
  next => exact recording
  next =>
    rw [deliver_of_recording (by exact recording)]
    exact recording

theorem listener_told (recording : reporter.listener = .recording) (said : List Diagnostic) :
    (reporter.told said).listener = .recording := by
  induction said generalizing reporter with
  | nil => exact recording
  | cons first rest ih => exact ih (listener_emit recording first)

theorem told_of_room (recording : reporter.listener = .recording)
    (room : reporter.emitted + said.length ≤ reporter.limit) :
    reporter.told said = { reporter with
      emitted := reporter.emitted + said.length
      delivered := reporter.delivered ++ said.toArray } := by
  induction said generalizing reporter with
  | nil => simp [told]
  | cons first rest ih =>
    rw [List.length_cons] at room
    have emitted : reporter.emit first = { reporter with
        emitted := reporter.emitted + 1
        delivered := reporter.delivered.push first } := by
      rw [emit, if_neg (by omega), deliver_of_recording (by exact recording)]
    have spare : (reporter.emit first).emitted + rest.length ≤ (reporter.emit first).limit := by
      rw [emitted]
      simp only
      omega
    change (reporter.emit first).told rest = _
    rw [ih (listener_emit recording first) spare, emitted]
    simp only [List.length_cons, mk.injEq, true_and]
    exact ⟨by omega, by simp⟩

/-- Somebody who listens, with a budget for so many diagnostics. -/
def roomy (limit : Nat) : Reporter := { ofLimit limit with listener := .recording }

theorem count_told (said : List Diagnostic) (reporter : Reporter) :
    (reporter.told said).emitted + (reporter.told said).dropped =
      reporter.emitted + reporter.dropped + said.length := by
  induction said generalizing reporter with
  | nil => rfl
  | cons first rest ih =>
    have here : (reporter.emit first).emitted + (reporter.emit first).dropped =
        reporter.emitted + reporter.dropped + 1 := by
      unfold emit
      split
      next => rfl
      next =>
        unfold deliver
        split <;> simp only <;> omega
    rw [List.length_cons, show reporter.told (first :: rest) = (reporter.emit first).told rest from rfl,
      ih, here]
    omega

theorem eq_of_told_roomy (same : (roomy said.length).told said = (roomy said.length).told other) :
    said = other := by
  have counted := count_told said (roomy said.length)
  rw [same, count_told other] at counted
  have fits : (roomy said.length).emitted + other.length ≤ (roomy said.length).limit := by
    change 0 + other.length ≤ said.length
    omega
  rw [told_of_room rfl (Nat.le_of_eq (Nat.zero_add _)), told_of_room rfl fits, mk.injEq] at same
  have delivered : said.toArray = other.toArray := (Array.append_right_inj _).mp same.2.2.2.2
  exact congrArg Array.toList delivered

end Reporter

namespace Machine

variable {E : Embedding} {machine after : Machine E}

def withReporter (reporter : Reporter) (machine : Machine E) : Machine E := { machine with reporter }

theorem withLedger_of_same {ledger : Ledger} (limit : ledger.stepLimit = machine.config.stepLimit)
    (cursor : ledger.cursor = machine.context.cursor) :
    machine.withLedger ledger = machine.withReporter ledger.reporter := by
  simp only [withLedger, limit, cursor]
  rfl

theorem withReporter_of_withLedger {α : Type} {run : Machine E → α × Machine E}
    {said : List Diagnostic} (same : ∀ ledger, run (machine.withLedger ledger) =
      Prod.map id (withLedger (ledger.told said)) (run machine)) (reporter : Reporter) :
    run (machine.withReporter reporter) =
      Prod.map id (withReporter (reporter.told said)) (run machine) := by
  have own : (run machine).2.ledger = machine.ledger.told said := by
    have itself := same machine.ledger
    rw [withLedger_ledger] at itself
    rw [itself]
    rfl
  refine (same { machine.ledger with reporter }).trans (Prod.ext rfl (withLedger_of_same ?_ ?_))
  · exact (congrArg Ledger.stepLimit own).symm
  · exact (congrArg Ledger.cursor own).symm

theorem followOverrides_withReporter (pointer : Pointer) (machine : Machine E) :
    ∃ said, ∀ reporter, (machine.withReporter reporter).followOverrides pointer =
      Prod.map id (withReporter (reporter.told said)) (machine.followOverrides pointer) :=
  let ⟨said, same⟩ := machine.followOverrides_withLedger pointer
  ⟨said, withReporter_of_withLedger same⟩

theorem selectTable_withReporter (machine : Machine E) :
    ∃ said, ∀ reporter, (machine.withReporter reporter).selectTable =
      Prod.map id (withReporter (reporter.told said)) machine.selectTable :=
  let ⟨said, same⟩ := machine.selectTable_withLedger
  ⟨said, withReporter_of_withLedger same⟩

def reporterAside : Aside E Reporter where
  put := withReporter
  told := Reporter.told
  told_nil _ := rfl
  told_append := Reporter.told_append
  alike _ _ _ := ⟨rfl, rfl, fun _ => rfl⟩
  setStatus _ _ _ := rfl
  follows pointer machine := machine.followOverrides_withReporter pointer

theorem Reports.hears {run : Machine E → Outcome E} (reports : Reports run machine) :
    reporterAside.Hears run machine := by
  obtain ⟨said, same⟩ := reports
  let paired (machine : Machine E) : Except Fault Flow × Machine E :=
    ((run machine).flow, (run machine).machine)
  have alike : ∀ ledger, paired (machine.withLedger ledger) =
      Prod.map id (withLedger (ledger.told said)) (paired machine) := by
    intro ledger
    simp only [paired, same]
    rfl
  refine ⟨said, fun reporter => ?_⟩
  have told := withReporter_of_withLedger alike reporter
  exact congrArg (fun pair : Except Fault Flow × Machine E => (⟨pair.2, pair.1⟩ : Outcome E)) told

def Ending.withReporter (reporter : Reporter) (ending : Ending E) : Ending E :=
  ⟨ending.result, ending.cursor, ending.machine.withReporter reporter⟩

variable [Patches E]

/-- What an execution does once it has selected its table. -/
def proceed? (canonical : Bool) (fuel : Nat) (pointer : Pointer) (machine : Machine E) :
    Option (Ending E) :=
  steps canonical fuel 0 (machine.followOverrides pointer).1 (machine.followOverrides pointer).2

theorem execute?_eq_proceed? (fuel : Nat) (pointer : Pointer) :
    machine.execute? fuel pointer =
      (machine.begin.selectTable.2.proceed? machine.begin.selectTable.1 fuel pointer).map finish :=
  rfl

/-- Under every reporter an execution is the same, apart from that, and has the same diagnostics for it. -/
def Emits (fuel : Nat) (pointer : Pointer) (said : List Diagnostic) (machine : Machine E) : Prop :=
  ∀ reporter, (machine.withReporter reporter).execute? fuel pointer =
    (machine.execute? fuel pointer).map
      (Prod.map id (withReporter (reporter.beginRun.told said).finishRun))

/-- The patches of a host emit diagnostics, and have nothing else to do with who listens to them. -/
def PatchesEmit (E : Embedding) [Patches E] : Prop :=
  ∀ patch command (machine : Machine E), reporterAside.Hears (Patches.run patch command) machine

/-- What steps call only emits diagnostics, in every machine of a kind that no step leaves. -/
structure Outspoken (canonical : Bool) (kind : Machine E → Prop) : Prop where
  hears : ∀ machine cursor handler command, kind machine →
    machine.dispatched? canonical cursor = some (handler, command) →
      reporterAside.Hears (dispatchCommand handler command) machine
  step : ∀ machine cursor, kind machine → kind (machine.step canonical cursor).2

theorem outspoken_of_plain (canonical : Bool) (machine : Machine E)
    (plain : canonical = true ∨ machine.dispatch = .canonical) :
    Outspoken canonical fun other : Machine E => other.dispatch = machine.dispatch where
  hears other cursor handler command same found := by
    obtain ⟨opcode, _, rfl⟩ := canonical_of_dispatched (same ▸ plain) found
    exact (reports_dispatchCommand opcode command).hears
  step other cursor same := (step_dispatch canonical other (same ▸ plain) cursor).trans same

theorem outspoken_of_patches (emit : PatchesEmit E) (canonical : Bool) :
    Outspoken canonical fun _ : Machine E => True where
  hears machine cursor handler command _ _ := by
    cases handler with
    | canonical opcode => exact (reports_dispatchCommand opcode command).hears
    | patch patch => exact emit patch command machine
  step _ _ _ := trivial

section Steps

variable {canonical : Bool} {kind : Machine E → Prop} (outspoken : Outspoken canonical kind)
include outspoken

theorem step_withReporter (of : kind machine) (cursor : Pointer) :
    ∃ said, ∀ reporter, (machine.withReporter reporter).step canonical cursor =
      Prod.map id (withReporter (reporter.told said))
        (machine.step canonical cursor) :=
  reporterAside.step fun handler command found =>
    outspoken.hears machine cursor handler command of found

theorem steps_withReporter (of : kind machine) (fuel taken : Nat) (cursor : Pointer) :
    ∃ said, ∀ reporter, steps canonical fuel taken cursor (machine.withReporter reporter) =
      (steps canonical fuel taken cursor machine).map
        (Ending.withReporter (reporter.told said)) := by
  induction fuel generalizing taken cursor machine with
  | zero => exact ⟨[], fun _ => rfl⟩
  | succ fuel ih =>
    have status reporter : (machine.withReporter reporter).context = machine.context := rfl
    have config reporter : (machine.withReporter reporter).config = machine.config := rfl
    simp only [steps, status, config]
    by_cases waits : machine.context.status ≠ .running
    · exact ⟨[], fun _ => by simp only [if_pos waits]; rfl⟩
    · by_cases limited : machine.config.stepLimit ≠ 0 ∧ machine.config.stepLimit ≤ taken
      · exact ⟨[], fun _ => by simp only [if_neg waits, if_pos limited]; rfl⟩
      · obtain ⟨said, same⟩ := step_withReporter outspoken of cursor
        have kept := outspoken.step machine cursor of
        simp only [if_neg waits, if_neg limited, same]
        cases stepped : machine.step canonical cursor with
        | mk result after =>
          rw [stepped] at kept
          cases result with
          | error fault => exact ⟨said, fun _ => rfl⟩
          | ok target =>
            obtain ⟨more, alike⟩ := ih kept (taken + 1) target
            refine ⟨said ++ more, fun reporter => ?_⟩
            rw [Reporter.told_append]
            exact alike _

theorem proceed?_withReporter (pointer : Pointer) (of : kind (machine.followOverrides pointer).2)
    (fuel : Nat) :
    ∃ said, ∀ reporter, (machine.withReporter reporter).proceed? canonical fuel pointer =
      (machine.proceed? canonical fuel pointer).map
        (Ending.withReporter (reporter.told said)) := by
  obtain ⟨said, followed⟩ := machine.followOverrides_withReporter pointer
  obtain ⟨more, stepped⟩ := steps_withReporter outspoken of fuel 0 (machine.followOverrides pointer).1
  refine ⟨said ++ more, fun reporter => ?_⟩
  rw [proceed?, followed, Reporter.told_append]
  exact stepped _

/-- An execution of outspoken steps emits some diagnostics, whatever its reporter is. -/
theorem exists_emits {pointer : Pointer} (selected : machine.begin.selectTable.1 = canonical)
    (of : kind (machine.begin.selectTable.2.followOverrides pointer).2) (fuel : Nat) :
    ∃ said, machine.Emits fuel pointer said := by
  obtain ⟨said, selects⟩ := machine.begin.selectTable_withReporter
  obtain ⟨more, proceeds⟩ := proceed?_withReporter outspoken pointer of fuel
  have begun reporter : (machine.withReporter reporter).begin =
      machine.begin.withReporter reporter.beginRun := rfl
  refine ⟨said ++ more, fun reporter => ?_⟩
  simp only [execute?_eq_proceed?, begun, selects, Prod.map, id, selected, proceeds,
    Reporter.told_append, Option.map_map]
  rfl

end Steps

end Machine

end StageScript
