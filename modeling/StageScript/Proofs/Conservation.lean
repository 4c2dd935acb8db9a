import StageScript.Proofs.Budget
import StageScript.Proofs.NoOps

/-!
Conservation of diagnostics. What an execution emits is delivered or counted, and the summary at its
end says how many have been counted. What a host causes between two executions is delivered or counted
too, but the next execution starts its count anew, so nobody hears of what was counted.
-/

namespace StageScript

namespace Diagnostic

def isSummary : Diagnostic → Bool
  | .suppressed _ => true
  | _ => false

/-- How many diagnostics one accounts for: a summary for those it counts, any other for itself. -/
def standsFor : Diagnostic → Nat
  | .suppressed dropped => dropped
  | _ => 1

theorem standsFor_of_plain {diagnostic : Diagnostic} (plain : diagnostic.isSummary = false) :
    diagnostic.standsFor = 1 := by
  cases diagnostic with
  | suppressed => cases plain
  | _ => rfl

def total (said : List Diagnostic) : Nat :=
  said.foldr (fun diagnostic rest => diagnostic.standsFor + rest) 0

theorem isSummary_of_isReason {diagnostic : Diagnostic} (reason : diagnostic.isReason) :
    diagnostic.isSummary = false := by
  cases diagnostic with
  | suppressed => cases reason
  | _ => rfl

theorem total_append (said more : List Diagnostic) : total (said ++ more) = total said + total more := by
  induction said with
  | nil => simp [total]
  | cons first rest ih =>
    simp only [total, List.cons_append, List.foldr_cons] at ih ⊢
    omega

def NoneSummary (said : List Diagnostic) : Prop := ∀ diagnostic ∈ said, diagnostic.isSummary = false

theorem total_of_plain {said : List Diagnostic} (plain : NoneSummary said) :
    total said = said.length := by
  induction said with
  | nil => rfl
  | cons first rest ih =>
    rw [NoneSummary, List.forall_mem_cons] at plain
    rw [List.length_cons, ← ih plain.2, total, List.foldr_cons, standsFor_of_plain plain.1,
      Nat.add_comm]
    rfl

theorem total_received {said : List Diagnostic} (plain : NoneSummary said) (limit : Nat) :
    total (received limit said) = said.length := by
  have first : NoneSummary (said.take limit) := fun diagnostic listed =>
    plain diagnostic (List.mem_of_mem_take listed)
  rw [received, total_append, total_of_plain first, List.length_take, summaryOf]
  split
  next more =>
    simp only [total, List.foldr_cons, List.foldr_nil, standsFor]
    omega
  next room =>
    simp only [total, List.foldr_nil]
    omega

theorem NoneSummary.nil : NoneSummary [] := List.forall_mem_nil _

theorem NoneSummary.singleton {diagnostic : Diagnostic} (plain : diagnostic.isSummary = false) :
    NoneSummary [diagnostic] :=
  List.forall_mem_singleton.mpr plain

theorem NoneSummary.append {said more : List Diagnostic} (first : NoneSummary said)
    (second : NoneSummary more) : NoneSummary (said ++ more) :=
  List.forall_mem_append.mpr ⟨first, second⟩

end Diagnostic

open Diagnostic (NoneSummary)

namespace Reporter

variable {reporter : Reporter} {diagnostic : Diagnostic} {said other : List Diagnostic}

/-- How many diagnostics the listener knows of, from themselves or from summaries. -/
def accounted (reporter : Reporter) : Nat :=
  Diagnostic.total reporter.delivered.toList

theorem accounted_push (reporter : Reporter) (diagnostic : Diagnostic) :
    accounted { reporter with delivered := reporter.delivered.push diagnostic } =
      reporter.accounted + diagnostic.standsFor := by
  simp only [accounted, Array.toList_push, Diagnostic.total_append]
  rfl

theorem listener_finishRun (recording : reporter.listener = .recording) :
    reporter.finishRun.listener = .recording := by
  unfold finishRun
  split
  next => exact recording
  next =>
    rw [deliver_of_recording (by exact recording)]
    exact recording

/-- The summary at the end of a run accounts for all that the run has counted. -/
theorem accounted_run (recording : reporter.listener = .recording)
    (plain : NoneSummary said) :
    (reporter.beginRun.told said).finishRun.accounted = reporter.accounted + said.length := by
  rw [run_eq recording, accounted, Array.toList_append, Diagnostic.total_append,
    Diagnostic.total_received plain]
  rfl

end Reporter

namespace Machine

variable {E : Embedding} [Patches E] {machine : Machine E} {fuel : Nat} {pointer : Pointer}
  {said other : List Diagnostic}

theorem Emits.reporter (emits : machine.Emits fuel pointer said) {result : Except Fault Pointer}
    {after : Machine E} (ran : machine.execute? fuel pointer = some (result, after)) :
    after.reporter = (machine.reporter.beginRun.told said).finishRun := by
  have own : machine.execute? fuel pointer = (machine.execute? fuel pointer).map _ :=
    emits machine.reporter
  rw [ran, Option.map_some, Option.some.injEq, Prod.map, Prod.mk.injEq] at own
  exact congrArg Machine.reporter own.2

end Machine

def Registration.reports (override : Override) : Registration → List Diagnostic
  | .active => []
  | .shadowed rival => [.overrideConflict override.original override.owner rival]

theorem Registration.reports_plain (override : Override) (registration : Registration) :
    NoneSummary (registration.reports override) := by
  cases registration with
  | active => exact .nil
  | shadowed rival => exact .singleton rfl

/-- How many of some diagnostics a reporter does not deliver because its budget is used up. -/
def Reporter.misses (said : List Diagnostic) (reporter : Reporter) : Nat :=
  if reporter.limit ≤ reporter.emitted then said.length else 0

theorem Reporter.accounted_reports {reporter : Reporter} (recording : reporter.listener = .recording)
    (override : Override) (registration : Registration) :
    (reporter.told (registration.reports override)).accounted +
        reporter.misses (registration.reports override) =
      reporter.accounted + (registration.reports override).length := by
  cases registration with
  | active => simp [Registration.reports, told, misses]
  | shadowed rival =>
    simp only [Registration.reports, told, misses, List.foldl_cons, List.foldl_nil, emit]
    split
    next => rfl
    next =>
      rw [deliver_of_recording (by exact recording), accounted_push]
      rfl

theorem Machine.reporter_registerOverride {E : Embedding} (override : Override) (machine : Machine E) :
    (machine.registerOverride override).2.reporter =
      machine.reporter.told ((machine.registerOverride override).1.reports override) := by
  unfold registerOverride
  cases machine.overrides.register override with
  | mk registration overrides => cases registration <;> rfl

namespace Machine

variable {E : Embedding} {machine between after : Machine E}

/-- Something has been reported between two machines, and no summary is among it. -/
def Said (before after : Machine E) : Prop :=
  ∃ said, NoneSummary said ∧
    after.reporter = before.reporter.told said

theorem remarks_not_isSummary : Remarks (·.isSummary = false) where
  blind _ := rfl
  underflow _ := rfl
  scope _ _ _ := rfl

namespace Said

theorem of_reporter (same : after.reporter = machine.reporter) : machine.Said after :=
  Remarked.of_reporter same

theorem trans (first : machine.Said between) (second : between.Said after) : machine.Said after :=
  Remarked.trans first second

theorem report (said : machine.Said after) {diagnostic : Diagnostic}
    (plain : diagnostic.isSummary = false) : machine.Said (after.report diagnostic) :=
  Remarked.report said plain

theorem followOverrides (pointer : Pointer) (machine : Machine E) :
    machine.Said (machine.followOverrides pointer).2 := by
  unfold Machine.followOverrides
  simp only
  split
  next =>
    split
    next => exact (report (.of_reporter rfl) rfl).trans (.of_reporter rfl)
    next => exact .of_reporter rfl
  next => exact .of_reporter rfl

end Said

end Machine

/-- No host function raises a summary, and patches have none for the ledger, on which they work by
reporting only. -/
structure Candid (E : Embedding) [Patches E] : Prop where
  hosts : ∀ (function : E.HostFn) (context : HostContext) (argument : Int16) (register : Int32),
    NoneSummary context.raised.toList →
      NoneSummary (E.callHost function context argument register).context.raised.toList
  patches : ∀ (patch : E.Patch) (command : Command) (machine : Machine E),
    ∃ said, NoneSummary said ∧
      ∀ ledger, Patches.run patch command (machine.withLedger ledger) =
        (Patches.run patch command machine).withLedger (ledger.told said)

namespace Machine

variable {E : Embedding} [Patches E] {machine after : Machine E}

theorem Candid.patchesEmit (candid : Candid E) : PatchesEmit E := by
  intro patch command machine
  obtain ⟨said, _, same⟩ := candid.patches patch command machine
  exact Reports.hears ⟨said, same⟩

namespace Said

variable (candid : Candid E)
include candid

theorem exec (instruction : Instruction) (following : Pointer) :
    machine.Said (machine.exec instruction following).machine := by
  have raises : E.HostsRaise (·.isSummary = false) := fun function context argument register silent =>
    candid.hosts function context argument register (silent ▸ .nil)
  rcases exec_declinesOrRemarks raises remarks_not_isSummary instruction following machine with
    ⟨reason, declines, same⟩ | remarked
  · rw [same]
    exact report (.of_reporter rfl) (Diagnostic.isSummary_of_isReason declines)
  · exact remarked

theorem dispatchCommand (handler : Handler E.Patch) (command : Command) :
    machine.Said (machine.dispatchCommand handler command).machine := by
  cases handler with
  | patch patch =>
    obtain ⟨said, plain, same⟩ := candid.patches patch command machine
    have own : Patches.run patch command machine =
        (Patches.run patch command machine).withLedger (machine.ledger.told said) :=
      same machine.ledger
    exact ⟨said, plain, congrArg (fun outcome => outcome.machine.reporter) own⟩
  | canonical opcode =>
    exact dispatchCommand_keeps (.of_reporter rfl) (exec candid · command.next)

theorem step (canonical : Bool) (cursor : Pointer) :
    machine.Said (machine.step canonical cursor).2 := by
  refine step_keeps (.of_reporter rfl) (.of_reporter rfl) ?_ ?_
  · intro handler command _
    exact dispatchCommand candid handler command
  · intro pointer after said
    exact said.trans (followOverrides pointer after)

theorem moves {first last : Run E} (moved : Relation.ReflTransGen Run.Step first last) :
    first.machine.Said last.machine := by
  induction moved with
  | refl => exact .of_reporter rfl
  | @tail run next _ step came =>
    exact step.keeps (came.trans (Said.step candid run.canonical run.cursor))

/-- Between the begin of an execution and the summary at its end there are no summaries. -/
theorem execute? {fuel : Nat} {pointer : Pointer} {result : Except Fault Pointer}
    (ran : machine.execute? fuel pointer = some (result, after)) :
    ∃ ending, machine.begin.Said ending ∧ after.reporter = ending.reporter.finishRun := by
  obtain ⟨last, ending, moved, ended, finished⟩ := Run.ends_of_execute? ran
  have selected : machine.begin.Said machine.begin.selectTable.2 := by
    unfold selectTable
    split
    next => exact .of_reporter rfl
    next => exact report (.of_reporter rfl) rfl
  have came : machine.begin.Said last.machine :=
    (selected.trans (followOverrides pointer machine.begin.selectTable.2)).trans (moves candid moved)
  refine ⟨ending.machine, ?_, ?_⟩
  · exact ended.keeps came (came.trans (Said.step candid last.canonical last.cursor))
  · exact (congrArg (fun left => left.2.reporter) finished).symm

end Said

section Histories

variable {fuel : Nat} {pointer : Pointer} {said emitted : List Diagnostic} {missed : Nat}
  {result : Except Fault Pointer}

theorem Emits.plain (candid : Candid E) (emits : machine.Emits fuel pointer said)
    (ran : machine.execute? fuel pointer = some (result, after)) :
    NoneSummary said := by
  let reporter := Reporter.roomy (said.length + 1)
  have again := emits reporter
  rw [ran] at again
  obtain ⟨ending, ⟨own, plain, told⟩, finished⟩ := Said.execute? candid again
  rw [told] at finished
  have same : (reporter.beginRun.told said).finishRun = (reporter.beginRun.told own).finishRun :=
    finished
  rw [Reporter.run_roomy (Nat.le_succ _)] at same
  -- There is room for one diagnostic more than was emitted, so the reporter cannot have used up its
  -- budget, and what it has delivered is all there was.
  by_cases few : own.length ≤ said.length + 1
  · rw [Reporter.run_roomy few, Reporter.mk.injEq] at same
    have all : said = own := by simpa using same.2.2.2.2
    exact all ▸ plain
  · rw [Reporter.run_eq (by rfl)] at same
    have count := congrArg Reporter.emitted same
    simp only [reporter, Reporter.roomy, Reporter.ofLimit] at count
    omega

/-- What a host does with a machine that it listens to from the start: it executes, registers overrides,
and does what makes no reports. What is emitted on the way is listed, and what a registration reports
after the budget is used up is missed. -/
inductive History : List Diagnostic → Nat → Machine E → Prop where
  | fresh {limit : Nat} {machine : Machine E} (listens : machine.reporter = .roomy limit) :
    History [] 0 machine
  | executes {emitted said : List Diagnostic} {missed fuel : Nat} {machine after : Machine E}
    {pointer : Pointer} {result : Except Fault Pointer} (history : History emitted missed machine)
    (emits : machine.Emits fuel pointer said)
    (ran : machine.execute? fuel pointer = some (result, after)) :
    History (emitted ++ said) missed after
  | registers {emitted conflicts : List Diagnostic} {missed : Nat} {machine : Machine E}
    (override : Override) (history : History emitted missed machine)
    (reports : (machine.registerOverride override).1.reports override = conflicts) :
    History (emitted ++ conflicts) (missed + machine.reporter.misses conflicts)
      (machine.registerOverride override).2
  | edits {emitted : List Diagnostic} {missed : Nat} {machine after : Machine E}
    (history : History emitted missed machine) (same : after.reporter = machine.reporter) :
    History emitted missed after

/-- Everything that has been emitted is known to the listener, but for what has been missed. -/
theorem History.accounted (candid : Candid E) (history : History emitted missed machine) :
    machine.reporter.listener = .recording ∧
      machine.reporter.accounted + missed = emitted.length ∧
      NoneSummary emitted := by
  induction history with
  | fresh listens =>
    rw [listens]
    exact ⟨rfl, rfl, .nil⟩
  | @executes emitted said missed fuel machine after pointer result _ emits ran ih =>
    obtain ⟨recording, accounted, plain⟩ := ih
    have said_plain := emits.plain candid ran
    have begun : machine.reporter.beginRun.listener = .recording := recording
    rw [emits.reporter ran, Reporter.accounted_run recording said_plain, List.length_append]
    exact ⟨Reporter.listener_finishRun (Reporter.listener_told begun said), by omega,
      plain.append said_plain⟩
  | @registers emitted conflicts missed machine override _ reports ih =>
    obtain ⟨recording, accounted, plain⟩ := ih
    have conflicts_plain := (machine.registerOverride override).1.reports_plain override
    have counted := Reporter.accounted_reports recording override (machine.registerOverride override).1
    rw [reports] at conflicts_plain counted
    rw [reporter_registerOverride, reports, List.length_append]
    exact ⟨Reporter.listener_told recording _, by omega, plain.append conflicts_plain⟩
  | edits _ same ih => rwa [same]

theorem History.accounted_eq_countP (candid : Candid E) (history : History emitted missed machine) :
    machine.reporter.accounted + missed = emitted.countP (! ·.isSummary) := by
  obtain ⟨_, accounted, plain⟩ := history.accounted candid
  have all : emitted.countP (! ·.isSummary) = emitted.length := by
    rw [List.countP_eq_length]
    intro diagnostic listed
    rw [plain diagnostic listed]
    rfl
  rw [all, accounted]

theorem History.executes_of_candid (candid : Candid E) (history : History emitted missed machine)
    (ran : machine.execute? fuel pointer = some (result, after)) :
    ∃ said, machine.Emits fuel pointer said ∧ History (emitted ++ said) missed after := by
  have outspoken := outspoken_of_patches (Candid.patchesEmit candid) machine.begin.selectTable.1
  obtain ⟨said, emits⟩ : ∃ said, machine.Emits fuel pointer said :=
    exists_emits outspoken rfl trivial fuel
  exact ⟨said, emits, history.executes emits ran⟩

/-- After an execution, what has been emitted so far is what has been delivered and what the delivered
summaries count, except for the conflicts that were registered between executions when the budget had
been used up. So nothing has vanished just when there are none of these. -/
theorem conserved_iff (candid : Candid E) (history : History emitted missed machine)
    (ran : machine.execute? fuel pointer = some (result, after)) :
    ∃ said, machine.Emits fuel pointer said ∧ History (emitted ++ said) missed after ∧
      let told := (emitted ++ said).countP (! ·.isSummary)
      after.reporter.accounted + missed = told ∧ (after.reporter.accounted = told ↔ missed = 0) := by
  obtain ⟨said, emits, later⟩ := history.executes_of_candid candid ran
  have accounted := later.accounted_eq_countP candid
  exact ⟨said, emits, later, accounted, by omega⟩

end Histories

theorem candid_scripted : Candid Scripted.embedding where
  hosts function context argument register plain := by
    obtain ⟨conflicts, alike, raised⟩ := raised_call function context argument register
    change NoneSummary (function.call context argument register).context.raised.toList
    rw [raised, Array.toList_append]
    refine plain.append fun diagnostic listed => ?_
    obtain ⟨_, _, _, rfl⟩ := alike diagnostic listed
    rfl
  patches patch command machine := by
    cases (patch : Scripted.Instrument) <;> exact ⟨[], .nil, fun _ => rfl⟩

def crowded (limit : Nat) : Machine Scripted.embedding :=
  (Run.ofScript #[] #[0x11, 8, 0, 0, 5, 0, 0, 0, 0x02, 4, 0, 0]).machine.withReporter (.roomy limit)

def contested (machine : Machine Scripted.embedding) : Machine Scripted.embedding :=
  ((machine.registerOverride ⟨⟨0, 20⟩, ⟨0, 24⟩, 1⟩).2.registerOverride ⟨⟨0, 20⟩, ⟨0, 24⟩, 2⟩).2

def left (machine : Machine Scripted.embedding) : Machine Scripted.embedding :=
  ((machine.execute? 3 ⟨0, 0⟩).map Prod.snd).getD machine

theorem execute?_left {machine : Machine Scripted.embedding}
    (ends : (machine.execute? 3 ⟨0, 0⟩).isSome) :
    ∃ result, machine.execute? 3 ⟨0, 0⟩ = some (result, machine.left) := by
  obtain ⟨⟨result, after⟩, ran⟩ := Option.isSome_iff_exists.mp ends
  exact ⟨result, by simp [left, ran]⟩

/-- The budget is for two reports and the execution makes one, so that the conflict is delivered. -/
theorem conserved_iff_crowded : ∃ (emitted : List Diagnostic) (after : Machine Scripted.embedding),
    History emitted 0 after ∧ after.reporter.accounted = emitted.countP (! ·.isSummary) ∧
      after.reporter.accounted = 3 := by
  obtain ⟨_, first⟩ := @execute?_left (crowded 2) (by decide +kernel)
  obtain ⟨_, second⟩ := @execute?_left (contested (crowded 2).left) (by decide +kernel)
  obtain ⟨_, _, begun, _⟩ := conserved_iff candid_scripted (.fresh rfl) first
  have contests := (begun.registers ⟨⟨0, 20⟩, ⟨0, 24⟩, 1⟩ rfl).registers ⟨⟨0, 20⟩, ⟨0, 24⟩, 2⟩ rfl
  obtain ⟨_, _, ended, _, conserved⟩ := conserved_iff candid_scripted contests second
  rw [show 0 + _ + _ = 0 by decide +kernel] at ended conserved
  exact ⟨_, _, ended, conserved.mpr rfl, by decide +kernel⟩

/-- The budget is for one report and the execution makes it, so that the conflict is not delivered, and
no summary counts it either: the next execution delivers its own report and has dropped nothing. -/
theorem conflict_vanished : ∃ (emitted : List Diagnostic) (after : Machine Scripted.embedding),
    History emitted 1 after ∧ after.reporter.accounted ≠ emitted.countP (! ·.isSummary) ∧
      after.reporter.delivered.toList.filter (·.isSummary) = [] := by
  obtain ⟨_, first⟩ := @execute?_left (crowded 1) (by decide +kernel)
  obtain ⟨_, second⟩ := @execute?_left (contested (crowded 1).left) (by decide +kernel)
  obtain ⟨_, _, begun⟩ := (History.fresh rfl).executes_of_candid candid_scripted first
  have contests := (begun.registers ⟨⟨0, 20⟩, ⟨0, 24⟩, 1⟩ rfl).registers ⟨⟨0, 20⟩, ⟨0, 24⟩, 2⟩ rfl
  obtain ⟨_, _, ended⟩ := contests.executes_of_candid candid_scripted second
  rw [show 0 + _ + _ = 1 by decide +kernel] at ended
  have accounted := ended.accounted_eq_countP candid_scripted
  exact ⟨_, _, ended, by omega, by decide +kernel⟩

end Machine

end StageScript
