import StageScript.Proofs.Soundness

/-!
Delays. A sleeping command pauses the script for so many executions, and counts them on the delay of its
kind. The delay belongs to the script and not to the command. So a sleeping command that is come to while
another one of its kind has not been waited out goes on with what is left of that.
-/

namespace StageScript

/-- The two delays, each with a command that sleeps on it. -/
inductive Delay where
  | primary
  | secondary

namespace Delay

def left : Delay → Context → Int32
  | .primary, context => context.delayPrimary
  | .secondary, context => context.delaySecondary

def put (left : Int32) : Delay → Context → Context
  | .primary, context => { context with delayPrimary := left }
  | .secondary, context => { context with delaySecondary := left }

def sleep : Delay → Int16 → Instruction
  | .primary, frames => .sleep frames
  | .secondary, frames => .sleepBeforeExit frames

def status : Delay → Status
  | .primary => .paused
  | .secondary => .pausedSecondary

@[simp]
theorem left_put (delay : Delay) (left : Int32) (context : Context) :
    delay.left (delay.put left context) = left := by
  cases delay <;> rfl

theorem left_put_of_ne {delay other : Delay} (another : other ≠ delay) (left : Int32)
    (context : Context) : other.left (delay.put left context) = other.left context := by
  cases delay with
  | primary =>
    cases other with
    | primary => exact absurd rfl another
    | secondary => rfl
  | secondary =>
    cases other with
    | primary => rfl
    | secondary => exact absurd rfl another

@[simp]
theorem status_put (delay : Delay) (left : Int32) (context : Context) :
    (delay.put left context).status = context.status := by
  cases delay <;> rfl

@[simp]
theorem left_of_status (delay : Delay) (status : Status) (context : Context) :
    delay.left { context with status } = delay.left context := by
  cases delay <;> rfl

theorem status_ne_running (delay : Delay) : delay.status ≠ .running := by
  cases delay <;> exact nofun

/-- How many executions a command pauses for that is come to with so much left on its delay. -/
def pauses (left : Int32) (frames : Int16) : Nat :=
  if left = 0 then frames.toNatClampNeg else left.toNatClampNeg - 1

end Delay

open Machine (countDown)

section CountDown

variable {left : Int32} {frames : Int16}

theorem frames_pos_iff : 0 < frames ↔ 0 < frames.toNatClampNeg := by
  have zero : Int16.toInt 0 = 0 := rfl
  rw [Int16.lt_iff_toInt_lt, zero]
  change _ ↔ 0 < frames.toInt.toNat
  omega

theorem toNatClampNeg_pos (above : 0 ≤ left) (some : left ≠ 0) : 0 < left.toNatClampNeg := by
  have zero : Int32.toInt 0 = 0 := rfl
  rw [Int32.le_iff_toInt_le, zero] at above
  rw [ne_eq, ← Int32.toInt_inj, zero] at some
  change 0 < left.toInt.toNat
  omega

theorem toNatClampNeg_sub_one (above : 0 ≤ left) (some : left ≠ 0) :
    (left - 1).toNatClampNeg = left.toNatClampNeg - 1 := by
  have low : 0 < left.toInt.toNat := toNatClampNeg_pos above some
  have high := left.toInt_lt
  have one : Int32.toInt 1 = 1 := rfl
  change (left - 1).toInt.toNat = left.toInt.toNat - 1
  rw [Int32.toInt_sub, one, Int.bmod_eq_of_le (by omega) (by omega)]
  omega

theorem toInt32_eq_zero_iff : frames.toInt32 = 0 ↔ frames = 0 := by
  rw [← Int32.toInt_inj, ← Int16.toInt_inj, Int16.toInt_toInt32]
  rfl

theorem toNatClampNeg_toInt32 (frames : Int16) :
    frames.toInt32.toNatClampNeg = frames.toNatClampNeg :=
  congrArg Int.toNat frames.toInt_toInt32

theorem countDown_zero (frames : Int16) :
    countDown 0 frames = if 0 < frames then (frames.toInt32, true) else (0, false) := by
  simp only [countDown, if_true, ← Int16.not_lt, ite_not]

theorem countDown_of_ne (some : left ≠ 0) (frames : Int16) :
    countDown left frames = (left - 1, left - 1 != 0) := if_neg some

theorem countDown_eq_zero_iff : (countDown left frames).1 = 0 ↔ (countDown left frames).2 = false := by
  by_cases none : left = 0
  · rw [none, countDown_zero]
    split
    next many => simpa [toInt32_eq_zero_iff] using (Int16.ne_of_lt many).symm
    next => simp
  · simp [countDown_of_ne none]

/-- A visit that waits is one pause, and the delay knows of the others; one that does not wait is the
last. -/
theorem pauses_countDown (above : 0 ≤ left) (frames : Int16) :
    Delay.pauses left frames = if (countDown left frames).2 then
      Delay.pauses (countDown left frames).1 frames + 1 else 0 := by
  by_cases none : left = 0
  · rw [none, countDown_zero]
    split
    next many =>
      have some : frames.toInt32 ≠ 0 := fun same =>
        Int16.ne_of_lt many (toInt32_eq_zero_iff.mp same).symm
      have positive := frames_pos_iff.mp many
      simp only [Delay.pauses, if_true, if_neg some, toNatClampNeg_toInt32]
      omega
    next few =>
      rw [frames_pos_iff] at few
      simp only [Delay.pauses, if_true, Bool.false_eq_true, if_false]
      omega
  · have less := toNatClampNeg_sub_one above none
    rw [countDown_of_ne none]
    by_cases last : left - 1 = 0
    · rw [last] at less
      simp only [Delay.pauses, if_neg none, last, bne_self_eq_false, Bool.false_eq_true, if_false]
      exact less.symm
    · have waits : (left - 1 != 0) = true := bne_iff_ne.mpr last
      have rest : 0 ≤ left - 1 := by
        have kept := Machine.countDown_nonneg above frames
        rwa [countDown_of_ne none] at kept
      have positive := toNatClampNeg_pos rest last
      simp only [Delay.pauses, if_neg none, waits, if_true, if_neg last]
      omega

theorem pauses_eq_iff (above : 0 ≤ left) (many : 0 < frames) :
    Delay.pauses left frames = frames.toNatClampNeg ↔
      left = 0 ∨ left.toNatClampNeg = frames.toNatClampNeg + 1 := by
  rw [frames_pos_iff] at many
  by_cases none : left = 0
  · simp [Delay.pauses, none]
  · have positive := toNatClampNeg_pos above none
    simp only [Delay.pauses, none, if_false, false_or]
    omega

end CountDown

namespace Machine

variable {E : Embedding} {machine after : Machine E}

theorem KeepsDelays.left (kept : machine.KeepsDelays after) (delay : Delay) :
    delay.left after.context = delay.left machine.context := by
  cases delay with
  | primary => exact kept.primary
  | secondary => exact kept.secondary

theorem exec_sleep (delay : Delay) (frames : Int16) (following : Pointer) (machine : Machine E) :
    machine.exec (delay.sleep frames) following =
      let (left, waits) := countDown (delay.left machine.context) frames
      let visited := { machine with context := delay.put left machine.context }
      if waits then (visited.setStatus delay.status).hold else visited.next := by
  cases delay <;> rfl

theorem selectTable_fst (same : after.dispatch = machine.dispatch) :
    after.selectTable.1 = machine.selectTable.1 := by
  simp only [selectTable, same]
  cases machine.dispatch.tampered <;> rfl

theorem left_finish (delay : Delay) (ending : Ending E) :
    delay.left (finish ending).2.context = delay.left ending.machine.context := by
  cases delay <;> rfl

def PatchesKeepDelays (E : Embedding) [Patches E] : Prop :=
  ∀ (patch : E.Patch) (command : Command) (machine : Machine E),
    machine.KeepsDelays (Patches.run patch command machine).machine ∧
      (Patches.run patch command machine).machine.dispatch = machine.dispatch

/-- Nothing has changed but what the host has overridden, and the command at a place is still there. -/
structure LeavesInPlace (place : Pointer) (before after : Machine E) : Prop where
  same : before.SameExcept [.overrides, .reporter] after
  inPlace : (after.overrides.resolve place).pointer = place

end Machine

namespace Run

variable {E : Embedding} {run next : Run E} {delay : Delay} {frames : Int16}

def Sleeps (delay : Delay) (frames : Int16) (run : Run E) : Prop :=
  run.runs?.map Prod.snd = some (delay.sleep frames)

instance (run : Run E) : Decidable (run.Sleeps delay frames) :=
  inferInstanceAs (Decidable (_ = _))

theorem sleeps_iff : run.Sleeps delay frames ↔
    ∃ command, run.runs? = some (command, delay.sleep frames) := by
  simp [Sleeps]

/-- The run goes through the table that its next execution would go through. -/
def Selected (run : Run E) : Prop := run.canonical = run.machine.selectTable.1

/-- The overrides lead the run nowhere else from where it is. -/
def InPlace (run : Run E) : Prop :=
  (run.machine.overrides.resolve run.cursor).pointer = run.cursor

instance (run : Run E) : Decidable run.InPlace :=
  inferInstanceAs (Decidable (_ = _))

theorem start_context (pointer : Pointer) (machine : Machine E) :
    (start pointer machine).machine.context = { machine.context with status := .running } := by
  have followed := (machine.begin.selectTable.2.followOverrides_sameExcept pointer).context (by simp)
  have selected := machine.begin.selectTable_sameExcept.context (by simp)
  exact followed.trans selected

theorem start_cursor (pointer : Pointer) (machine : Machine E) :
    (start pointer machine).cursor = (machine.overrides.resolve pointer).pointer := by
  have same : machine.begin.selectTable.2.overrides = machine.overrides :=
    machine.begin.selectTable_sameExcept.overrides (by simp)
  rw [← same]
  rfl

theorem start_selected (pointer : Pointer) (machine : Machine E) :
    (start pointer machine).Selected := by
  have same : machine.begin.selectTable.1 = machine.selectTable.1 := Machine.selectTable_fst rfl
  exact same.trans (Machine.selectTable_fst (start_sameExcept pointer machine).dispatch).symm

theorem Sleeps.of_same (sleeps : run.Sleeps delay frames)
    (same : run.machine.SameExcept [.context, .activeOwner, .overrides, .reporter] next.machine)
    (cursor : next.cursor = run.cursor) (selected : run.Selected) (again : next.Selected)
    (running : next.machine.context.status = .running) : next.Sleeps delay frames := by
  obtain ⟨command, runs⟩ := sleeps_iff.mp sleeps
  obtain ⟨_, dispatched, _⟩ := dispatched?_of_runs? runs
  have canonical : next.canonical = run.canonical :=
    again.trans ((Machine.selectTable_fst same.dispatch).trans selected.symm)
  have alike : run.machine.LooksAlike run.canonical next.machine := {
    memory := same.memory (by simp)
    layout := by rw [same.config]
    handler := fun code => by simp only [Machine.handler?, same.dispatch] }
  have dispatches : next.dispatched? = run.dispatched? := by
    rw [dispatched?, if_pos running, canonical, cursor, alike.dispatched?, dispatched?,
      if_pos (running_of_dispatched? dispatched).1]
  exact sleeps_iff.mpr ⟨command, by rw [← runs, runs?, runs?, dispatches]⟩

variable [Patches E]

structure Visits (delay : Delay) (frames : Int16) (run next : Run E) : Prop where
  step : run.Step next
  same : run.machine.SameExcept [.context, .activeOwner, .reporter] next.machine
  left : delay.left next.machine.context = (countDown (delay.left run.machine.context) frames).1
  waits : (countDown (delay.left run.machine.context) frames).2 = true →
    next.machine.context.status = delay.status ∧
      next.cursor = (run.machine.overrides.resolve run.cursor).pointer
  goesOn : (countDown (delay.left run.machine.context) frames).2 = false →
    next.machine.context.status = .running

theorem exists_step_of_settled {following : Pointer} {context : Context} {flow : Flow}
    (running : run.machine.context.status = .running)
    (stepped : run.machine.step run.canonical run.cursor =
      Machine.settle following run.cursor ⟨{ run.machine with context }, .ok flow⟩) :
    ∃ next, run.Step next ∧
      run.machine.SameExcept [.context, .activeOwner, .reporter] next.machine ∧
      next.machine.context = context ∧
      next.cursor = (run.machine.overrides.resolve (flow.target following run.cursor)).pointer := by
  let visited := { run.machine with context }
  let target := flow.target following run.cursor
  have followed := visited.followOverrides_sameExcept target
  have same : run.machine.SameExcept [.context, .activeOwner, .reporter] visited := by
    constructor <;> simp [visited]
  exact ⟨⟨run.canonical, _, (visited.followOverrides target).2⟩,
    step_iff.mpr ⟨running, stepped.trans (Machine.settle_eq_ok.mpr ⟨flow, rfl, rfl⟩), rfl⟩,
    same.trans (followed.mono (by simp)), followed.context (by simp), rfl⟩

/-- A sleeping command counts down the delay of its kind, and holds while there is something left. -/
theorem Sleeps.exists_visits (sleeps : run.Sleeps delay frames) :
    ∃ next, run.Visits delay frames next := by
  obtain ⟨command, runs⟩ := sleeps_iff.mp sleeps
  obtain ⟨_, dispatched, _⟩ := dispatched?_of_runs? runs
  have running := (running_of_dispatched? dispatched).1
  have stepped := step_of_runs? runs
  rw [Machine.exec_sleep] at stepped
  cases waits : (countDown (delay.left run.machine.context) frames).2 with
  | true =>
    simp only [waits, if_true] at stepped
    obtain ⟨next, step, same, context, cursor⟩ := exists_step_of_settled running stepped
    exact ⟨next, step, same, by simp [context], fun _ => ⟨by rw [context], cursor⟩,
      fun awake => by simp [waits] at awake⟩
  | false =>
    simp only [waits, Bool.false_eq_true, if_false] at stepped
    obtain ⟨next, step, same, context, _⟩ := exists_step_of_settled running stepped
    exact ⟨next, step, same, by simp [context], fun asleep => by simp [waits] at asleep,
      fun _ => by simpa [context] using running⟩

theorem Sleeps.visits (sleeps : run.Sleeps delay frames) (step : run.Step next) :
    run.Visits delay frames next := by
  obtain ⟨other, visits⟩ := sleeps.exists_visits
  obtain rfl := step.unique visits.step
  exact visits

theorem not_sleeps_of_faults {fault : Fault} {machine : Machine E}
    (faulted : run.machine.step run.canonical run.cursor = (.error fault, machine)) :
    ¬ run.Sleeps delay frames := by
  intro sleeps
  obtain ⟨next, visits⟩ := sleeps.exists_visits
  cases (step_iff.mp visits.step).2.1.symm.trans faulted

structure Holds (delay : Delay) (run held : Run E) : Prop where
  step : run.Step held
  pauses : held.machine.context.status = delay.status
  stays : held.cursor = run.cursor

theorem Holds.not_running {held : Run E} (holds : run.Holds delay held) (step : run.Step next) :
    next.machine.context.status ≠ .running := by
  rw [holds.step.unique step, holds.pauses]
  exact delay.status_ne_running

theorem Visits.waits_iff (visits : run.Visits delay frames next) :
    (countDown (delay.left run.machine.context) frames).2 = true ↔
      next.machine.context.status ≠ .running := by
  cases waits : (countDown (delay.left run.machine.context) frames).2 with
  | true => simp [(visits.waits waits).1, delay.status_ne_running]
  | false => simp [visits.goesOn waits]

/-- So many executions in a row have paused where the run is, and the host has left the command there in
place. -/
inductive Paused (delay : Delay) (run : Run E) : Nat → Run E → Prop where
  | here : Paused delay run 0 run
  | again {count : Nat} {last held next : Run E} (paused : Paused delay run count last)
    (holds : last.Holds delay held) (resumes : held.Resumes (Machine.LeavesInPlace run.cursor) next) :
    Paused delay run (count + 1) next

/-- So many executions in a row pause where the run is, and the next one goes on. -/
structure PausesFor (delay : Delay) (count : Nat) (run : Run E) : Prop where
  pauses : ∀ visits last, visits < count → run.Paused delay visits last → ∃ held, last.Holds delay held
  goesOn : ∀ last, run.Paused delay count last →
    ∃ next, last.Step next ∧ next.machine.context.status = .running

structure SleepsInPlace (delay : Delay) (frames : Int16) (run : Run E) : Prop where
  sleeps : run.Sleeps delay frames
  selected : run.Selected
  inPlace : run.InPlace
  above : 0 ≤ delay.left run.machine.context

namespace SleepsInPlace

variable {count : Nat} {held last : Run E} (there : run.SleepsInPlace delay frames)
include there

theorem resumed (holds : run.Holds delay held)
    (resumes : held.Resumes (Machine.LeavesInPlace run.cursor) next) :
    next.SleepsInPlace delay frames ∧ next.cursor = run.cursor ∧
      delay.left next.machine.context = (countDown (delay.left run.machine.context) frames).1 := by
  have visits := there.sleeps.visits holds.step
  obtain ⟨machine, edited, rfl⟩ := resumes.of_waits (holds.not_running holds.step)
  have finished := visits.same.trans ((Machine.finish_sameExcept
    ⟨.ok held.cursor, held.cursor, held.machine⟩).mono (by simp))
  have same : run.machine.SameExcept [.context, .activeOwner, .overrides, .reporter] machine :=
    (finished.mono (by simp)).trans (edited.same.mono (by simp))
  have started := start_sameExcept held.cursor machine
  have cursor : (start held.cursor machine).cursor = run.cursor := by
    rw [start_cursor, holds.stays, edited.inPlace]
  have context : machine.context = { held.machine.context with cursor := some held.cursor } :=
    edited.same.context (by simp)
  have left : delay.left (start held.cursor machine).machine.context =
      (countDown (delay.left run.machine.context) frames).1 := by
    rw [start_context, context, Delay.left_of_status, ← visits.left]
    cases delay <;> rfl
  have running : (start held.cursor machine).machine.context.status = .running := by
    rw [start_context]
  exact ⟨{
    sleeps := there.sleeps.of_same (same.trans (started.mono (by simp))) cursor there.selected
      (start_selected _ _) running
    selected := start_selected _ _
    inPlace := by rw [InPlace, cursor, started.overrides (by simp), edited.inPlace]
    above := by
      rw [left]
      exact Machine.countDown_nonneg there.above frames }, cursor, left⟩

/-- Every visit that pauses takes one off the pauses that are left, and leaves the rest to the next. -/
theorem paused (paused : run.Paused delay count last) :
    last.SleepsInPlace delay frames ∧ last.cursor = run.cursor ∧
      Delay.pauses (delay.left last.machine.context) frames + count =
        Delay.pauses (delay.left run.machine.context) frames := by
  -- By induction on the pauses: those that were made and those that are left stay as many together.
  induction paused with
  | here => exact ⟨there, rfl, rfl⟩
  | @again count last held next _ holds resumes ih =>
    obtain ⟨stays, cursor, counted⟩ := ih
    have visits := stays.sleeps.visits holds.step
    have waits := visits.waits_iff.mpr (holds.not_running holds.step)
    rw [← cursor] at resumes
    obtain ⟨again, back, left⟩ := stays.resumed holds resumes
    rw [pauses_countDown stays.above, if_pos waits] at counted
    rw [left]
    exact ⟨again, back.trans cursor, by omega⟩

theorem pausesFor : run.PausesFor delay (Delay.pauses (delay.left run.machine.context) frames) where
  pauses visits last few paused := by
    obtain ⟨stays, _, counted⟩ := there.paused paused
    obtain ⟨held, visits⟩ := stays.sleeps.exists_visits
    have waits : (countDown (delay.left last.machine.context) frames).2 = true := by
      by_contra awake
      rw [pauses_countDown stays.above, if_neg awake] at counted
      omega
    exact ⟨held, visits.step, (visits.waits waits).1, (visits.waits waits).2.trans stays.inPlace⟩
  goesOn last paused := by
    obtain ⟨stays, _, counted⟩ := there.paused paused
    obtain ⟨next, visits⟩ := stays.sleeps.exists_visits
    have awake : (countDown (delay.left last.machine.context) frames).2 = false := by
      by_contra waits
      rw [Bool.not_eq_false] at waits
      rw [pauses_countDown stays.above, if_pos waits] at counted
      omega
    exact ⟨next, visits.step, visits.goesOn awake⟩

theorem exists_paused (few : count ≤ Delay.pauses (delay.left run.machine.context) frames) :
    ∃ last, run.Paused delay count last := by
  induction count with
  | zero => exact ⟨run, .here⟩
  | succ count ih =>
    obtain ⟨last, paused⟩ := ih (Nat.le_of_succ_le few)
    obtain ⟨stays, cursor, _⟩ := there.paused paused
    obtain ⟨held, holds⟩ := there.pausesFor.pauses count last few paused
    let ending : Machine.Ending E := ⟨.ok held.cursor, held.cursor, held.machine⟩
    have overrides : (Machine.finish ending).2.overrides = last.machine.overrides :=
      ((Machine.finish_sameExcept ending).overrides (by simp)).trans
        ((stays.sleeps.visits holds.step).same.overrides (by simp))
    have left : (Machine.finish ending).2.LeavesInPlace run.cursor (Machine.finish ending).2 :=
      ⟨.refl _ _, by rw [overrides, ← cursor, stays.inPlace]⟩
    exact ⟨_, .again paused holds (.intro (.yields (holds.not_running holds.step)) left)⟩

theorem eq_pauses (pauses : run.PausesFor delay count) :
    count = Delay.pauses (delay.left run.machine.context) frames := by
  have law := there.pausesFor
  -- Were the numbers different, the visit after the fewer pauses would both hold and go on. A host that
  -- does nothing comes to that visit.
  rcases Nat.lt_trichotomy count (Delay.pauses (delay.left run.machine.context) frames) with
    few | same | many
  · obtain ⟨last, paused⟩ := there.exists_paused few.le
    obtain ⟨held, holds⟩ := law.pauses count last few paused
    obtain ⟨next, step, running⟩ := pauses.goesOn last paused
    exact absurd running (holds.not_running step)
  · exact same
  · obtain ⟨last, paused⟩ := there.exists_paused le_rfl
    obtain ⟨held, holds⟩ := pauses.pauses _ last many paused
    obtain ⟨next, step, running⟩ := law.goesOn last paused
    exact absurd running (holds.not_running step)

end SleepsInPlace

/-- A command pauses for its own frames just when it is not overridden itself and its delay is used up
when it is come to, unless what is left is just enough. -/
theorem Sleeps.pausesFor_iff (sleeps : run.Sleeps delay frames) (selected : run.Selected)
    (above : 0 ≤ delay.left run.machine.context) (many : 0 < frames) :
    run.PausesFor delay frames.toNatClampNeg ↔ run.InPlace ∧
      (delay.left run.machine.context = 0 ∨
        (delay.left run.machine.context).toNatClampNeg = frames.toNatClampNeg + 1) := by
  rw [← pauses_eq_iff above many]
  constructor
  · intro pauses
    obtain ⟨held, holds⟩ := pauses.pauses 0 run (frames_pos_iff.mp many) .here
    have visits := sleeps.visits holds.step
    have waits := visits.waits_iff.mpr (holds.not_running holds.step)
    have there : run.SleepsInPlace delay frames :=
      ⟨sleeps, selected, (visits.waits waits).2.symm.trans holds.stays, above⟩
    exact ⟨there.inPlace, (there.eq_pauses pauses).symm⟩
  · rintro ⟨inPlace, same⟩
    have there : run.SleepsInPlace delay frames := ⟨sleeps, selected, inPlace, above⟩
    rw [← same]
    exact there.pausesFor

theorem left_of_awake_of_patched (patched : ∀ patch command,
      run.dispatched? = some (.patch patch, command) →
        run.machine.KeepsDelays (Patches.run patch command run.machine).machine)
    (running : run.machine.context.status = .running)
    (awake : ∀ frames, ¬ run.Sleeps delay frames) :
    delay.left (run.machine.step run.canonical run.cursor).2.context =
      delay.left run.machine.context := by
  let same (after : Machine E) := delay.left after.context = delay.left run.machine.context
  have kept : same (run.machine.step run.canonical run.cursor).2 := by
    refine step_keeps running ?_ ?_ ?_ ?_
    · intro command instruction runs
      by_cases sleeps : ∃ other frames, instruction = Delay.sleep other frames
      · -- What sleeps on the other delay counts down that one only.
        obtain ⟨other, frames, rfl⟩ := sleeps
        have another : delay ≠ other := by
          rintro rfl
          exact awake frames (sleeps_iff.mpr ⟨command, runs⟩)
        simp only [same, Machine.exec_sleep]
        split
        · simp [Machine.hold, Machine.setStatus, Delay.left_put_of_ne another]
        · simp [Machine.next, Delay.left_put_of_ne another]
      · have wakes frames : instruction ≠ .sleep frames ∧ instruction ≠ .sleepBeforeExit frames :=
          ⟨fun asleep => sleeps ⟨.primary, frames, asleep⟩,
            fun asleep => sleeps ⟨.secondary, frames, asleep⟩⟩
        exact (Machine.exec_keepsDelays wakes command.next run.machine).left delay
    · intro patch command dispatched
      exact (patched patch command dispatched).left delay
    · intro _
      exact ⟨rfl, Delay.left_of_status delay .paused run.machine.context⟩
    · intro pointer after before
      have context := (after.followOverrides_sameExcept pointer).context (by simp)
      rw [show same (after.followOverrides pointer).2 ↔ _ = _ from Iff.rfl, context]
      exact before
  exact kept

theorem left_of_awake (patches : Machine.PatchesKeepDelays E)
    (running : run.machine.context.status = .running)
    (awake : ∀ frames, ¬ run.Sleeps delay frames) :
    delay.left (run.machine.step run.canonical run.cursor).2.context =
      delay.left run.machine.context :=
  left_of_awake_of_patched (fun patch command _ => (patches patch command run.machine).1) running awake

theorem left_of_awake_of_canonical (table : run.machine.dispatch = .canonical)
    (running : run.machine.context.status = .running)
    (awake : ∀ frames, ¬ run.Sleeps delay frames) :
    delay.left (run.machine.step run.canonical run.cursor).2.context =
      delay.left run.machine.context := by
  refine left_of_awake_of_patched (fun patch command called => ?_) running awake
  obtain ⟨_, _, same⟩ :=
    Machine.canonical_of_dispatched (.inr table) (running_of_dispatched? called).2
  cases same

/-- What a session waits for on one of the delays. -/
inductive Waiting where
  | nothing
  | command (place : Pointer)
  /-- It has been led away from a command that it had not waited out. -/
  | deserted
  deriving DecidableEq

def Waiting.led (cursor : Pointer) : Waiting → Waiting
  | .command place => if cursor = place then .command place else .deserted
  | waiting => waiting

/-- A session comes to a run while it waits for this on a delay that was used up at its beginning. -/
inductive Waits (delay : Delay) (edit : Machine E → Machine E → Prop) : Waiting → Run E → Prop where
  | begins {machine : Machine E} (rested : delay.left machine.context = 0) (pointer : Pointer) :
    Waits delay edit .nothing (start pointer machine)
  | pauses {waiting : Waiting} {run next : Run E} {frames : Int16}
    (waits : Waits delay edit waiting run) (sleeps : run.Sleeps delay frames) (step : run.Step next)
    (asleep : next.machine.context.status ≠ .running) :
    Waits delay edit ((Waiting.command run.cursor).led next.cursor) next
  | goesOn {waiting : Waiting} {run next : Run E} {frames : Int16}
    (waits : Waits delay edit waiting run) (sleeps : run.Sleeps delay frames) (step : run.Step next)
    (running : next.machine.context.status = .running) : Waits delay edit .nothing next
  | steps {waiting : Waiting} {run next : Run E} (waits : Waits delay edit waiting run)
    (awake : ∀ frames, ¬ run.Sleeps delay frames) (step : run.Step next) :
    Waits delay edit waiting next
  | resumes {waiting : Waiting} {run next : Run E} (waits : Waits delay edit waiting run)
    (resumes : run.Resumes edit next) : Waits delay edit (waiting.led next.cursor) next

section Sessions

variable {edit : Machine E → Machine E → Prop} {waiting : Waiting}

theorem Waiting.led_eq_nothing {cursor : Pointer} : waiting.led cursor = .nothing ↔ waiting = .nothing := by
  cases waiting with
  | nothing => rfl
  | command place =>
    simp only [led]
    split <;> simp
  | deserted => simp [led]

theorem Through.exists_waits {machine : Machine E} {pointer : Pointer}
    (rested : delay.left machine.context = 0)
    (session : (start pointer machine).Through edit (fun _ => True) run) :
    ∃ waiting, run.Waits delay edit waiting := by
  have kept : ∀ before after : Run E, (∃ waiting, before.Waits delay edit waiting) →
      before.Moves edit after → True → ∃ waiting, after.Waits delay edit waiting := by
    rintro before after ⟨waiting, waits⟩ (step | resumes) _
    · by_cases sleeps : ∃ frames, before.Sleeps delay frames
      · obtain ⟨frames, sleeps⟩ := sleeps
        by_cases running : after.machine.context.status = .running
        · exact ⟨_, .goesOn waits sleeps step running⟩
        · exact ⟨_, .pauses waits sleeps step running⟩
      · exact ⟨_, .steps waits (not_exists.mp sleeps) step⟩
    · exact ⟨_, .resumes waits resumes⟩
  exact session.last_of_moves ⟨.nothing, .begins rested pointer⟩ kept

theorem Step.selected (patches : Machine.PatchesKeepDelays E) (selected : run.Selected)
    (step : run.Step next) : next.Selected := by
  obtain ⟨_, stepped, canonical⟩ := step_iff.mp step
  have kept : (run.machine.step run.canonical run.cursor).2.dispatch = run.machine.dispatch :=
    Machine.step_dispatch_of_patched fun patch command _ => (patches patch command run.machine).2
  rw [stepped] at kept
  exact canonical.trans (selected.trans (Machine.selectTable_fst kept).symm)

theorem Resumes.left (patches : Machine.PatchesKeepDelays E)
    (edits : ∀ before after, edit before after → before.SameExcept [.overrides, .reporter] after)
    (resumes : run.Resumes edit next) :
    delay.left next.machine.context = delay.left run.machine.context := by
  cases resumes with
  | @intro ending machine ended edited =>
    have stopped : delay.left ending.machine.context = delay.left run.machine.context := by
      cases ended with
      | yields => rfl
      | stops => rfl
      | faults running faulted =>
        have awake frames : ¬ run.Sleeps delay frames := not_sleeps_of_faults faulted
        have kept := left_of_awake patches running awake
        rwa [faulted] at kept
    rw [start_context, Delay.left_of_status, (edits _ _ edited).context (by simp),
      Machine.left_finish, stopped]

theorem Waits.left (patches : Machine.PatchesKeepDelays E)
    (edits : ∀ before after, edit before after → before.SameExcept [.overrides, .reporter] after)
    (waits : run.Waits delay edit waiting) :
    run.Selected ∧ 0 ≤ delay.left run.machine.context ∧
      (delay.left run.machine.context = 0 ↔ waiting = .nothing) := by
  -- Only visits change the delay. Everything else moves the session about, and being led from a command
  -- does not use up what was left to wait for there.
  induction waits with
  | begins rested pointer =>
    rw [start_context, Delay.left_of_status, rested]
    exact ⟨start_selected _ _, Int32.le_refl 0, by simp⟩
  | @pauses waiting run next frames _ sleeps step asleep ih =>
    obtain ⟨selected, above, _⟩ := ih
    have visits := sleeps.visits step
    rw [visits.left, countDown_eq_zero_iff, visits.waits_iff.mpr asleep, Waiting.led_eq_nothing]
    exact ⟨step.selected patches selected, Machine.countDown_nonneg above frames, by simp⟩
  | @goesOn waiting run next frames _ sleeps step running ih =>
    obtain ⟨selected, above, _⟩ := ih
    have visits := sleeps.visits step
    have awake : (countDown (delay.left run.machine.context) frames).2 = false := by
      rw [← Bool.not_eq_true, visits.waits_iff, not_not]
      exact running
    rw [visits.left, countDown_eq_zero_iff, awake]
    exact ⟨step.selected patches selected, Machine.countDown_nonneg above frames, by simp⟩
  | @steps waiting run next _ awake step ih =>
    obtain ⟨selected, above, left⟩ := ih
    obtain ⟨running, stepped, _⟩ := step_iff.mp step
    have kept := left_of_awake patches running awake
    rw [stepped] at kept
    rw [kept]
    exact ⟨step.selected patches selected, above, left⟩
  | @resumes waiting run next _ resumes ih =>
    obtain ⟨_, above, left⟩ := ih
    rw [resumes.left patches edits, Waiting.led_eq_nothing]
    have selected : next.Selected := by
      cases resumes with
      | intro => exact start_selected _ _
    exact ⟨selected, above, left⟩

/-- Whatever a host overrides between executions, a sleeping command pauses for as many of them as its
delay says, and the delay is used up just when the session waits for nothing. So a command pauses for its
own frames just when it is not overridden itself and nothing is waited for, or when by chance what is left
of another wait comes to as many. -/
theorem sleep_pausesFor_iff (patches : Machine.PatchesKeepDelays E)
    (edits : ∀ before after, edit before after → before.SameExcept [.overrides, .reporter] after)
    (delay : Delay) :
    (∀ (machine : Machine E) (pointer : Pointer) (run : Run E), delay.left machine.context = 0 →
      (start pointer machine).Through edit (fun _ => True) run →
        ∃ waiting, run.Waits delay edit waiting) ∧
    ∀ (waiting : Waiting) (run : Run E) (frames : Int16),
      run.Waits delay edit waiting → run.Sleeps delay frames → 0 < frames →
      let left := delay.left run.machine.context
      (left = 0 ↔ waiting = .nothing) ∧
      (run.InPlace → run.PausesFor delay (Delay.pauses left frames)) ∧
      (run.PausesFor delay frames.toNatClampNeg ↔ run.InPlace ∧
        (waiting = .nothing ∨ left.toNatClampNeg = frames.toNatClampNeg + 1)) := by
  refine ⟨fun _ _ _ rested session => session.exists_waits rested, ?_⟩
  intro waiting run frames waits sleeps many
  obtain ⟨selected, above, nothing⟩ := waits.left patches edits
  refine ⟨nothing, fun inPlace => SleepsInPlace.pausesFor ⟨sleeps, selected, inPlace, above⟩, ?_⟩
  rw [← nothing]
  exact sleeps.pausesFor_iff selected above many

end Sessions

def overridden (override : Override) (run : Run E) : Run E :=
  let finished := (Machine.finish ⟨.ok run.cursor, run.cursor, run.machine⟩).2
  start run.cursor (finished.registerOverride override).2

theorem resumes_overridden (waits : run.machine.context.status ≠ .running) (override : Override) :
    run.Resumes (Machine.SameExcept [.overrides, .reporter]) (run.overridden override) :=
  .intro (.yields waits) (Machine.registerOverride_sameExcept override _)

/-- Sleeps for one frame, then for two. -/
def dozing : Run Scripted.embedding := ofScript #[] #[0x03, 4, 1, 0, 0x03, 4, 2, 0, 0x02, 4, 0, 0]

def stirred (override : Override) : Run Scripted.embedding :=
  (dozing.next?.get (by decide +kernel)).overridden override

theorem waits_stirred (override : Override) :
    (stirred override).Waits .primary (Machine.SameExcept [.overrides, .reporter])
      ((Waiting.command ⟨0, 0⟩).led (stirred override).cursor) := by
  have step : dozing.Step (dozing.next?.get (by decide +kernel)) := (Option.some_get _).symm
  have began : dozing.Waits .primary (Machine.SameExcept [.overrides, .reporter]) .nothing :=
    .begins rfl _
  have asleep : (dozing.next?.get (by decide +kernel)).machine.context.status ≠ .running := by
    decide +kernel
  have sleeps : dozing.Sleeps .primary 1 := by decide +kernel
  have paused := began.pauses sleeps step asleep
  have here : (Waiting.command dozing.cursor).led (dozing.next?.get (by decide +kernel)).cursor =
      .command ⟨0, 0⟩ := by decide +kernel
  rw [here] at paused
  exact paused.resumes (resumes_overridden asleep override)

theorem patchesKeepDelays_scripted : Machine.PatchesKeepDelays Scripted.embedding := by
  intro patch command machine
  cases (patch : Scripted.Instrument) <;> exact ⟨⟨rfl, rfl⟩, rfl⟩

/-- With the end of the script overridden, the second command pauses for its own two frames. -/
theorem sleep_pausesFor_iff_dozing :
    ∃ run, (stirred ⟨⟨0, 8⟩, ⟨0, 0⟩, 1⟩).Step run ∧ run.cursor = ⟨0, 4⟩ ∧ run.PausesFor .primary 2 := by
  let run := (stirred ⟨⟨0, 8⟩, ⟨0, 0⟩, 1⟩).next?.get (by decide +kernel)
  have step : (stirred ⟨⟨0, 8⟩, ⟨0, 0⟩, 1⟩).Step run := (Option.some_get _).symm
  have again : (stirred ⟨⟨0, 8⟩, ⟨0, 0⟩, 1⟩).Sleeps .primary 1 := by decide +kernel
  have waits := (waits_stirred ⟨⟨0, 8⟩, ⟨0, 0⟩, 1⟩).goesOn again step (by decide +kernel)
  have sleeps : run.Sleeps .primary 2 := by decide +kernel
  obtain ⟨_, lasts⟩ := sleep_pausesFor_iff patchesKeepDelays_scripted (fun _ _ same => same) .primary
  obtain ⟨_, _, exact_iff⟩ := lasts _ run 2 waits sleeps (by decide)
  exact ⟨run, step, by decide +kernel, exact_iff.mpr ⟨by decide +kernel, .inl rfl⟩⟩

/-- With the first command overridden by the second while the script waits at it, the second takes over
what is left of the wait, which is nothing more, and does not pause at all. -/
theorem sleep_inherited :
    let run := stirred ⟨⟨0, 0⟩, ⟨0, 4⟩, 1⟩
    run.Waits .primary (Machine.SameExcept [.overrides, .reporter]) .deserted ∧
      run.InPlace ∧ run.Sleeps .primary 2 ∧ ¬ run.PausesFor .primary 2 := by
  intro run
  have waits := waits_stirred ⟨⟨0, 0⟩, ⟨0, 4⟩, 1⟩
  rw [show (stirred ⟨⟨0, 0⟩, ⟨0, 4⟩, 1⟩).cursor = ⟨0, 4⟩ by decide +kernel] at waits
  refine ⟨waits, by decide +kernel, by decide +kernel, ?_⟩
  intro pauses
  obtain ⟨held, holds⟩ := pauses.pauses 0 run (by decide) .here
  have step : run.Step (run.next?.get (by decide +kernel)) := (Option.some_get _).symm
  exact holds.not_running step (by decide +kernel)

end Run

end StageScript
