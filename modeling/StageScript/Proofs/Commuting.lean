import StageScript.Proofs.Atomicity

/-!
Changes of machines that steps commute with. A step commutes with a change if what it looks up is
there under the change as well, its handler commutes, and the overrides lead on in the same way; and an
execution commutes with it if all of its steps do.
-/

namespace StageScript

variable {E : Embedding} {change : Machine E → Machine E}

def Outcome.map (change : Machine E → Machine E) (outcome : Outcome E) : Outcome E :=
  ⟨change outcome.machine, outcome.flow⟩

namespace Machine

variable {machine : Machine E} {canonical : Bool} {cursor following : Pointer}

def Ending.map (change : Machine E → Machine E) (ending : Ending E) : Ending E :=
  ⟨ending.result, ending.cursor, change ending.machine⟩

/-- The change leaves alone what overrides lead on by, and they leave alone what it changes. -/
structure Unled (change : Machine E → Machine E) : Prop where
  overrides : ∀ machine, (change machine).overrides = machine.overrides
  activeOwner : ∀ machine, (change machine).activeOwner = machine.activeOwner
  report : ∀ machine diagnostic,
    (change machine).report diagnostic = change (machine.report diagnostic)
  author : ∀ machine author,
    { change machine with activeOwner := author } = change { machine with activeOwner := author }

theorem followOverrides_map (unled : Unled change) (pointer : Pointer) (machine : Machine E) :
    (change machine).followOverrides pointer =
      Prod.map id change (machine.followOverrides pointer) := by
  unfold followOverrides
  rw [unled.overrides, unled.activeOwner]
  simp only
  cases (machine.overrides.resolve pointer).owner with
  | none => exact congrArg (Prod.mk _) (unled.author machine _)
  | some owner =>
    simp only
    split
    next =>
      rw [unled.report]
      exact congrArg (Prod.mk _) (unled.author _ _)
    next => exact congrArg (Prod.mk _) (unled.author machine _)

theorem settle_map {outcome : Outcome E}
    (follows : ∀ flow, outcome.flow = .ok flow →
      let target := flow.target following cursor
      (change outcome.machine).followOverrides target =
        Prod.map id change (outcome.machine.followOverrides target)) :
    settle following cursor (outcome.map change) =
      Prod.map id change (settle following cursor outcome) := by
  unfold settle Outcome.map
  cases went : outcome.flow with
  | error fault => rfl
  | ok flow =>
    simp only [follows flow went]
    rfl

variable [Patches E]

/-- The commands themselves may be read in another way under the change, if they are as long. -/
theorem step_map (recast : Command → Command)
    (looked : (change machine).lookup canonical cursor =
      (machine.lookup canonical cursor).map (Option.map (Prod.map id recast)))
    (length : ∀ command, (recast command).next = command.next)
    (pauses : (change machine).setStatus .paused = change (machine.setStatus .paused))
    (handled : ∀ handler command, machine.dispatched? canonical cursor = some (handler, command) →
      (change machine).dispatchCommand handler (recast command) =
          (machine.dispatchCommand handler command).map change ∧
        settle command.next cursor ((machine.dispatchCommand handler command).map change) =
          Prod.map id change (settle command.next cursor (machine.dispatchCommand handler command))) :
    (change machine).step canonical cursor =
      Prod.map id change (machine.step canonical cursor) := by
  rw [step_eq_lookup, step_eq_lookup, looked]
  cases found : machine.lookup canonical cursor with
  | error fault => rfl
  | ok called =>
    cases called with
    | none =>
      simp only [Except.map, Option.map_none, pauses]
      rfl
    | some called =>
      obtain ⟨same, settled⟩ := handled called.1 called.2 (dispatched?_eq_some_iff.mpr found)
      simp only [Except.map, Option.map_some, Prod.map, id, length, same]
      exact settled

/-- The change leaves alone what an execution looks at between its steps. -/
structure Steady (change : Machine E → Machine E) : Prop where
  status : ∀ machine, (change machine).context.status = machine.context.status
  stepLimit : ∀ machine, (change machine).config.stepLimit = machine.config.stepLimit

end Machine

namespace Run

def map (change : Machine E → Machine E) (run : Run E) : Run E :=
  ⟨run.canonical, run.cursor, change run.machine⟩

variable [Patches E] {first run : Run E} {taken : Nat}

instance (run : Run E) (taken : Nat) : Decidable (run.Allows taken) :=
  inferInstanceAs (Decidable (_ ∨ _))

/-- The run that an execution has come to after so many steps, absent when it takes fewer. -/
def reached? (first : Run E) : Nat → Option (Run E)
  | 0 => some first
  | taken + 1 => do
    let run ← first.reached? taken
    if run.Allows taken then run.next? else none

theorem reached?_eq_some : first.reached? taken = some run ↔ first.Arrives taken run := by
  constructor
  · intro reached
    induction taken generalizing run with
    | zero =>
      cases reached
      exact .start
    | succ taken ih =>
      simp only [reached?, Option.bind_eq_bind, Option.bind_eq_some_iff,
        Option.ite_none_right_eq_some] at reached
      obtain ⟨before, reached, allowed, step⟩ := reached
      exact .step (ih reached) allowed step
  · intro arrives
    induction arrives with
    | start => rfl
    | step _ allowed step ih =>
      simp only [reached?, ih, Option.bind_eq_bind, Option.bind_some, allowed, if_true]
      exact step

theorem Arrives.steps (arrives : first.Arrives taken run) : Relation.ReflTransGen Step first run := by
  induction arrives with
  | start => exact .refl
  | step _ _ step ih => exact ih.tail step

def Commutes (change : Machine E → Machine E) (run : Run E) : Prop :=
  (change run.machine).step run.canonical run.cursor =
    Prod.map id change (run.machine.step run.canonical run.cursor)

/-- All steps of an execution commute with the change that are among so many first ones. -/
def CommutesFor (change : Machine E → Machine E) (count : Nat) (first : Run E) : Prop :=
  ∀ taken < count, ∀ run, first.reached? taken = some run → run.Allows taken →
    run.machine.context.status = .running → run.Commutes change

variable (steady : Machine.Steady change)
include steady

theorem next?_map (commutes : run.machine.context.status = .running → run.Commutes change) :
    (run.map change).next? = run.next?.map (map change) := by
  simp only [next?, map, steady.status]
  split
  next => rfl
  next running =>
    have stepped : (change run.machine).step run.canonical run.cursor = _ :=
      commutes (Decidable.of_not_not running)
    rw [stepped]
    rcases run.machine.step run.canonical run.cursor with ⟨_ | _, _⟩ <;> rfl

theorem reached?_map (commutes : first.CommutesFor change taken) :
    (first.map change).reached? taken = (first.reached? taken).map (map change) := by
  induction taken with
  | zero => rfl
  | succ taken ih =>
    have before := ih fun earlier sooner => commutes earlier (Nat.lt_succ_of_lt sooner)
    simp only [reached?, before]
    cases reached : first.reached? taken with
    | none => rfl
    | some run =>
      have same : (run.map change).Allows taken ↔ run.Allows taken := by
        unfold Allows
        rw [show (run.map change).machine.config.stepLimit = run.machine.config.stepLimit from
          steady.stepLimit run.machine]
      simp only [Option.map_some, Option.bind_eq_bind, Option.bind_some, same]
      split
      next allowed =>
        exact next?_map steady fun running =>
          commutes taken (Nat.lt_succ_self taken) run reached allowed running
      next => rfl

theorem steps_map {fuel : Nat} (reached : first.reached? taken = some run)
    (commutes : first.CommutesFor change (taken + fuel)) :
    Machine.steps run.canonical fuel taken run.cursor (change run.machine) =
      (Machine.steps run.canonical fuel taken run.cursor run.machine).map
        (Machine.Ending.map change) := by
  induction fuel generalizing taken run with
  | zero => rfl
  | succ fuel ih =>
    simp only [Machine.steps, steady.status, steady.stepLimit]
    split
    next => rfl
    next running =>
      split
      next => rfl
      next unlimited =>
        have allowed : run.Allows taken := by
          unfold Allows
          omega
        have running := Decidable.of_not_not running
        have commute : (change run.machine).step run.canonical run.cursor = _ :=
          commutes taken (by omega) run reached allowed running
        rw [commute]
        cases went : run.machine.step run.canonical run.cursor with
        | mk result after =>
          cases result with
          | error fault => rfl
          | ok target =>
            have step : run.Step ⟨run.canonical, target, after⟩ := step_iff.mpr ⟨running, went, rfl⟩
            have arrives := Arrives.step (reached?_eq_some.mp reached) allowed step
            refine ih (reached?_eq_some.mpr arrives) ?_
            rwa [Nat.add_assoc, Nat.add_comm 1]

theorem execute?_map {machine : Machine E} {pointer : Pointer} {fuel : Nat}
    (starts : start pointer (change machine) = (start pointer machine).map change)
    (commutes : (start pointer machine).CommutesFor change fuel)
    (finishes : ∀ ending, Machine.finish (ending.map change) =
      Prod.map id change (Machine.finish ending)) :
    (change machine).execute? fuel pointer =
      (machine.execute? fuel pointer).map (Prod.map id change) := by
  have executes (other : Machine E) : other.execute? fuel pointer =
      (Machine.steps (start pointer other).canonical fuel 0 (start pointer other).cursor
        (start pointer other).machine).map Machine.finish := rfl
  have here : (start pointer machine).reached? 0 = some (start pointer machine) := rfl
  rw [← Nat.zero_add fuel] at commutes
  have stepped := steps_map steady here commutes
  rw [executes, executes, starts]
  simp only [map, stepped, Option.map_map]
  congr 1
  funext ending
  exact finishes ending

end Run

end StageScript
