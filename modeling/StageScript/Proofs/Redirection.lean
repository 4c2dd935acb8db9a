import StageScript.Proofs.Footprint
import StageScript.Proofs.Resolution

/-!
Overrides in a run. Every step that hands a command to a handler hands the pointer where control
goes to the overrides, and they lead the run to its next cursor. Whether the run stays there when it
holds, and when it is resumed, depends only on whether the pointer led through a chain.
-/

namespace StageScript

/-- Who wrote the command that a pointer leads to, absent for base content. -/
def Registry.author (registry : Registry) (pointer : Pointer) : Option OwnerId :=
  (registry.resolve pointer).owner.or
    (registry.streamOwner (registry.resolve pointer).pointer.buffer)

namespace Run

variable {E : Embedding} [Patches E] {run next : Run E} {target pointer : Pointer}

/-- The pointer that the next step hands to the overrides. -/
def submitted? (run : Run E) : Option Pointer := do
  let (handler, command) ← run.dispatched?
  let flow ← (run.machine.dispatchCommand handler command).flow.toOption
  return flow.target command.next run.cursor

theorem submitted?_eq_some : run.submitted? = some target ↔
    ∃ handler command flow, run.dispatched? = some (handler, command) ∧
      (run.machine.dispatchCommand handler command).flow = .ok flow ∧
      flow.target command.next run.cursor = target := by
  simp [submitted?, Option.bind_eq_some_iff, toOption_eq_some]

/-- A step follows the overrides from the pointer it hands them, or pauses in place. -/
theorem Step.submits (step : run.Step next) :
    (∃ handler command target, run.dispatched? = some (handler, command) ∧
      run.submitted? = some target ∧
      (run.machine.dispatchCommand handler command).machine.followOverrides target =
        (next.cursor, next.machine)) ∨
    run.submitted? = none ∧ next.cursor = run.cursor ∧
      next.machine = run.machine.setStatus .paused := by
  obtain ⟨running, stepped, _⟩ := step_iff.mp step
  have calls : run.dispatched? = run.machine.dispatched? run.canonical run.cursor := if_pos running
  cases found : run.machine.dispatched? run.canonical run.cursor with
  | none =>
    right
    have silent : run.submitted? = none := by simp [submitted?, calls, found]
    rcases Machine.step_of_undispatched found with paused | ⟨fault, faulted⟩
    · rw [paused _ (.refl _ _), Prod.mk.injEq, Except.ok.injEq] at stepped
      exact ⟨silent, stepped.1.symm, stepped.2.symm⟩
    · rw [faulted _ (.refl _ _), Prod.mk.injEq] at stepped
      cases stepped.1
  | some called =>
    obtain ⟨handler, command⟩ := called
    rw [Machine.step_of_dispatched found] at stepped
    obtain ⟨flow, went, followed⟩ := Machine.settle_eq_ok.mp stepped
    rw [found] at calls
    have submitted := submitted?_eq_some.mpr ⟨handler, command, flow, calls, went, rfl⟩
    exact .inl ⟨handler, command, _, calls, submitted, followed⟩

/-- The run has come to its cursor by way of the overrides from a pointer. -/
inductive Led (target : Pointer) : Run E → Prop where
  | start (machine : Machine E) : Led target (start target machine)
  | step {run next : Run E} (submitted : run.submitted? = some target) (step : run.Step next) :
    Led target next
  | pause {run next : Run E} (led : Led target run) (silent : run.submitted? = none)
    (step : run.Step next) : Led target next

/-- The registry that has led a run to its cursor is the one the run still has. -/
theorem Led.followed (led : run.Led target) :
    run.cursor = (run.machine.overrides.resolve target).pointer ∧
      run.machine.activeOwner = run.machine.overrides.author target := by
  have settled {before after : Machine E} {cursor : Pointer}
      (followed : before.followOverrides target = (cursor, after)) :
      cursor = (after.overrides.resolve target).pointer ∧
        after.activeOwner = after.overrides.author target := by
    have overrides := (Machine.sameExcept_of_followed followed).overrides (by simp)
    simp only [Machine.followOverrides, Prod.mk.injEq] at followed
    obtain ⟨rfl, rfl⟩ := followed
    rw [overrides]
    exact ⟨rfl, rfl⟩
  induction led with
  | start machine => exact settled rfl
  | step submitted step =>
    rcases step.submits with ⟨_, _, _, _, same, followed⟩ | ⟨silent, _⟩
    · rw [submitted, Option.some.injEq] at same
      subst same
      exact settled followed
    · rw [submitted] at silent
      cases silent
  | pause _ silent step ih =>
    rcases step.submits with ⟨_, _, _, _, submitted, _⟩ | ⟨_, cursor, machine⟩
    · rw [submitted] at silent
      cases silent
    · rw [cursor, machine]
      exact ih

theorem Led.moves {edit : Machine E → Machine E → Prop} (led : run.Led target)
    (move : run.Moves edit next) : ∃ later, next.Led later := by
  rcases move with step | resumed
  · cases submitted : run.submitted? with
    | none => exact ⟨target, .pause led submitted step⟩
    | some later => exact ⟨later, .step submitted step⟩
  · cases resumed with
    | intro => exact ⟨_, .start _⟩

theorem Through.exists_led {edit : Machine E → Machine E → Prop} {property : Run E → Prop}
    {machine : Machine E} (session : (start pointer machine).Through edit property run) :
    ∃ target, run.Led target := by
  have kept : ∀ before after : Run E, (∃ target, before.Led target) → before.Moves edit after →
      property after → ∃ target, after.Led target := by
    rintro before after ⟨_, led⟩ move _
    exact led.moves move
  exact session.last_of_moves ⟨pointer, .start machine⟩ kept

theorem Led.stays_iff (led : run.Led target) :
    ((run.machine.overrides.resolve run.cursor).pointer = run.cursor ↔
      ¬ run.machine.overrides.Chained target) := by
  rw [led.followed.1]
  exact run.machine.overrides.resolve_resolve_iff target

/-- A resolved pointer is resolved for good unless it was come to through a chain, and there is no
chain where no override was registered that ended where an older one began. So the command a session
stands at is the one that runs there, also after it has held or been resumed with the same overrides,
unless the pointer that led to it led through a chain. -/
theorem replacement_stays_iff (E : Embedding) [Patches E] :
    (∀ (registry : Registry) (pointer : Pointer),
      (registry.resolve (registry.resolve pointer).pointer).pointer =
        (registry.resolve pointer).pointer ↔ ¬ registry.Chained pointer) ∧
    (∀ (registry : Registry) (pointer : Pointer), registry.Straight → ¬ registry.Chained pointer) ∧
    ∀ (pointer : Pointer) (machine : Machine E) (edit : Machine E → Machine E → Prop) (run : Run E),
      (start pointer machine).Through edit (fun _ => True) run → ∃ target, run.Led target ∧
        run.cursor = (run.machine.overrides.resolve target).pointer ∧
        let stays := ¬ run.machine.overrides.Chained target
        ((run.machine.overrides.resolve run.cursor).pointer = run.cursor ↔ stays) ∧
        (∀ next, run.Step next → run.submitted? = some run.cursor →
          next.machine.overrides = run.machine.overrides → (next.cursor = run.cursor ↔ stays)) ∧
        ∀ later : Machine E, later.overrides = run.machine.overrides →
          ((start run.cursor later).cursor = run.cursor ↔ stays) := by
  refine ⟨Registry.resolve_resolve_iff, fun _ _ straight => straight.not_chained, ?_⟩
  intro pointer machine edit run session
  obtain ⟨target, led⟩ := session.exists_led
  refine ⟨target, led, led.followed.1, led.stays_iff, ?_, ?_⟩
  · intro next step submitted same
    have cursor := (Led.step submitted step).followed.1
    rw [same] at cursor
    rw [cursor]
    exact led.stays_iff
  · intro later same
    have resumed : (start run.cursor later).Led run.cursor := .start later
    have overrides : (start run.cursor later).machine.overrides = later.overrides :=
      (start_sameExcept _ _).overrides (by simp)
    rw [resumed.followed.1, overrides, same]
    exact led.stays_iff

/-- A command to be replaced, a replacement that sleeps, and a replacement of that one. -/
def drowsyScript : Bytes := #[
  0x13, 4, 1, 0, 0x02, 4, 0, 0,
  0x03, 4, 1, 0, 0x02, 4, 0, 0,
  0x13, 4, 3, 0, 0x02, 4, 0, 0]

def drowsy (older younger : Override) : Run Scripted.embedding :=
  let registry := ((Registry.empty.register older).2.register younger).2
  start ⟨0, 0⟩ { (ofScript #[] drowsyScript).machine with overrides := registry }

deriving instance DecidableEq for Registry

theorem replacement_stays_iff_drowsy :
    ∃ next, (drowsy ⟨⟨0, 0⟩, ⟨0, 8⟩, 1⟩ ⟨⟨0, 8⟩, ⟨0, 16⟩, 2⟩).Step next ∧
      next.machine.context.status = .paused ∧ next.cursor = ⟨0, 8⟩ ∧
      (start next.cursor next.machine).cursor = ⟨0, 8⟩ := by
  let run := drowsy ⟨⟨0, 0⟩, ⟨0, 8⟩, 1⟩ ⟨⟨0, 8⟩, ⟨0, 16⟩, 2⟩
  let next := run.next?.get (by decide +kernel)
  have step : run.Step next := (Option.some_get _).symm
  have session : run.Through (fun _ _ => False) (fun _ => True) run := ⟨trivial, .refl⟩
  have registered : run.machine.overrides =
      ((Registry.empty.register ⟨⟨0, 0⟩, ⟨0, 8⟩, 1⟩).2.register ⟨⟨0, 8⟩, ⟨0, 16⟩, 2⟩).2 :=
    (start_sameExcept _ _).overrides (by simp)
  have straight : run.machine.overrides.Straight := by
    rw [registered]
    exact .register (.register .empty (by decide)) (by decide)
  obtain ⟨_, unchained, led⟩ := replacement_stays_iff Scripted.embedding
  obtain ⟨target, _, _, _, held, resumed⟩ := led _ _ _ run session
  have same : next.machine.overrides = run.machine.overrides := by decide +kernel
  have cursor : next.cursor = run.cursor :=
    (held next step (by decide +kernel) same).mpr (unchained _ target straight)
  have place : run.cursor = ⟨0, 8⟩ := by decide +kernel
  refine ⟨next, step, by decide +kernel, cursor.trans place, ?_⟩
  rw [cursor, ← place]
  exact (resumed next.machine same).mpr (unchained _ target straight)

/-- Registered the other way round, the older override takes the run away from the sleeping
replacement that the younger one has led it to. -/
theorem replacement_left_drowsy :
    let older : Override := ⟨⟨0, 8⟩, ⟨0, 16⟩, 2⟩
    let younger : Override := ⟨⟨0, 0⟩, ⟨0, 8⟩, 1⟩
    let registry := ((Registry.empty.register older).2.register younger).2
    (registry.resolve (registry.resolve ⟨0, 0⟩).pointer).pointer ≠
        (registry.resolve ⟨0, 0⟩).pointer ∧
      (drowsy older younger).cursor = ⟨0, 8⟩ ∧ (drowsy older younger).submitted? = some ⟨0, 8⟩ ∧
      ∃ next, (drowsy older younger).Step next ∧ next.machine.overrides = registry ∧
        next.machine.context.status = .paused ∧ next.cursor = ⟨0, 16⟩ := by
  intro older younger registry
  let next := (drowsy older younger).next?.get (by decide +kernel)
  refine ⟨by decide, by decide +kernel, by decide +kernel, next, (Option.some_get _).symm, ?_⟩
  decide +kernel

end Run

end StageScript
