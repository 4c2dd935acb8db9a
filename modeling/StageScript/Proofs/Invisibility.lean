import StageScript.Proofs.Commuting
import StageScript.Proofs.Indifference

/-!
Overrides that an execution has nothing to do with. As long as it hands no end of them to the
overrides, and is led into no buffer of theirs, it takes the same steps and comes to the same end
without them, wherever they stand among the others.
-/

namespace StageScript

namespace Registry

variable {registry : Registry} {extra both : List Override} {pointer : Pointer}

/-- Where a pointer leads is neither due to further overrides nor in a buffer that they lead into. -/
def Spares (registry : Registry) (extra : List Override) (pointer : Pointer) : Prop :=
  ∀ override ∈ extra, ¬ override.covers pointer ∧
    override.replacement.buffer ≠ (registry.resolve pointer).pointer.buffer

instance : Decidable (registry.Spares extra pointer) :=
  inferInstanceAs (Decidable (∀ override ∈ extra, ¬ override.covers pointer ∧
    override.replacement.buffer ≠ (registry.resolve pointer).pointer.buffer))

theorem Spares.resolve_eq (spared : registry.Spares extra pointer)
    (mixed : Interleaved registry.overrides extra both) :
    resolve ⟨both⟩ pointer = registry.resolve pointer := by
  unfold resolve
  rw [mixed.find?_eq fun override member => (spared override member).1]

theorem Spares.streamOwner_eq (spared : registry.Spares extra pointer)
    (mixed : Interleaved registry.overrides extra both) :
    streamOwner ⟨both⟩ (registry.resolve pointer).pointer.buffer =
      registry.streamOwner (registry.resolve pointer).pointer.buffer := by
  unfold streamOwner
  rw [mixed.find?_eq fun override member => by
    simp [Override.streamsIn, (spared override member).2]]

end Registry

namespace Machine

variable {E : Embedding} {trusted : E.Patch → Prop} {registry : Registry} {machine : Machine E}
  {extra both : List Override}

/-- The machine has the overrides, and what the host has brought into it has nothing to do with
them. -/
structure BlindUnder (trusted : E.Patch → Prop) (registry : Registry) (machine : Machine E) :
    Prop where
  overrides : machine.overrides = registry
  blind : machine.Blind trusted

theorem BlindUnder.of_sameExcept {parts : List Part} {after : Machine E}
    (under : machine.BlindUnder trusted registry) (same : machine.SameExcept parts after)
    (overrides : .overrides ∉ parts) (hosts : .hosts ∉ parts) : after.BlindUnder trusted registry :=
  ⟨(same.overrides overrides).trans under.overrides, under.blind.of_sameExcept same hosts⟩

theorem followOverrides_withOverrides {target : Pointer}
    (mixed : Interleaved machine.overrides.overrides extra both)
    (spared : machine.overrides.Spares extra target) :
    (machine.withOverrides ⟨both⟩).followOverrides target =
      Prod.map id (withOverrides ⟨both⟩) (machine.followOverrides target) := by
  simp only [followOverrides, withOverrides, spared.resolve_eq mixed, spared.streamOwner_eq mixed]
  cases (machine.overrides.resolve target).owner with
  | none => rfl
  | some owner =>
    simp only
    split <;> rfl

theorem selectTable_withOverrides :
    (machine.withOverrides registry).selectTable =
      Prod.map id (withOverrides registry) machine.selectTable := by
  simp only [selectTable, withOverrides]
  cases machine.dispatch.tampered <;> rfl

theorem steady_withOverrides (registry : Registry) : Steady (withOverrides (E := E) registry) :=
  ⟨fun _ => rfl, fun _ => rfl⟩

variable [Patches E] {canonical : Bool} {cursor : Pointer}

theorem step_withOverrides (patched : PatchesBlind trusted)
    (under : machine.BlindUnder trusted registry)
    (mixed : Interleaved registry.overrides extra both)
    (spared : ∀ handler command flow, machine.dispatched? canonical cursor = some (handler, command) →
      (machine.dispatchCommand handler command).flow = .ok flow →
      registry.Spares extra (flow.target command.next cursor)) :
    (machine.withOverrides ⟨both⟩).step canonical cursor =
      Prod.map id (withOverrides ⟨both⟩) (machine.step canonical cursor) := by
  have alike : machine.LooksAlike canonical (machine.withOverrides ⟨both⟩) := ⟨rfl, rfl, fun _ => rfl⟩
  refine step_map id ?_ (fun _ => rfl) rfl fun handler command found => ?_
  · rw [alike.lookup, Prod.map_id, Option.map_id, Except.map_id]
    rfl
  · have among := under.blind.among found
    have kept : (machine.dispatchCommand handler command).machine.overrides = registry :=
      (dispatchCommand_overrides patched under.blind among command).trans under.overrides
    refine ⟨dispatchCommand_withOverrides patched under.blind among command, settle_map ?_⟩
    intro flow went
    have clear := spared handler command flow found went
    rw [← kept] at mixed clear
    exact followOverrides_withOverrides mixed clear

theorem BlindUnder.step (patched : PatchesBlind trusted)
    (under : machine.BlindUnder trusted registry) (canonical : Bool) (cursor : Pointer) :
    (machine.step canonical cursor).2.BlindUnder trusted registry := by
  refine step_keeps under ⟨under.overrides, under.blind.hosts.of_hosts rfl, under.blind.table⟩ ?_ ?_
  · intro handler command dispatched
    have among := under.blind.among dispatched
    exact ⟨(dispatchCommand_overrides patched under.blind among command).trans under.overrides,
      dispatchCommand_blind patched under.blind among command⟩
  · intro pointer after kept
    exact kept.of_sameExcept (after.followOverrides_sameExcept pointer) (by simp) (by simp)

end Machine

namespace Run

variable {E : Embedding}

def withOverrides (registry : Registry) (run : Run E) : Run E :=
  ⟨run.canonical, run.cursor, run.machine.withOverrides registry⟩

section Start

variable {trusted : E.Patch → Prop} {pointer : Pointer} {machine : Machine E}
  {extra both : List Override}

theorem start_withOverrides (mixed : Interleaved machine.overrides.overrides extra both)
    (spared : machine.overrides.Spares extra pointer) :
    start pointer (machine.withOverrides ⟨both⟩) =
      (start pointer machine).withOverrides ⟨both⟩ := by
  have begun : (machine.withOverrides ⟨both⟩).begin = machine.begin.withOverrides ⟨both⟩ := rfl
  have kept : machine.begin.selectTable.2.overrides = machine.overrides :=
    (machine.begin.selectTable_sameExcept).overrides (by simp)
  rw [← kept] at mixed spared
  simp only [start, begun, Machine.selectTable_withOverrides, Prod.map,
    Machine.followOverrides_withOverrides mixed spared]
  rfl

theorem start_blindUnder (blind : machine.Blind trusted) :
    (start pointer machine).machine.BlindUnder trusted machine.overrides :=
  Machine.BlindUnder.of_sameExcept ⟨rfl, blind⟩ (start_sameExcept pointer machine) (by simp)
    (by simp)

end Start

variable [Patches E] {trusted : E.Patch → Prop} {first run next : Run E} {pointer : Pointer}
  {machine : Machine E} {registry : Registry} {extra both : List Override} {taken count : Nat}

/-- The pointer that the step after so many others hands to the overrides, if there is one. -/
def submission? (first : Run E) (taken : Nat) : Option Pointer := do
  let run ← first.reached? taken
  if run.Allows taken then run.submitted? else none

theorem submission?_of_reached? (reached : first.reached? taken = some run)
    (allowed : run.Allows taken) : first.submission? taken = run.submitted? := by
  simp only [submission?, reached, Option.bind_eq_bind, Option.bind_some, allowed, if_true]

theorem blindUnder_of_steps (patched : Machine.PatchesBlind trusted)
    (under : first.machine.BlindUnder trusted registry)
    (steps : Relation.ReflTransGen Step first run) : run.machine.BlindUnder trusted registry := by
  induction steps with
  | refl => exact under
  | @tail run next _ step ih => exact step.keeps (ih.step patched run.canonical run.cursor)

theorem commutesFor_withOverrides (patched : Machine.PatchesBlind trusted)
    (mixed : Interleaved registry.overrides extra both)
    (under : first.machine.BlindUnder trusted registry)
    (spared : ∀ taken < count, ∀ target ∈ first.submission? taken, registry.Spares extra target) :
    first.CommutesFor (Machine.withOverrides ⟨both⟩) count := by
  intro taken few run reached allowed running
  have still := blindUnder_of_steps patched under (reached?_eq_some.mp reached).steps
  have now := spared taken few
  rw [submission?_of_reached? reached allowed] at now
  refine Machine.step_withOverrides patched still mixed fun handler command flow called went => ?_
  have dispatched : run.dispatched? = some (handler, command) := (if_pos running).trans called
  exact now _ (submitted?_eq_some.mpr ⟨handler, command, flow, dispatched, went, rfl⟩)

theorem reached?_withOverrides (patched : Machine.PatchesBlind trusted)
    (mixed : Interleaved registry.overrides extra both)
    (under : first.machine.BlindUnder trusted registry)
    (spared : ∀ earlier < taken, ∀ target ∈ first.submission? earlier,
      registry.Spares extra target) :
    (first.withOverrides ⟨both⟩).reached? taken =
      (first.reached? taken).map (withOverrides ⟨both⟩) :=
  reached?_map (Machine.steady_withOverrides _) (commutesFor_withOverrides patched mixed under spared)

theorem execute?_blindUnder (patched : Machine.PatchesBlind trusted) (blind : machine.Blind trusted)
    {fuel : Nat} {result : Except Fault Pointer} {after : Machine E}
    (ran : machine.execute? fuel pointer = some (result, after)) :
    after.BlindUnder trusted machine.overrides := by
  obtain ⟨last, ending, steps, ended, finished⟩ := ends_of_execute? ran
  have under := blindUnder_of_steps patched (start_blindUnder blind) steps
  have left := ended.keeps under (under.step patched last.canonical last.cursor)
  have same := Machine.finish_sameExcept ending
  rw [finished] at same
  exact left.of_sameExcept same (by simp) (by simp)

theorem execute?_withOverrides (patched : Machine.PatchesBlind trusted) (blind : machine.Blind trusted)
    (mixed : Interleaved machine.overrides.overrides extra both)
    (begins : machine.overrides.Spares extra pointer) {fuel : Nat}
    (spared : ∀ taken < fuel, ∀ target ∈ (start pointer machine).submission? taken,
      machine.overrides.Spares extra target) :
    (machine.withOverrides ⟨both⟩).execute? fuel pointer =
      (machine.execute? fuel pointer).map (Prod.map id (Machine.withOverrides ⟨both⟩)) :=
  execute?_map (Machine.steady_withOverrides _) (start_withOverrides mixed begins)
    (commutesFor_withOverrides patched mixed (start_blindUnder blind) spared) fun _ => rfl

/-- An execution under further overrides, interleaved with those there are in whatever way, takes the
same steps to the same end as without them, when they have nothing to do with any pointer that it hands
to the overrides, and the functions and patches of the host have nothing to do with overrides. It leaves
a machine of whose host the same can be said again. -/
theorem unused_overrides_invisible (patched : Machine.PatchesBlind trusted) (blind : machine.Blind trusted)
    (mixed : Interleaved machine.overrides.overrides extra both)
    (begins : machine.overrides.Spares extra pointer)
    (spared : ∀ taken < count, ∀ target ∈ (start pointer machine).submission? taken,
      machine.overrides.Spares extra target) :
    let crowded := machine.withOverrides ⟨both⟩
    (∀ taken ≤ count, (start pointer crowded).reached? taken =
      ((start pointer machine).reached? taken).map (withOverrides ⟨both⟩)) ∧
    ∀ fuel ≤ count,
      crowded.execute? fuel pointer =
        (machine.execute? fuel pointer).map (Prod.map id (Machine.withOverrides ⟨both⟩)) ∧
      ∀ result after, machine.execute? fuel pointer = some (result, after) →
        after.overrides = machine.overrides ∧ after.Blind trusted := by
  intro crowded
  have started : start pointer crowded = (start pointer machine).withOverrides ⟨both⟩ :=
    start_withOverrides mixed begins
  refine ⟨fun taken few => ?_, fun fuel few => ⟨?_, fun result after ran => ?_⟩⟩
  · rw [started]
    exact reached?_withOverrides patched mixed (start_blindUnder blind) fun earlier sooner =>
      spared earlier (by omega)
  · exact execute?_withOverrides patched blind mixed begins fun taken sooner =>
      spared taken (by omega)
  · have kept := execute?_blindUnder patched blind ran
    exact ⟨kept.overrides, kept.blind⟩

theorem hostsBlind_ofScript (image script : Bytes) : (ofScript image script).machine.HostsBlind :=
  allHosts_ofScript image script _

/-- Calls a host function and one of two subroutines. -/
def selectiveScript : Bytes := #[
  0x11, 8, 0, 0, 5, 0, 0, 0,
  0x06, 8, 0, 0, 20, 0, 0, 16,
  0x02, 4, 0, 0,
  0x07, 4, 0, 0,
  0x07, 4, 0, 0]

def selective : Machine Scripted.embedding :=
  let machine := (ofScript #[] selectiveScript).machine
  let (_, memory) := machine.memory.install #[0x13, 4, 99, 0, 0x07, 4, 0, 0]
  let overrides := ⟨[⟨⟨0, 20⟩, ⟨1, 0⟩, 9⟩]⟩
  { machine with memory, overrides }.registerHost 5 (.callback (.add 1))

theorem blind_selective : selective.Blind fun _ => True where
  hosts := (hostsBlind_ofScript #[] selectiveScript).of_insert rfl (blind_callback (.add 1))
  table _ handler _ := by cases handler <;> trivial

/-- A package overrides the other subroutine, and another one what is put there instead. -/
def bystanders : List Override := [⟨⟨0, 24⟩, ⟨2, 0⟩, 3⟩, ⟨⟨2, 0⟩, ⟨3, 0⟩, 4⟩]

/-- They are not noticed, though one of them stands before the package that is. -/
theorem unused_overrides_invisible_selective :
    let crowd := [⟨⟨0, 24⟩, ⟨2, 0⟩, 3⟩, ⟨⟨0, 20⟩, ⟨1, 0⟩, 9⟩, ⟨⟨2, 0⟩, ⟨3, 0⟩, 4⟩]
    Interleaved selective.overrides.overrides bystanders crowd ∧
    (∃ inside, (start ⟨0, 0⟩ (selective.withOverrides ⟨crowd⟩)).reached? 3 = some inside ∧
      inside.cursor = ⟨1, 4⟩ ∧ inside.machine.activeOwner = some 9) ∧
    ∃ left, (selective.withOverrides ⟨crowd⟩).execute? 7 ⟨0, 0⟩ = some left ∧
      left.1 = .ok ⟨0, 16⟩ ∧ left.2.context.status = .exited := by
  intro crowd
  have mixed : Interleaved selective.overrides.overrides bystanders crowd :=
    .right _ (.left _ (.right _ .nil))
  have begins : selective.overrides.Spares bystanders ⟨0, 0⟩ := by decide +kernel
  have spared : ∀ taken < 7, ∀ target ∈ (start ⟨0, 0⟩ selective).submission? taken,
      selective.overrides.Spares bystanders target := by decide +kernel
  obtain ⟨steps, executions⟩ := unused_overrides_invisible patchesBlind_scripted
    blind_selective mixed begins spared
  have came := steps 3 (by decide)
  have ended := (executions 7 (by decide)).1
  let inside := ((start ⟨0, 0⟩ selective).reached? 3).get (by decide +kernel)
  let left := (selective.execute? 7 ⟨0, 0⟩).get (by decide +kernel)
  rw [show (start ⟨0, 0⟩ selective).reached? 3 = some inside from (Option.some_get _).symm] at came
  rw [show selective.execute? 7 ⟨0, 0⟩ = some left from (Option.some_get _).symm] at ended
  refine ⟨mixed, ⟨_, came, ?_, ?_⟩, _, ended, ?_, ?_⟩
  · decide +kernel
  · decide +kernel
  · decide +kernel
  · decide +kernel

end Run

end StageScript
