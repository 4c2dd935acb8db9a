import StageScript.Proofs.Emission

/-!
What a listener receives of one execution. The diagnostics that the execution emits are delivered in
their order up to the budget; if there are more, how many more is told in one last summary, and if
there are not, nothing is. It does not matter what has been emitted, counted or delivered before, nor
whether the execution comes to a fault.
-/

namespace StageScript

namespace Diagnostic

def summaryOf (limit : Nat) (said : List Diagnostic) : List Diagnostic :=
  if limit < said.length then [.suppressed (said.length - limit)] else []

/-- What a listener with a budget receives of some diagnostics. -/
def received (limit : Nat) (said : List Diagnostic) : List Diagnostic :=
  said.take limit ++ summaryOf limit said

theorem received_of_room {limit : Nat} {said : List Diagnostic} (room : said.length ≤ limit) :
    received limit said = said := by
  rw [received, summaryOf, if_neg (Nat.not_lt.mpr room), List.take_of_length_le room,
    List.append_nil]

end Diagnostic

namespace Reporter

variable {reporter : Reporter} {said : List Diagnostic}

theorem told_of_spent (spent : reporter.limit ≤ reporter.emitted) :
    reporter.told said = { reporter with dropped := reporter.dropped + said.length } := by
  induction said generalizing reporter with
  | nil => rfl
  | cons first rest ih =>
    have emitted : reporter.emit first = { reporter with dropped := reporter.dropped + 1 } :=
      if_pos spent
    change (reporter.emit first).told rest = _
    rw [emitted, ih (by exact spent), List.length_cons]
    simp only [mk.injEq, true_and, and_true]
    omega

theorem told_beginRun (recording : reporter.listener = .recording) (said : List Diagnostic) :
    reporter.beginRun.told said = { reporter with
      emitted := min reporter.limit said.length
      dropped := said.length - reporter.limit
      delivered := reporter.delivered ++ (said.take reporter.limit).toArray } := by
  have fits : reporter.beginRun.emitted + (said.take reporter.limit).length ≤
      reporter.beginRun.limit := by
    simp only [beginRun, List.length_take]
    omega
  have begun : reporter.beginRun.listener = .recording := recording
  have first := told_of_room begun fits
  rcases Nat.le_total reporter.limit said.length with more | room
  · have split : said = said.take reporter.limit ++ said.drop reporter.limit :=
      (List.take_append_drop _ _).symm
    rw [split, told_append, first, told_of_spent (by simp [beginRun, more]), ← split]
    simp [beginRun]
  · rw [List.take_of_length_le room] at first ⊢
    rw [first, Nat.min_eq_right room, Nat.sub_eq_zero_of_le room]
    simp [beginRun]

/-- A run leaves its listener with what the budget lets through and the summary of the rest. -/
theorem run_eq (recording : reporter.listener = .recording) (said : List Diagnostic) :
    (reporter.beginRun.told said).finishRun = { reporter with
      emitted := min reporter.limit said.length
      dropped := 0
      delivered := reporter.delivered ++ (Diagnostic.received reporter.limit said).toArray } := by
  rw [told_beginRun recording, finishRun, Diagnostic.received, Diagnostic.summaryOf]
  by_cases more : reporter.limit < said.length
  · have counted : said.length - reporter.limit ≠ 0 := by omega
    simp only [if_neg counted, if_pos more]
    rw [deliver_of_recording (by exact recording)]
    simp
  · have none : said.length - reporter.limit = 0 := by omega
    simp only [none, if_true, if_neg more, List.append_nil]

theorem run_roomy {limit : Nat} (room : said.length ≤ limit) :
    ((roomy limit).beginRun.told said).finishRun =
      { roomy limit with emitted := said.length, delivered := said.toArray } := by
  rw [run_eq rfl, show (roomy limit).limit = limit from rfl, Diagnostic.received_of_room room,
    Nat.min_eq_right room]
  simp [roomy, ofLimit]

end Reporter

namespace Machine

variable {E : Embedding} [Patches E] {machine after : Machine E} {fuel : Nat} {pointer : Pointer}
  {said other : List Diagnostic} {result : Except Fault Pointer}

theorem Emits.unique (emits : machine.Emits fuel pointer said)
    (again : machine.Emits fuel pointer other)
    (ends : (machine.execute? fuel pointer).isSome) : said = other := by
  obtain ⟨left, ran⟩ := Option.isSome_iff_exists.mp ends
  let reporter := Reporter.roomy (said.length + other.length)
  have same := (emits reporter).symm.trans (again reporter)
  rw [ran, Option.map_some, Option.map_some, Option.some.injEq, Prod.map, Prod.map,
    Prod.mk.injEq] at same
  have reporters := congrArg Machine.reporter same.2
  simp only [withReporter, reporter, Reporter.run_roomy (Nat.le_add_right _ _),
    Reporter.run_roomy (Nat.le_add_left _ _), Reporter.mk.injEq] at reporters
  simpa using reporters.2.2.2

/-- What a run emits is one sequence of diagnostics, the same for every budget; and a listener receives
just as many of them as its budget is for, in their order, and last, only if there are more, a
summary that tells how many more. -/
theorem delivers_received (emit : PatchesEmit E)
    (ran : machine.execute? fuel pointer = some (result, after)) :
    ∃ said, (∀ other, machine.Emits fuel pointer other ↔ other = said) ∧
      ∀ reporter : Reporter, reporter.listener = .recording →
        ∃ heard, (machine.withReporter reporter).execute? fuel pointer =
            some (result, after.withReporter heard) ∧
          heard.delivered.toList = reporter.delivered.toList ++
            Diagnostic.received reporter.limit said ∧
          heard.listener = .recording ∧ heard.limit = reporter.limit := by
  obtain ⟨said, emits⟩ : ∃ said, machine.Emits fuel pointer said :=
    exists_emits (outspoken_of_patches emit machine.begin.selectTable.1) rfl trivial fuel
  refine ⟨said, fun other => ⟨fun again => ?_, fun same => same ▸ emits⟩, ?_⟩
  · exact again.unique emits (Option.isSome_of_eq_some ran)
  · intro reporter recording
    have executed := emits reporter
    rw [Reporter.run_eq recording, ran] at executed
    exact ⟨_, executed, by simp, recording, rfl⟩

theorem patchesEmit_scripted : PatchesEmit Scripted.embedding := by
  intro patch command machine
  cases (patch : Scripted.Instrument) <;> exact ⟨[], fun _ => rfl⟩

/-- Calls three host functions that nobody has registered and has no further command; its budget is for
two reports, and used up. -/
def verbose : Machine Scripted.embedding :=
  (Run.ofScript #[] #[0x11, 8, 0, 0, 5, 0, 0, 0, 0x11, 8, 0, 0, 6, 0, 0, 0,
    0x11, 8, 0, 0, 7, 0, 0, 0]).machine.withReporter ⟨2, 2, 9, .recording, #[]⟩

/-- The execution comes to a fault, and one report of the three is dropped. -/
theorem delivers_received_verbose :
    PatchesEmit Scripted.embedding ∧ ∃ said after,
      verbose.execute? 4 ⟨0, 0⟩ = some (.error (.read (.outsideBuffer ⟨0, 24⟩)), after) ∧
        verbose.Emits 4 ⟨0, 0⟩ said ∧ after.reporter.delivered.toList = Diagnostic.received 2 said ∧
        Diagnostic.received 2 said =
          [.unknownHostFunction 5, .unknownHostFunction 6, .suppressed 1] := by
  let left := (verbose.execute? 4 ⟨0, 0⟩).get (by decide +kernel)
  have ran : verbose.execute? 4 ⟨0, 0⟩ = some (left.1, left.2) := (Option.some_get _).symm
  have faults : left.1 = .error (.read (.outsideBuffer ⟨0, 24⟩)) := by decide +kernel
  have shown : left.2.reporter.delivered.toList =
      [.unknownHostFunction 5, .unknownHostFunction 6, .suppressed 1] := by decide +kernel
  obtain ⟨said, only, hears⟩ := delivers_received patchesEmit_scripted ran
  obtain ⟨heard, again, delivered, -⟩ := hears verbose.reporter rfl
  have same : left.2 = left.2.withReporter heard := by
    rw [show verbose.withReporter verbose.reporter = verbose from rfl, ran, Option.some.injEq,
      Prod.mk.injEq] at again
    exact again.2
  have received : left.2.reporter.delivered.toList = Diagnostic.received 2 said :=
    (congrArg (·.reporter.delivered.toList) same).trans delivered
  exact ⟨patchesEmit_scripted, said, left.2, by rw [ran, faults], (only said).mpr rfl, received,
    received ▸ shown⟩

end Machine

end StageScript
