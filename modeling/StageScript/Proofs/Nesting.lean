import Mathlib.Data.List.Infix
import StageScript.Proofs.Accounting
import StageScript.Proofs.Lifetime
import StageScript.Proofs.Rollback

/-!
Calls between a checkpoint and the pop that takes it away. When the calls themselves push as often
as they pop, the pop undoes whatever they have mapped and loaded, however deep they nest. It lets
be what they have made for good: installed buffers, and fixed loads with their mappings.
-/

namespace StageScript

namespace Memory

variable {base memory after : Memory}

/-- Calls that pop as often as they push, and never before they have pushed. -/
structure Operation.Balanced (operations : List Operation) : Prop where
  even : operations.count .popState = operations.count .pushState
  within : ∀ front, front <+: operations → front.count .popState ≤ front.count .pushState

theorem Called.depth {operation : Operation} {answer : Option BufferId}
    (called : memory.Called operation answer after) :
    after.checkpoints.length + [operation].count .popState =
      memory.checkpoints.length + [operation].count .pushState := by
  cases called with
  | pushState => rfl
  | popState top => simp [revert, top]
  | loadSegment => rfl
  | loadFixed => rfl
  | install => rfl
  | mapSegment => rfl

theorem depth_call (nested : 0 < memory.checkpoints.length) (operation : Operation) :
    (memory.call operation).checkpoints.length + [operation].count .popState =
      memory.checkpoints.length + [operation].count .pushState := by
  rcases memory.call_cases operation with ⟨_, _, called⟩ | ⟨error, refused, same⟩
  · exact called.depth
  · rw [same]
    cases operation with
    | pushState => cases refused
    | popState =>
      obtain ⟨checkpoint, outer, top⟩ := List.exists_cons_of_length_pos nested
      rw [Operation.perform_eq, Operation.outcome, popState_of_checkpoints top] at refused
      cases refused
    | loadSegment => rfl
    | loadFixed => rfl
    | install => rfl
    | mapSegment => rfl

theorem InScopeOf.called {operation : Operation} {answer : Option BufferId}
    (inside : memory.InScopeOf base) (called : memory.Called operation answer after)
    (deeper : base.checkpoints.length < after.checkpoints.length) : after.InScopeOf base := by
  cases called with
  | pushState => exact inside.pushState
  | popState top => exact inside.popState_of_deeper (popState_of_checkpoints top) deeper
  | loadSegment => exact inside.grow rfl rfl rfl rfl
  | loadFixed => exact inside.grow rfl rfl rfl rfl
  | install => exact inside.grow rfl rfl rfl rfl
  | mapSegment =>
    obtain ⟨inner, checkpoint, guarded⟩ := inside
    exact ⟨inner, checkpoint, { guarded with }⟩

theorem inScopeOf_calls (base : Memory) (operations : List Operation)
    (within : ∀ front, front <+: operations → front.count .popState ≤ front.count .pushState) :
    (base.pushState.calls operations).InScopeOf base ∧
      (base.pushState.calls operations).checkpoints.length + operations.count .popState =
        base.checkpoints.length + 1 + operations.count .pushState := by
  -- the bound on prefixes is inherited by what comes before the last call, not by what comes after
  -- the first
  induction operations using List.reverseRecOn with
  | nil => exact ⟨(Restored.refl base).reopen, rfl⟩
  | append_singleton front operation ih =>
    have earlier (start : List Operation) (first : start <+: front) :
        start.count .popState ≤ start.count .pushState :=
      within start (first.trans (List.prefix_append _ _))
    obtain ⟨inside, depth⟩ := ih earlier
    have change := depth_call (Nat.zero_lt_of_lt inside.depth_lt) operation
    have whole := within _ List.prefix_rfl
    have last : base.pushState.calls (front ++ [operation]) =
        (base.pushState.calls front).call operation :=
      calls_append _ _ _
    rw [last]
    simp only [List.count_append] at whole ⊢
    have deeper : base.checkpoints.length <
        ((base.pushState.calls front).call operation).checkpoints.length := by
      omega
    refine ⟨?_, by omega⟩
    rcases (base.pushState.calls front).call_cases operation with ⟨_, _, called⟩ | ⟨_, _, same⟩
    · exact inside.called called deeper
    · rw [same]
      exact inside

theorem InScopeOf.popState_last (inside : memory.InScopeOf base)
    (level : memory.checkpoints.length = base.checkpoints.length + 1) :
    ∃ after, memory.popState = .ok after ∧ Restored base memory after := by
  obtain ⟨_, _, top⟩ := List.exists_cons_of_length_eq_add_one level
  have popped := popState_of_checkpoints top
  rcases inside.popState popped with still | ⟨_, restored⟩
  · have deeper := still.depth_lt
    rw [top, List.length_cons] at level
    simp only [revert] at deeper
    omega
  · exact ⟨_, popped, restored⟩

/-- The calls that make a buffer which no checkpoint releases. -/
def Operation.lasts : Operation → Bool
  | .loadFixed .. | .install _ => true
  | _ => false

theorem permanent?_push {bytes : Bytes}
    (pushed : after.slots = memory.slots.push (some ⟨bytes, false⟩)) :
    after.permanent? memory.slots.size = some ⟨bytes, false⟩ := by
  rw [permanent?, slot?_push_self pushed]
  rfl

theorem Called.lasts {operation : Operation} {answer : Option BufferId}
    (called : memory.Called operation answer after) (lasts : operation.lasts) :
    ∃ id buffer, answer = some id ∧ after.permanent? id = some buffer := by
  cases called with
  | loadFixed => exact ⟨_, _, rfl, permanent?_push rfl⟩
  | install => exact ⟨_, _, rfl, permanent?_push rfl⟩
  | _ => cases lasts

def Refixes (memory : Memory) (segment : Nat) (operations : List Operation) : Prop :=
  ∃ front dest start stop rest answer left,
    operations = front ++ .loadFixed dest start stop :: rest ∧ dest.segment.toNat = segment ∧
      (Operation.loadFixed dest start stop).perform (memory.calls front) = .ok answer left

theorem Refixes.cons {segment : Nat} {operation : Operation} {rest : List Operation}
    (refixes : (memory.call operation).Refixes segment rest) :
    memory.Refixes segment (operation :: rest) := by
  obtain ⟨front, dest, start, stop, further, answer, left, rfl, same, performed⟩ := refixes
  exact ⟨operation :: front, dest, start, stop, further, answer, left, rfl, same, performed⟩

theorem Called.fixed {operation : Operation} {answer : Option BufferId}
    (called : memory.Called operation answer after) (segment : Nat) :
    after.fixed[segment]? = memory.fixed[segment]? ∨
      ∃ dest start stop, operation = .loadFixed dest start stop ∧ dest.segment.toNat = segment := by
  cases called with
  | @loadFixed dest start stop index _ found read =>
    by_cases same : dest.segment.toNat = segment
    · exact .inr ⟨dest, start, stop, rfl, same⟩
    · rw [← val_of_segmentIndex found] at same
      exact .inl (Vector.getElem?_set_ne index.isLt same)
  | _ => exact .inl rfl

theorem fixed_calls {segment : Nat} (operations : List Operation)
    (kept : ¬ memory.Refixes segment operations) :
    (memory.calls operations).fixed[segment]? = memory.fixed[segment]? := by
  induction operations generalizing memory with
  | nil => rfl
  | cons operation rest ih =>
    rw [calls_cons, ih (kept ∘ Refixes.cons)]
    rcases memory.call_cases operation with ⟨answer, performed, called⟩ | ⟨_, _, same⟩
    · rcases called.fixed segment with same | ⟨dest, start, stop, rfl, same⟩
      · exact same
      · exact absurd ⟨[], dest, start, stop, rest, answer, _, rfl, same, performed⟩ kept
    · rw [same]

theorem Called.fixed_loadFixed {dest : Address} {start stop : Nat} {answer : Option BufferId}
    (called : memory.Called (.loadFixed dest start stop) answer after) :
    ∃ id, answer = some id ∧
      after.fixed[dest.segment.toNat]? = some (some ⟨id, dest.offset.toNat⟩) := by
  cases called with
  | @loadFixed _ _ _ index _ found read =>
    refine ⟨_, rfl, ?_⟩
    rw [← val_of_segmentIndex found]
    exact Vector.getElem?_set_self index.isLt

/-- What the pop of a checkpoint leaves after calls that balance: the memory of the push, and what
was made for good. -/
structure RolledBack (base : Memory) (operations : List Operation) (after : Memory) : Prop where
  segments : after.segments = base.segments
  used : after.used = base.used
  available : after.available = base.available
  checkpoints : after.checkpoints = base.checkpoints
  pooled : ∀ id, after.pooled? id = base.pooled? id
  lasting : ∀ front operation rest answer left, operations = front ++ operation :: rest →
    operation.lasts → operation.perform (base.calls (.pushState :: front)) = .ok answer left →
    ∃ id buffer, answer = some id ∧ left.permanent? id = some buffer ∧
      after.permanent? id = some buffer
  /-- A fixed mapping gives way only to a later one of the same segment. -/
  fixed : ∀ front dest start stop rest answer left,
    operations = front ++ .loadFixed dest start stop :: rest →
    (Operation.loadFixed dest start stop).perform (base.calls (.pushState :: front)) =
      .ok answer left →
    ¬ left.Refixes dest.segment.toNat rest →
    ∃ id, answer = some id ∧
      after.fixed[dest.segment.toNat]? = some (some ⟨id, dest.offset.toNat⟩)
  /-- An address that a load or a mapping by hand led somewhere still leads there. -/
  addresses : ∀ (address : Address) (mapping : Mapping),
    base.segments[address.segment.toNat]? = some (some mapping) →
    after.resolve? address = base.resolve? address

theorem Restored.resolve? (restored : Restored base memory after) (mapped : base.Mapped)
    {address : Address} {mapping : Mapping}
    (found : base.segments[address.segment.toNat]? = some (some mapping)) :
    after.resolve? address = base.resolve? address := by
  have issued : mapping.buffer < base.slots.size :=
    (mapped.segments mapping (Vector.mem_of_getElem? found)).1
  have live : after.isLive mapping.buffer = base.isLive mapping.buffer :=
    congrArg Option.isSome (restored.kept mapping.buffer issued)
  simp [Memory.resolve?, restored.segments, found, live]

theorem Restored.rolledBack {operations : List Operation} (mapped : base.Mapped)
    (restored : Restored base (base.calls (.pushState :: operations)) after) :
    base.RolledBack operations after := by
  refine {
    segments := restored.segments
    used := restored.used
    available := ?_
    checkpoints := restored.checkpoints
    pooled := restored.pooled
    lasting := ?_
    fixed := ?_
    addresses := fun _ _ => restored.resolve? mapped }
  · rw [available, restored.capacity, restored.used, available]
  · intro front operation rest answer left split lasts performed
    obtain ⟨id, buffer, rfl, made⟩ := (called_of_perform performed).1.lasts lasts
    have whole : base.calls (.pushState :: operations) = left.calls rest :=
      calls_past (congrArg (List.cons .pushState) split) performed
    have issued : id < left.slots.size := lt_of_isLive (isLive_of_permanent? (by rw [made]; rfl))
    refine ⟨id, buffer, rfl, made, ?_⟩
    rw [restored.permanent, whole, (Aged.calls left rest).permanent id issued, made]
  · intro front dest start stop rest answer left split performed kept
    obtain ⟨id, rfl, made⟩ := (called_of_perform performed).1.fixed_loadFixed
    have whole : base.calls (.pushState :: operations) = left.calls rest :=
      calls_past (congrArg (List.cons .pushState) split) performed
    refine ⟨id, rfl, ?_⟩
    rw [restored.fixed, whole, fixed_calls rest kept, made]

/-- Whatever calls have led to a memory, a push, calls that balance and a pop lead back to it. -/
theorem balanced_calls_rolledBack (image : Bytes) (capacity : Nat)
    (history operations : List Operation) (balanced : Operation.Balanced operations) :
    let base := (ofImage image capacity).calls history
    ∃ after, Operation.popState.perform (base.calls (.pushState :: operations)) = .ok none after ∧
      base.RolledBack operations after := by
  intro base
  obtain ⟨inside, depth⟩ := inScopeOf_calls base operations balanced.within
  have even := balanced.even
  obtain ⟨after, popped, restored⟩ := inside.popState_last (by omega)
  refine ⟨after, ?_, restored.rolledBack (accounted_and_mapped image capacity history).2⟩
  have done : Operation.popState.outcome (base.calls (.pushState :: operations)) = .ok (none, after) := by
    rw [Operation.outcome, show (base.calls (.pushState :: operations)).popState = .ok after from popped]
    rfl
  rw [Operation.perform_eq, done]

/-- Inside a push and a pop the segment is loaded anew, and under a further push once more; one
load there is for good. -/
theorem balanced_calls_rolledBack_reloading :
    let history := [.loadSegment 4 0 2 .raw]
    let operations := [.loadSegment 4 1 3 .raw, .pushState, .loadSegment 4 0 3 .raw,
      .loadFixed ⟨0x07000000⟩ 0 3, .mapSegment 5 0, .popState, .install #[1]]
    let base := (ofImage #[0, 1, 2] 8).calls history
    Operation.Balanced operations ∧
    ∃ after, Operation.popState.perform (base.calls (.pushState :: operations)) = .ok none after ∧
      base.RolledBack operations after := by
  intro history operations base
  have balanced : Operation.Balanced operations := by
    refine ⟨by decide, ?_⟩
    intro front first
    have all : ∀ front ∈ operations.inits, front.count .popState ≤ front.count .pushState := by
      decide
    exact all front ((List.mem_inits _ _).mpr first)
  exact ⟨balanced, balanced_calls_rolledBack #[0, 1, 2] 8 history operations balanced⟩

end Memory

end StageScript
