import Mathlib.Data.List.Infix
import StageScript.Arena
import StageScript.Bytes

/-!
Handles never alias. Places in an arena are given out anew after each release, so a handle carries the
number of releases that went before it, and both of its numbers have 32 bits. As long as they do not
run over, a handle finds what was stored through it last until the next release and nothing from
then on, and no two allocations answer the same handle.
-/

namespace StageScript.Arena

variable {α : Type} {arena between after : Arena α} {value : α} {handle other : Handle}

/-- What a handle finds in the one arena it finds in the other, too, which is no smaller. -/
structure Extends (before after : Arena α) : Prop where
  found : ∀ handle value, before.get? handle = some value → after.get? handle = some value
  size : before.size ≤ after.size

theorem Extends.refl (arena : Arena α) : arena.Extends arena :=
  ⟨fun _ _ found => found, Nat.le_refl _⟩

theorem Extends.trans (first : arena.Extends between) (second : between.Extends after) :
    arena.Extends after where
  found handle value there := second.found handle value (first.found handle value there)
  size := Nat.le_trans first.size second.size

theorem size_allocate (arena : Arena α) (value : α) :
    (arena.allocate value).2.size = arena.size + 1 :=
  Array.size_push value

theorem extends_allocate (arena : Arena α) (value : α) :
    arena.Extends (arena.allocate value).2 where
  found handle other there := by
    unfold get? at there ⊢
    split at there
    next issued =>
      obtain ⟨inside, rfl⟩ := Array.getElem?_eq_some_iff.mp there
      exact (if_pos issued).trans (Array.getElem?_push_lt inside)
    next => cases there
  size := by
    rw [size_allocate]
    exact Nat.le_succ _

section Room

variable (room : arena.size < limit32)
include room

theorem index_allocate (value : α) : (arena.allocate value).1.index.toNat = arena.size := by
  unfold limit32 at room
  simp only [allocate, UInt32.toNat_ofNat']
  exact Nat.mod_eq_of_lt room

theorem get?_allocate (value : α) :
    (arena.allocate value).2.get? (arena.allocate value).1 = some value := by
  have index := index_allocate room value
  have issued : (arena.allocate value).1.generation = (arena.allocate value).2.generation := rfl
  unfold get?
  rw [if_pos issued, index]
  exact Array.getElem?_push_size

theorem get?_allocate_before (value : α) : arena.get? (arena.allocate value).1 = none := by
  have index := index_allocate room value
  have issued : (arena.allocate value).1.generation = arena.generation := rfl
  unfold get?
  rw [if_pos issued, index]
  exact Array.getElem?_eq_none (Nat.le_refl _)

end Room

theorem generation_of_get? (found : arena.get? handle = some value) :
    handle.generation = arena.generation := by
  unfold get? at found
  split at found
  next issued => exact issued
  next => cases found

theorem get?_of_stale (stale : handle.generation ≠ arena.generation) : arena.get? handle = none :=
  if_neg stale

theorem size_modify (change : α → α) : (arena.modify handle change).size = arena.size := by
  unfold modify
  split
  next => exact Array.size_modify
  next => rfl

theorem generation_modify (change : α → α) :
    (arena.modify handle change).generation = arena.generation := by
  unfold modify
  split <;> rfl

theorem get?_modify (change : α → α) :
    (arena.modify handle change).get? other =
      if other = handle then (arena.get? other).map change else arena.get? other := by
  unfold get?
  rw [generation_modify]
  by_cases issued : other.generation = arena.generation
  · unfold modify
    by_cases live : handle.generation = arena.generation
    · have same : other = handle ↔ handle.index.toNat = other.index.toNat := by
        rw [UInt32.toNat_inj, Handle.mk.injEq, issued, live]
        exact ⟨fun same => same.1.symm, fun same => ⟨same.symm, rfl⟩⟩
      simp only [if_pos issued, if_pos live, Array.getElem?_modify, same]
    · have apart : other ≠ handle := fun same => live (same ▸ issued)
      simp only [if_pos issued, if_neg live, if_neg apart]
  · simp only [if_neg issued, Option.map_none, ite_self]

/-- The value that a live handle finds, with the arena for whatever is put in its place. -/
def lend? (arena : Arena α) (handle : Handle) : Option (α × (α → Arena α)) :=
  if handle.generation = arena.generation then
    if inside : handle.index.toNat < arena.entries.size then
      some (arena.entries[handle.index.toNat], fun value =>
        { arena with entries := arena.entries.set handle.index.toNat value })
    else none
  else none

theorem modify_eq_lend (arena : Arena α) (handle : Handle) (change : α → α) :
    arena.modify handle change = match arena.lend? handle with
      | some (value, store) => store (change value)
      | none => arena := by
  unfold modify lend?
  split
  next =>
    by_cases inside : handle.index.toNat < arena.entries.size
    · have changed : arena.entries.modify handle.index.toNat change =
          arena.entries.set handle.index.toNat (change arena.entries[handle.index.toNat]) := by
        refine Array.ext_getElem? fun place => ?_
        rw [Array.getElem?_modify, Array.getElem?_set]
        split
        next same => simp [← same, inside]
        next => rfl
      simp only [dif_pos inside, changed]
    · have unchanged : arena.entries.modify handle.index.toNat change = arena.entries := by
        refine Array.ext_getElem? fun place => ?_
        rw [Array.getElem?_modify]
        split
        next same => simp [← same, Nat.not_lt.mp inside]
        next => rfl
      simp only [dif_neg inside, unchanged]
  next => rfl

theorem fst_lend? (arena : Arena α) (handle : Handle) :
    (arena.lend? handle).map Prod.fst = arena.get? handle := by
  unfold lend? get?
  split
  next =>
    split
    next inside => exact (Array.getElem?_eq_getElem inside).symm
    next outside => exact (Array.getElem?_eq_none (Nat.not_lt.mp outside)).symm
  next => rfl

/-- What is done with an arena: whoever has a handle may change what it finds. -/
inductive Operation (α : Type) where
  | allocate (value : α)
  | modify (handle : Handle) (change : α → α)
  | clear

/-- An allocation as its caller keeps account of it: the handle that was answered, and the value that
was last stored through that handle, absent once the arena has been cleared. -/
structure Allocation (α : Type) where
  handle : Handle
  stored : Option α
  deriving DecidableEq, Repr

def Allocation.changed (handle : Handle) (change : α → α) (allocation : Allocation α) :
    Allocation α :=
  if allocation.handle = handle then { allocation with stored := allocation.stored.map change }
  else allocation

theorem Allocation.handle_changed (handle : Handle) (change : α → α) (allocation : Allocation α) :
    (allocation.changed handle change).handle = allocation.handle := by
  unfold changed
  split <;> rfl

theorem Allocation.stored_changed (handle : Handle) (change : α → α) (allocation : Allocation α) :
    (allocation.changed handle change).stored =
      if allocation.handle = handle then allocation.stored.map change else allocation.stored := by
  unfold changed
  split <;> rfl

namespace Operation

def isAllocate : Operation α → Bool
  | .allocate _ => true
  | _ => false

def isClear : Operation α → Bool
  | .clear => true
  | _ => false

/-- A change is made in the place that is lent for it, and nowhere when none is. -/
def perform (arena : Arena α) : Operation α → Arena α
  | .allocate value => (arena.allocate value).2
  | .modify handle change =>
    match arena.lend? handle with
    | some (value, store) => store (change value)
    | none => arena
  | .clear => arena.clear

/-- The accounts after an operation on an arena, which has to do with them only by its answer. -/
def record (arena : Arena α) (allocations : List (Allocation α)) :
    Operation α → List (Allocation α)
  | .allocate value => allocations ++ [⟨(arena.allocate value).1, some value⟩]
  | .modify handle change => allocations.map (·.changed handle change)
  | .clear => allocations.map ({ · with stored := none })

def entriesSince (operations : List (Operation α)) : Nat :=
  (operations.reverse.takeWhile (!·.isClear)).countP isAllocate

variable {operations more : List (Operation α)}

theorem entriesSince_allocate (operations : List (Operation α)) (value : α) :
    entriesSince (operations ++ [.allocate value]) = entriesSince operations + 1 := by
  rw [entriesSince, List.reverse_append]
  exact List.countP_cons_of_pos rfl

theorem entriesSince_modify (operations : List (Operation α)) (handle : Handle) (change : α → α) :
    entriesSince (operations ++ [.modify handle change]) = entriesSince operations := by
  rw [entriesSince, List.reverse_append]
  exact List.countP_cons_of_neg Bool.false_ne_true

theorem entriesSince_clear (operations : List (Operation α)) :
    entriesSince (operations ++ [.clear]) = 0 := by
  rw [entriesSince, List.reverse_append]
  rfl

theorem entriesSince_le (operations : List (Operation α)) :
    entriesSince operations ≤ operations.length :=
  calc entriesSince operations
    _ ≤ (operations.reverse.takeWhile (!·.isClear)).length := List.countP_le_length
    _ ≤ operations.reverse.length := (List.takeWhile_prefix _).length_le
    _ = operations.length := List.length_reverse

/-- Neither the releases nor the entries between two of them are ever more than 32 bits can count. -/
structure Countable (operations : List (Operation α)) : Prop where
  clears : operations.countP isClear < limit32
  entries : ∀ front, front <+: operations → entriesSince front < limit32

theorem countable_of_length (few : operations.length < limit32) : Countable operations where
  clears := Nat.lt_of_le_of_lt List.countP_le_length few
  entries front begins :=
    Nat.lt_of_le_of_lt (Nat.le_trans (entriesSince_le front) begins.length_le) few

theorem Countable.of_append (countable : Countable (operations ++ more)) : Countable operations where
  clears := by
    have all := countable.clears
    rw [List.countP_append] at all
    exact Nat.lt_of_le_of_lt (Nat.le_add_right _ _) all
  entries front begins := countable.entries front (begins.trans (List.prefix_append _ _))

end Operation

/-- An arena after some operations on an empty one, with the accounts of all allocations. -/
def recorded (operations : List (Operation α)) : Arena α × List (Allocation α) :=
  operations.foldl (fun state operation =>
    (operation.perform state.1, operation.record state.1 state.2)) (empty, [])

/-- Both ways to use a handle come to this value, or to nothing. -/
structure Finds (arena : Arena α) (handle : Handle) (stored : Option α) : Prop where
  reads : arena.get? handle = stored
  lends : (arena.lend? handle).map Prod.fst = stored

/-- The accounts are right about the arena, and its numbers have not run over. -/
structure Keeps (operations : List (Operation α)) (arena : Arena α)
    (allocations : List (Allocation α)) : Prop where
  clears : arena.generation.toNat = operations.countP (·.isClear)
  entries : arena.size = Operation.entriesSince operations
  live : ∀ allocation ∈ allocations, ∀ value, allocation.stored = some value →
    arena.get? allocation.handle = some value
  stale : ∀ allocation ∈ allocations, allocation.stored = none →
    allocation.handle.generation < arena.generation
  distinct : allocations.Pairwise fun one other => one.handle ≠ other.handle

namespace Keeps

theorem empty : Keeps [] (.empty : Arena α) [] where
  clears := rfl
  entries := rfl
  live := by simp
  stale := by simp
  distinct := .nil

variable {operations : List (Operation α)} {allocations : List (Allocation α)}
  (keeps : Keeps operations arena allocations)
include keeps

theorem finds {allocation : Allocation α} (kept : allocation ∈ allocations) :
    arena.Finds allocation.handle allocation.stored := by
  have reads : arena.get? allocation.handle = allocation.stored := by
    cases stored : allocation.stored with
    | some value => exact keeps.live allocation kept value stored
    | none => exact get?_of_stale (UInt32.ne_of_lt (keeps.stale allocation kept stored))
  exact ⟨reads, (fst_lend? arena _).trans reads⟩

theorem generation_le {allocation : Allocation α} (kept : allocation ∈ allocations) :
    allocation.handle.generation ≤ arena.generation := by
  cases stored : allocation.stored with
  | some value =>
    have found := keeps.live allocation kept value stored
    exact UInt32.le_of_eq (generation_of_get? found)
  | none => exact UInt32.le_of_lt (keeps.stale allocation kept stored)

theorem allocate {value : α} (countable : Operation.Countable (operations ++ [.allocate value])) :
    Keeps (operations ++ [.allocate value]) (arena.allocate value).2
      (allocations ++ [⟨(arena.allocate value).1, some value⟩]) := by
  have entries : arena.size + 1 = Operation.entriesSince (operations ++ [.allocate value]) := by
    rw [Operation.entriesSince_allocate, keeps.entries]
  have room : arena.size < limit32 := by
    have counted := countable.entries _ (List.prefix_refl _)
    omega
  constructor
  case clears =>
    rw [List.countP_append, ← keeps.clears]
    rfl
  case entries => exact (size_allocate arena value).trans entries
  case live =>
    intro allocation member stored same
    rcases List.mem_append.mp member with old | new
    · exact (extends_allocate arena value).found _ _ (keeps.live allocation old stored same)
    · cases List.mem_singleton.mp new
      cases same
      exact get?_allocate room value
  case stale =>
    intro allocation member none
    rcases List.mem_append.mp member with old | new
    · exact keeps.stale allocation old none
    · cases List.mem_singleton.mp new
      cases none
  case distinct =>
    refine List.pairwise_append.mpr ⟨keeps.distinct, List.pairwise_singleton _ _, ?_⟩
    intro allocation old fresh new same
    cases List.mem_singleton.mp new
    -- a handle that is live finds a value, which the new one did not before; any other one is older
    cases stored : allocation.stored with
    | some kept =>
      have there := keeps.live allocation old kept stored
      rw [same, get?_allocate_before room] at there
      cases there
    | none =>
      have older := keeps.stale allocation old stored
      rw [same] at older
      exact UInt32.lt_irrefl _ older

theorem modify (handle : Handle) (change : α → α) :
    Keeps (operations ++ [.modify handle change]) (arena.modify handle change)
      (allocations.map (·.changed handle change)) where
  clears := by
    rw [generation_modify, List.countP_append, ← keeps.clears]
    rfl
  entries := by
    rw [size_modify, Operation.entriesSince_modify, keeps.entries]
  live allocation member value same := by
    obtain ⟨before, kept, rfl⟩ := List.mem_map.mp member
    rw [get?_modify, Allocation.handle_changed, ← same, Allocation.stored_changed]
    rw [(keeps.finds kept).reads]
  stale allocation member none := by
    obtain ⟨before, kept, rfl⟩ := List.mem_map.mp member
    rw [generation_modify, Allocation.handle_changed]
    refine keeps.stale before kept ?_
    rw [Allocation.stored_changed] at none
    split at none
    next => exact Option.map_eq_none_iff.mp none
    next => exact none
  distinct := by
    rw [List.pairwise_map]
    simp only [Allocation.handle_changed]
    exact keeps.distinct

theorem clear (countable : Operation.Countable (operations ++ [.clear])) :
    Keeps (operations ++ [.clear]) arena.clear (allocations.map ({ · with stored := none })) := by
  have counted : operations.countP (·.isClear) + 1 < limit32 := by
    have all := countable.clears
    rwa [List.countP_append] at all
  have next : arena.clear.generation.toNat = arena.generation.toNat + 1 := by
    rw [← keeps.clears] at counted
    simp only [Arena.clear, UInt32.toNat_add, UInt32.toNat_one]
    exact Nat.mod_eq_of_lt counted
  constructor
  case clears =>
    rw [next, keeps.clears, List.countP_append]
    rfl
  case entries => exact (Operation.entriesSince_clear operations).symm
  case live =>
    intro allocation member value same
    obtain ⟨_, _, rfl⟩ := List.mem_map.mp member
    cases same
  case stale =>
    intro allocation member _
    obtain ⟨before, kept, rfl⟩ := List.mem_map.mp member
    have older := UInt32.le_iff_toNat_le.mp (keeps.generation_le kept)
    rw [UInt32.lt_iff_toNat_lt, next]
    exact Nat.lt_succ_of_le older
  case distinct =>
    rw [List.pairwise_map]
    exact keeps.distinct

end Keeps

theorem keeps_recorded {operations : List (Operation α)} (countable : Operation.Countable operations) :
    Keeps operations (recorded operations).1 (recorded operations).2 := by
  induction operations using List.reverseRecOn with
  | nil => exact .empty
  | append_singleton before last ih =>
    have kept := ih countable.of_append
    rw [recorded, List.foldl_append]
    cases last with
    | allocate value => exact kept.allocate countable
    | modify handle change =>
      have kept := kept.modify handle change
      rw [modify_eq_lend] at kept
      exact kept
    | clear => exact kept.clear countable

/-- Whatever has been done with an arena, as long as its numbers have not run over, each handle that an
allocation has answered finds just what was last stored through it, or nothing if there has been a
release since, and each allocation has answered a handle of its own. -/
theorem handles_neverAlias (operations : List (Operation α))
    (countable : Operation.Countable operations) :
    let arena := (recorded operations).1
    let allocations := (recorded operations).2
    (∀ allocation ∈ allocations, arena.Finds allocation.handle allocation.stored) ∧
      allocations.Pairwise fun one other => one.handle ≠ other.handle := by
  intro arena allocations
  have keeps := keeps_recorded countable
  exact ⟨fun _ => keeps.finds, keeps.distinct⟩

/-- The second allocation is given the place of the first one, and the handle of that is used again after
the release, in vain. -/
def reused : List (Operation Nat) :=
  [.allocate 1, .modify ⟨0, 0⟩ (· + 4), .clear, .allocate 2, .modify ⟨0, 0⟩ (· + 8),
    .modify ⟨0, 1⟩ (· * 3)]

theorem handles_neverAlias_reused :
    Operation.Countable reused ∧ (recorded reused).2 = [⟨⟨0, 0⟩, none⟩, ⟨⟨0, 1⟩, some 6⟩] ∧
      (recorded reused).1.Finds ⟨0, 0⟩ none ∧ (recorded reused).1.Finds ⟨0, 1⟩ (some 6) := by
  have countable : Operation.Countable reused := Operation.countable_of_length (by decide)
  have allocations : (recorded reused).2 = [⟨⟨0, 0⟩, none⟩, ⟨⟨0, 1⟩, some 6⟩] := by decide
  have finds := (handles_neverAlias reused countable).1
  simp only [allocations, List.forall_mem_cons] at finds
  exact ⟨countable, allocations, finds.1, finds.2.1⟩

end StageScript.Arena
