import StageScript.Proofs.Redirection

/-!
Who a command is run for. As long as every override leads into another buffer and no two owners into
the same one, the buffer of a command tells who wrote it: the owner of the overrides that lead into
it, or the base content. Wherever a session is, that is its active owner.
-/

namespace StageScript

namespace Registry

variable {registry : Registry} {override : Override} {pointer : Pointer} {buffer : BufferId}

/-- Every override leads into another buffer, and overrides of different owners into different
ones. -/
structure Separate (registry : Registry) : Prop where
  apart : ∀ override ∈ registry.overrides, override.original.buffer ≠ override.replacement.buffer
  distinct : ∀ one ∈ registry.overrides, ∀ other ∈ registry.overrides,
    one.owner ≠ other.owner → one.replacement.buffer ≠ other.replacement.buffer

theorem Separate.owner_eq (separate : registry.Separate) {one other : Override}
    (first : one ∈ registry.overrides) (second : other ∈ registry.overrides)
    (same : one.replacement.buffer = other.replacement.buffer) : one.owner = other.owner :=
  Decidable.of_not_not fun different => separate.distinct one first other second different same

theorem streamOwner_of_mem (separate : registry.Separate) (member : override ∈ registry.overrides) :
    registry.streamOwner override.replacement.buffer = some override.owner := by
  unfold streamOwner
  cases found : registry.overrides.find? (·.streamsIn override.replacement.buffer) with
  | none =>
    have silent := List.find?_eq_none.mp found override member
    simp [Override.streamsIn, separate.apart override member] at silent
  | some other =>
    have streams := List.find?_some found
    simp only [Override.streamsIn, Bool.and_eq_true, beq_iff_eq] at streams
    exact congrArg some (separate.owner_eq (List.mem_of_find?_eq_some found) member streams.1)

theorem streamOwner_eq_none
    (base : ∀ override ∈ registry.overrides, override.replacement.buffer ≠ buffer) :
    registry.streamOwner buffer = none := by
  have silent : registry.overrides.find? (·.streamsIn buffer) = none :=
    List.find?_eq_none.mpr fun override member => by simp [Override.streamsIn, base override member]
  unfold streamOwner
  rw [silent]
  rfl

theorem author_of_mem (separate : registry.Separate) (member : override ∈ registry.overrides)
    (inside : override.replacement.buffer = (registry.resolve pointer).pointer.buffer) :
    registry.author pointer = some override.owner := by
  unfold author
  rw [← inside, streamOwner_of_mem separate member]
  cases wins : registry.winner? pointer with
  | none =>
    rw [resolve_of_free wins]
    rfl
  | some winner =>
    rw [resolve_of_winner wins] at inside ⊢
    exact congrArg some (separate.owner_eq (mem_of_winner wins) member inside.symm)

theorem author_eq_none (base : ∀ override ∈ registry.overrides,
    override.replacement.buffer ≠ (registry.resolve pointer).pointer.buffer) :
    registry.author pointer = none := by
  unfold author
  rw [streamOwner_eq_none base, Option.or_none]
  cases wins : registry.winner? pointer with
  | none => rw [resolve_of_free wins]
  | some winner =>
    rw [resolve_of_winner wins] at base
    exact absurd rfl (base winner (mem_of_winner wins))

end Registry

namespace Run

variable {E : Embedding} [Patches E] {run : Run E} {pointer : Pointer} {machine : Machine E}

/-- Wherever a session is, whatever its host, its host functions and its patches have done to the
overrides, the next command is run for the owner of the overrides that lead into its buffer, and for
no one in base content. -/
theorem activeOwner_isAuthor {edit : Machine E → Machine E → Prop}
    (session : (start pointer machine).Through edit (fun _ => True) run)
    (separate : run.machine.overrides.Separate) :
    (∀ override ∈ run.machine.overrides.overrides,
      override.replacement.buffer = run.cursor.buffer →
      run.machine.activeOwner = some override.owner) ∧
    ((∀ override ∈ run.machine.overrides.overrides,
      override.replacement.buffer ≠ run.cursor.buffer) → run.machine.activeOwner = none) := by
  obtain ⟨target, led⟩ := session.exists_led
  obtain ⟨cursor, owner⟩ := led.followed
  rw [cursor, owner]
  exact ⟨fun _ member inside => Registry.author_of_mem separate member inside,
    Registry.author_eq_none⟩

/-- Calls a host function, which overrides the subroutine behind the exit, and then the subroutine. -/
def annexedScript : Bytes := #[
  0x11, 8, 0, 0, 5, 0, 0, 0,
  0x06, 8, 0, 0, 20, 0, 0, 16,
  0x02, 4, 0, 0,
  0x07, 4, 0, 0]

def annexed : Run Scripted.embedding :=
  let machine := (ofScript #[] annexedScript).machine
  let (buffer, memory) := machine.memory.install #[0x13, 4, 99, 0, 0x07, 4, 0, 0]
  start ⟨0, 0⟩ ({ machine with memory }.registerHost 5 (.override ⟨⟨0, 20⟩, .startOf buffer, 9⟩))

/-- Past the first command of the stream it is still the package's, and after the return no one's. -/
theorem activeOwner_isAuthor_annexed :
    ∃ inside outside : Run Scripted.embedding, inside.cursor = ⟨1, 4⟩ ∧
      inside.machine.activeOwner = some 9 ∧ inside.Step outside ∧ outside.cursor = ⟨0, 16⟩ ∧
      outside.machine.activeOwner = none := by
  let inside := (annexed.ahead? (fun _ => True) 3).get (by decide +kernel)
  let outside := inside.next?.get (by decide +kernel)
  have arrived : annexed.Through (fun _ _ => False) (fun _ => True) inside :=
    through_of_ahead? (Option.some_get _).symm
  have step : inside.Step outside := (Option.some_get _).symm
  have returned : annexed.Through (fun _ _ => False) (fun _ => True) outside :=
    ⟨trivial, arrived.2.tail ⟨.inl step, trivial⟩⟩
  have overrides : inside.machine.overrides = ⟨[⟨⟨0, 20⟩, ⟨1, 0⟩, 9⟩]⟩ := by decide +kernel
  have kept : outside.machine.overrides = ⟨[⟨⟨0, 20⟩, ⟨1, 0⟩, 9⟩]⟩ := by decide +kernel
  have separate : Registry.Separate ⟨[⟨⟨0, 20⟩, ⟨1, 0⟩, 9⟩]⟩ := ⟨by decide, by decide⟩
  have within := (activeOwner_isAuthor arrived (overrides ▸ separate)).1
  have beyond := (activeOwner_isAuthor returned (kept ▸ separate)).2
  have there : inside.cursor = ⟨1, 4⟩ := by decide +kernel
  have back : outside.cursor = ⟨0, 16⟩ := by decide +kernel
  rw [overrides, there] at within
  rw [kept, back] at beyond
  exact ⟨inside, outside, there, within _ List.mem_cons_self rfl, step, back, beyond (by decide)⟩

end Run

end StageScript
