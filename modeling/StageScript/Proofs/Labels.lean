import StageScript.Proofs.Dispatch
import StageScript.Proofs.Drafting
import StageScript.Proofs.Operation

/-!
Labels from the call that binds them to the jump that is taken. A finished script holds the address
of the place where each of its targets is bound, and once the script lies where its draft says, that
address leads a jump to this place.
-/

namespace StageScript

namespace Address

variable {address : Address} {number : UInt8} {absolute : UInt32}

theorem of_ofParts (made : ofParts number absolute = .ok address)
    (small : absolute.toNat ≤ 0x00FFFFFF) :
    address.segment = number ∧ address.offset = absolute := by
  unfold ofParts at made
  split at made
  next =>
    cases made
    have low : absolute &&& 0x00FFFFFF = absolute := by
      have kept := Nat.and_two_pow_sub_one_eq_mod absolute.toNat 24
      rw [Nat.mod_eq_of_lt (by omega)] at kept
      exact UInt32.toNat_inj.mp kept
    have bound := number.toNat_lt
    have shifted : (number.toUInt32 <<< 24).toNat = number.toNat <<< 24 := by
      rw [UInt32.toNat_shiftLeft]
      simp only [UInt8.toNat_toUInt32, Nat.shiftLeft_eq]
      exact Nat.mod_eq_of_lt (by simp; omega)
    have raw : ((number.toUInt32 <<< 24) ||| absolute).toNat =
        number.toNat * 2 ^ 24 + absolute.toNat := by
      rw [UInt32.toNat_or, shifted, ← Nat.shiftLeft_add_eq_or_of_lt (by omega), Nat.shiftLeft_eq]
    rw [low]
    constructor
    · apply UInt8.toNat_inj.mp
      simp only [segment, UInt32.toNat_toUInt8, UInt32.toNat_shiftRight, raw]
      simp [Nat.shiftRight_eq_div_pow]
      omega
    · have kept := Nat.and_two_pow_sub_one_eq_mod (number.toNat * 2 ^ 24 + absolute.toNat) 24
      rw [Nat.mul_add_mod_self_right, Nat.mod_eq_of_lt (by omega), ← raw] at kept
      exact UInt32.toNat_inj.mp ((UInt32.toNat_and ..).trans kept)
  next => cases made

end Address

namespace Memory

variable {memory after : Memory}

/-- The bytes lie in a buffer that the segment leads into from the given base on. -/
structure Holds (memory : Memory) (segment : UInt8) (base : Nat) (buffer : BufferId)
    (bytes : Bytes) : Prop where
  live : memory.buffer? buffer = some bytes
  mapped : memory.segments[segment.toNat]?.join.or memory.fixed[segment.toNat]?.join =
    some ⟨buffer, base⟩

theorem Holds.resolve? {segment : UInt8} {base offset : Nat} {buffer : BufferId} {bytes : Bytes}
    {address : Address} (holds : memory.Holds segment base buffer bytes)
    (named : address.segment = segment) (placed : address.offset.toNat = base + offset) :
    memory.resolve? address = some ⟨buffer, offset⟩ := by
  rw [Memory.resolve?, named]
  simp only [holds.mapped, Option.bind_eq_bind, Option.bind_some, placed, Nat.le_add_right,
    isLive_of_buffer? holds.live, and_self, if_true, Nat.add_sub_cancel_left]

theorem holds_of_mapSegment {segment : UInt8} {buffer : BufferId} {bytes : Bytes}
    (live : memory.buffer? buffer = some bytes)
    (mapped : memory.mapSegment segment.toNat buffer = .ok after) :
    after.Holds segment 0 buffer bytes := by
  obtain ⟨index, found, -, rfl⟩ := mapSegment_eq_ok mapped
  refine ⟨live, ?_⟩
  simp [← val_of_segmentIndex found]

theorem holds_of_loadFixed {dest : Address} {start stop : Nat} {buffer : BufferId} {bytes : Bytes}
    (read : memory.readImage start stop = .ok bytes)
    (unmapped : memory.segments[dest.segment.toNat]?.join = none)
    (loaded : memory.loadFixed dest start stop = .ok (buffer, after)) :
    after.Holds dest.segment dest.offset.toNat buffer bytes := by
  obtain ⟨index, _, found, again, rfl, rfl⟩ := loadFixed_eq_ok loaded
  rw [read, Except.ok.injEq] at again
  subst again
  refine ⟨?_, ?_⟩
  · simp [buffer?]
  · simp only [unmapped, Option.none_or]
    simp [← val_of_segmentIndex found]

end Memory

namespace Assembly

def Reference.Covers (layout : Layout) (reference : Reference) (index : Nat) : Prop :=
  reference.place ≤ index ∧ index < reference.place + layout.pointerWidth.bytes

theorem getElem?_foldl_patch_of_uncovered {layout : Layout} {addressOf : Label → Address}
    {references : List Reference} {bytes : Bytes} {index : Nat}
    (bare : ∀ reference ∈ references, ¬reference.Covers layout index) :
    (references.foldl (Reference.patch layout addressOf) bytes)[index]? = bytes[index]? := by
  induction references generalizing bytes with
  | nil => rfl
  | cons reference rest ih =>
    obtain ⟨outside, others⟩ := List.forall_mem_cons.mp bare
    unfold Reference.Covers at outside
    rw [List.foldl_cons, ih others, Reference.patch, getElem?_overwrite, if_neg]
    rw [pointerBytes, ByteOrder.length_encode]
    omega

/-- A statement that jumps to a label when the register is as given, and whether it leaves a frame
to return by. -/
inductive Statement.Jumps (register : Int32) : Statement → Label → (links : Bool) → Prop where
  | jump (label : Label) : Jumps register (.jump (.label label)) label false
  | jumpLink (label : Label) : Jumps register (.jumpLink (.label label)) label true
  | jumpIf {comparison : Comparison} {literal : Int32} (label : Label)
    (taken : comparison.holds register literal) :
    Jumps register (.jumpIf comparison literal (.label label)) label false
  | jumpLinkIf {comparison : Comparison} {literal : Int32} (label : Label)
    (taken : comparison.holds register literal) :
    Jumps register (.jumpLinkIf comparison literal (.label label)) label true

theorem Statement.Jumps.mem_labels {register : Int32} {statement : Statement} {label : Label}
    {links : Bool} (jumps : statement.Jumps register label links) : label ∈ statement.labels := by
  cases jumps <;> exact List.mem_cons_self

end Assembly

namespace Machine

open Assembly

variable {E : Embedding} {machine : Machine E} {addressOf : Label → Address} {buffer : BufferId}
  {statement : Statement}

theorem exec_of_jumps {label : Label} {links : Bool} {following pointer : Pointer}
    (jumps : statement.Jumps machine.context.register label links)
    (leads : machine.memory.resolve? (addressOf label) = some pointer) :
    machine.exec (statement.instruction addressOf) following =
      if links then machine.push (.ret following) (.goto pointer) else machine.goto pointer := by
  cases jumps with
  | jump => simp [exec, Statement.instruction, Target.resolve, jump, leads]
  | jumpLink => simp [exec, Statement.instruction, Target.resolve, jumpLink, leads]
  | jumpIf _ taken =>
    simp [exec, Statement.instruction, Target.resolve, whenHolds, Condition.holds, taken, jump,
      leads]
  | jumpLinkIf _ taken =>
    simp [exec, Statement.instruction, Target.resolve, whenHolds, Condition.holds, taken, jumpLink,
      leads]

theorem step_script [Patches E] {canonical : Bool} (before after : List Statement)
    (live : machine.memory.buffer? buffer = some (script machine.config.layout
      ((before ++ statement :: after).map (Statement.resolve addressOf))))
    (handler : machine.handler? canonical statement.opcode.code =
      some (.canonical statement.opcode)) :
    machine.step canonical ⟨buffer, lengthOf machine.config.layout before⟩ =
      settle ⟨buffer, lengthOf machine.config.layout (before ++ [statement])⟩
        ⟨buffer, lengthOf machine.config.layout before⟩
        (machine.exec (statement.instruction addressOf)
          ⟨buffer, lengthOf machine.config.layout (before ++ [statement])⟩) := by
  rw [step_of_handler live (decode_script before after statement buffer) handler
    statement.read_command, statement.next_command, lengthOf_append, lengthOf_singleton]
  rfl

end Machine

namespace Assembly

section Offence

variable {layout : Layout} {segment : UInt8} {base : UInt32} {calls : List Call} {label : Label}

theorem offence?_eq_none : offence? layout segment base calls label = none ↔
    segment.toNat < segmentCount ∧
      ∃ offset, boundAt layout calls label = some offset ∧ base.toNat + offset ≤ 0x00FFFFFF := by
  unfold offence? limit32
  cases boundAt layout calls label with
  | none => simp
  | some offset =>
    simp only [Option.some.injEq, exists_eq_left']
    split_ifs <;> simp <;> omega

theorem addressAt_of_bound {offset : Nat} (below : segment.toNat < segmentCount)
    (bound : boundAt layout calls label = some offset) (small : base.toNat + offset ≤ 0x00FFFFFF) :
    (addressAt layout segment base calls label).segment = segment ∧
      (addressAt layout segment base calls label).offset.toNat = base.toNat + offset := by
  have whole : (UInt32.ofNat (base.toNat + offset)).toNat = base.toNat + offset :=
    UInt32.toNat_ofNat_of_lt' (Nat.lt_of_le_of_lt small (by decide))
  have made : Address.ofParts segment (UInt32.ofNat (base.toNat + offset)) =
      .ok (addressAt layout segment base calls label) := by
    rw [addressAt, bound, Option.getD_some, Address.ofParts, if_pos below]
    rfl
  obtain ⟨named, placed⟩ := Address.of_ofParts made (by rwa [whole])
  exact ⟨named, by rw [placed, whole]⟩

end Offence

/-- Where the labels of a finished script lead, for a base in a segment. -/
structure Draft.Resolved (layout : Layout) (segment : UInt8) (base : UInt32) (calls : List Call)
    (draft : Draft) (bytes : Bytes) : Prop where
  addresses : ∀ label ∈ targets calls, ∃ offset, boundAt layout calls label = some offset ∧
    (addressAt layout segment base calls label).segment = segment ∧
    (addressAt layout segment base calls label).offset.toNat = base.toNat + offset
  /-- The script is what the same calls write with addresses in place of labels. -/
  rewritten : ∃ resolved, (fresh layout segment base).performAll
      (calls.map (Call.resolve (addressAt layout segment base calls))) = .ok resolved ∧
    resolved.bytes = bytes
  size : bytes.size = draft.bytes.size
  /-- Only operands that wait for a label are not as they were emitted. -/
  elsewhere : ∀ index, (∀ reference ∈ draft.references, ¬reference.Covers layout index) →
    bytes[index]? = draft.bytes[index]?
  mapped : base = 0 → ∀ (memory after : Memory) (buffer : BufferId),
    memory.buffer? buffer = some bytes → memory.mapSegment segment.toNat buffer = .ok after →
      after.Holds segment base.toNat buffer bytes
  loaded : ∀ (memory after : Memory) (dest : Address) (start stop : Nat) (buffer : BufferId),
    dest.segment = segment → dest.offset = base → memory.readImage start stop = .ok bytes →
      memory.segments[segment.toNat]?.join = none →
      memory.loadFixed dest start stop = .ok (buffer, after) →
        after.Holds segment base.toNat buffer bytes
  /-- A jump that is taken submits the place where its label is bound to the overrides; one that
  leaves a frame does so once it has pushed it. -/
  lands : ∀ {E : Embedding} [Patches E] (machine : Machine E) (canonical : Bool)
    (buffer : BufferId), machine.config.layout = layout →
    machine.memory.Holds segment base.toNat buffer bytes →
    ∀ before statement after label links, statements calls = before ++ statement :: after →
    statement.Jumps machine.context.register label links →
    machine.handler? canonical statement.opcode.code = some (.canonical statement.opcode) →
    ∃ offset, boundAt layout calls label = some offset ∧
      machine.step canonical ⟨buffer, lengthOf layout before⟩ =
        Machine.settle ⟨buffer, lengthOf layout (before ++ [statement])⟩
          ⟨buffer, lengthOf layout before⟩
          (if links then
            machine.push (.ret ⟨buffer, lengthOf layout (before ++ [statement])⟩)
              (.goto ⟨buffer, offset⟩)
          else machine.goto ⟨buffer, offset⟩)

/-- What becomes of the labels in a draft that calls have written for a base in a segment. -/
structure Draft.Linked (layout : Layout) (segment : UInt8) (base : UInt32) (calls : List Call)
    (draft : Draft) : Prop where
  finishes : (∃ bytes, draft.finish = .ok bytes) ↔ ∀ label ∈ targets calls,
    segment.toNat < segmentCount ∧
      ∃ offset, boundAt layout calls label = some offset ∧ base.toNat + offset ≤ 0x00FFFFFF
  /-- The first target that is not in order is the one that finishing fails for. -/
  fails : ∀ error, draft.finish = .error error ↔ ∃ before label after,
    targets calls = before ++ label :: after ∧
      offence? layout segment base calls label = some error ∧
      ∀ earlier ∈ before, offence? layout segment base calls earlier = none
  resolved : ∀ bytes, draft.finish = .ok bytes → draft.Resolved layout segment base calls bytes

namespace Draft

variable {layout : Layout} {segment : UInt8} {base : UInt32} {calls : List Call} {draft : Draft}

theorem After.finish_eq_ok {bytes : Bytes} (after : draft.After layout segment base calls) :
    draft.finish = .ok bytes ↔
      (∀ label ∈ Assembly.targets calls, offence? layout segment base calls label = none) ∧
        bytes = script layout ((statements calls).map
          (Statement.resolve (addressAt layout segment base calls))) := by
  rw [after.finish_eq, ← List.findSome?_eq_none_iff]
  cases (Assembly.targets calls).findSome? (offence? layout segment base calls) with
  | some error => simp
  | none => simp [eq_comm]

theorem resolved_of_performAll {bytes : Bytes}
    (performed : (fresh layout segment base).performAll calls = .ok draft)
    (finished : draft.finish = .ok bytes) : draft.Resolved layout segment base calls bytes := by
  have after := after_of_performAll performed
  obtain ⟨sound, rfl⟩ := after.finish_eq_ok.mp finished
  have addresses : ∀ label ∈ Assembly.targets calls, ∃ offset,
      boundAt layout calls label = some offset ∧
        (addressAt layout segment base calls label).segment = segment ∧
        (addressAt layout segment base calls label).offset.toNat = base.toNat + offset := by
    intro label used
    obtain ⟨below, offset, bound, small⟩ := offence?_eq_none.mp (sound label used)
    exact ⟨offset, bound, addressAt_of_bound below bound small⟩
  have patched := after.patched (addressAt layout segment base calls)
  refine ⟨addresses, ?_, ?_, ?_, ?_, ?_, ?_⟩
  · obtain ⟨resolved, again⟩ := exists_performAll_resolve calls
      (addressAt layout segment base calls) (fresh layout segment base)
    exact ⟨resolved, again, bytes_of_performAll_resolve again⟩
  · rw [← patched, size_foldl_patch]
  · intro index bare
    rw [← patched]
    exact getElem?_foldl_patch_of_uncovered fun reference found =>
      bare reference (Array.mem_toList_iff.mp found)
  · rintro rfl memory after buffer live mapped
    exact Memory.holds_of_mapSegment live mapped
  · rintro memory after dest start stop buffer rfl rfl read unmapped loaded
    exact Memory.holds_of_loadFixed read unmapped loaded
  · rintro E _ machine canonical buffer rfl holds before statement rest label links written jumps
      handler
    have used : label ∈ Assembly.targets calls := by
      rw [Assembly.targets, written]
      exact List.mem_flatMap.mpr ⟨statement, by simp, jumps.mem_labels⟩
    obtain ⟨offset, bound, named, placed⟩ := addresses label used
    refine ⟨offset, bound, ?_⟩
    rw [written] at holds
    rw [Machine.step_script before rest holds.live handler,
      Machine.exec_of_jumps jumps (holds.resolve? named placed)]

/-- Finishing succeeds as long as every target is bound where an address leads, and then every jump
leads to the place where its label is bound. -/
theorem labels_linked (layout : Layout) (segment : UInt8) (base : UInt32) (calls : List Call) :
    (offsetAfter layout calls ≤ limit64 →
      ∃ draft, (fresh layout segment base).performAll calls = .ok draft) ∧
    ∀ draft, (fresh layout segment base).performAll calls = .ok draft →
      draft.Linked layout segment base calls := by
  refine ⟨exists_performAll layout segment base calls, fun draft performed => ?_⟩
  have after := after_of_performAll performed
  refine ⟨?_, fun error => ?_, fun bytes => resolved_of_performAll performed⟩
  · simp only [after.finish_eq_ok, exists_and_left, exists_eq, and_true, offence?_eq_none]
  · rw [after.finish_eq, ← List.findSome?_eq_some_iff]
    cases (Assembly.targets calls).findSome? (offence? layout segment base calls) with
    | some other => simp
    | none => simp

/-- A jump forwards over a jump backwards. -/
def crossing : List Call :=
  [.newLabel, .newLabel, .emit (.jump (.label ⟨1⟩)), .bind ⟨0⟩, .emit (.sleep 3), .bind ⟨1⟩,
    .bind ⟨0⟩, .emit (.jumpLinkIf .equal 0 (.label ⟨0⟩)), .emit .exit]

theorem labels_linked_crossing :
    boundAt ⟨.wide, .big⟩ crossing ⟨0⟩ = some 16 ∧ boundAt ⟨.wide, .big⟩ crossing ⟨1⟩ = some 24 ∧
      ∃ draft, (fresh ⟨.wide, .big⟩ 14 0x100).performAll crossing = .ok draft ∧
        ∃ bytes, draft.finish = .ok bytes ∧
          draft.Resolved ⟨.wide, .big⟩ 14 0x100 crossing bytes := by
  obtain ⟨exists_draft, linked⟩ := labels_linked ⟨.wide, .big⟩ 14 0x100 crossing
  obtain ⟨draft, performed⟩ := exists_draft (by decide)
  obtain ⟨bytes, finished⟩ := (linked draft performed).finishes.mpr fun label used =>
    offence?_eq_none.mp (by revert label; decide)
  exact ⟨by decide, by decide, draft, performed, bytes, finished,
    (linked draft performed).resolved bytes finished⟩

end Draft

end Assembly

end StageScript
