import StageScript.Proofs.Labels
import StageScript.Proofs.Nesting

/-!
Fixed loads and the addresses that show them. A segment has one mapping for its fixed loads, which
is looked at only while the segment table has none for that segment. So a fixed load is found where
it was put unless the segment table hides it, and it takes the segment away from the fixed load
before it and from nothing else.
-/

namespace StageScript

namespace Address

theorem toNat_segment (address : Address) : address.segment.toNat = address.raw.toNat / 2 ^ 24 := by
  have bound := address.raw.toNat_lt
  rw [segment, UInt32.toNat_toUInt8, UInt32.toNat_shiftRight, Nat.shiftRight_eq_div_pow]
  exact Nat.mod_eq_of_lt (by simp; omega)

theorem toNat_offset (address : Address) : address.offset.toNat = address.raw.toNat % 2 ^ 24 :=
  Nat.and_two_pow_sub_one_eq_mod address.raw.toNat 24

def advance (address : Address) (count : Nat) : Address := ⟨address.raw + UInt32.ofNat count⟩

theorem advance_of_room {address : Address} {count : Nat}
    (room : address.offset.toNat + count ≤ 0x00FFFFFF) :
    (address.advance count).segment = address.segment ∧
      (address.advance count).offset.toNat = address.offset.toNat + count := by
  have bound := address.raw.toNat_lt
  have offset := address.toNat_offset
  have raw : (address.advance count).raw.toNat = address.raw.toNat + count := by
    simp only [advance, UInt32.toNat_add, UInt32.toNat_ofNat']
    omega
  constructor
  · apply UInt8.toNat_inj.mp
    rw [toNat_segment, toNat_segment, raw]
    omega
  · rw [toNat_offset, raw]
    omega

end Address

namespace Memory

variable {memory after : Memory} {dest address : Address} {start stop : Nat} {id : BufferId}

def mapping? (memory : Memory) (segment : UInt8) : Option Mapping :=
  memory.segments[segment.toNat]?.join.or memory.fixed[segment.toNat]?.join

/-- The segment table maps the segment, so that a fixed load to it cannot be seen. -/
def Hides (memory : Memory) (segment : UInt8) : Prop :=
  (memory.segments[segment.toNat]?.join).isSome

theorem resolve?_eq_some {place : Pointer} :
    memory.resolve? address = some place ↔
      ∃ mapping, memory.mapping? address.segment = some mapping ∧
        mapping.buffer = place.buffer ∧ mapping.base + place.offset = address.offset.toNat ∧
        memory.isLive place.buffer := by
  obtain ⟨buffer, offset⟩ := place
  simp only [resolve?, mapping?, Option.bind_eq_bind, Option.bind_eq_some_iff,
    Option.ite_none_right_eq_some, Option.some.injEq, Pointer.mk.injEq]
  constructor
  · rintro ⟨mapping, mapped, ⟨inside, live⟩, rfl, rfl⟩
    exact ⟨mapping, mapped, rfl, Nat.add_sub_of_le inside, live⟩
  · rintro ⟨mapping, mapped, rfl, placed, live⟩
    exact ⟨mapping, mapped, ⟨by omega, live⟩, rfl, by omega⟩

/-- A fixed load does not touch a segment unless it is its own and the segment table has no mapping
for it. -/
theorem mapping?_of_spared {segment : UInt8}
    (loaded : memory.loadFixed dest start stop = .ok (id, after))
    (spared : segment = dest.segment → memory.Hides dest.segment) :
    after.mapping? segment = memory.mapping? segment := by
  obtain ⟨index, bytes, found, _, rfl, rfl⟩ := loadFixed_eq_ok loaded
  by_cases own : segment = dest.segment
  · obtain ⟨mapping, mapped⟩ := Option.isSome_iff_exists.mp (spared own)
    rw [← own] at mapped
    simp only [mapping?, mapped, Option.some_or]
  · have other : index.val ≠ segment.toNat := fun same =>
      own (UInt8.toNat_inj.mp (same.symm.trans (val_of_segmentIndex found)))
    rw [mapping?, mapping?, Vector.getElem?_set_ne index.isLt other]

theorem buffer?_loadFixed (loaded : memory.loadFixed dest start stop = .ok (id, after)) :
    after.buffer? id = some (memory.image.extract start stop) := by
  obtain ⟨_, bytes, _, read, rfl, rfl⟩ := loadFixed_eq_ok loaded
  unfold readImage at read
  split at read
  next =>
    cases read
    simp [buffer?]
  next => cases read

theorem mapping?_of_shown (loaded : memory.loadFixed dest start stop = .ok (id, after))
    (shown : ¬ memory.Hides dest.segment) :
    after.mapping? dest.segment = some ⟨id, dest.offset.toNat⟩ := by
  obtain ⟨_, _, _, read, _, _⟩ := loadFixed_eq_ok loaded
  exact (holds_of_loadFixed read (Option.not_isSome_iff_eq_none.mp shown) loaded).mapped

theorem resolve?_of_spared {place : Pointer}
    (loaded : memory.loadFixed dest start stop = .ok (id, after))
    (resolved : memory.resolve? address = some place)
    (spared : address.segment = dest.segment → memory.Hides dest.segment) :
    after.resolve? address = some place := by
  obtain ⟨mapping, mapped, buffer, offset, live⟩ := resolve?_eq_some.mp resolved
  rw [← mapping?_of_spared loaded spared] at mapped
  obtain ⟨_, _, _, _, _, rfl⟩ := loadFixed_eq_ok loaded
  exact resolve?_eq_some.mpr ⟨mapping, mapped, buffer, offset, isLive_push rfl live⟩

theorem not_hides_of_resolve? {count : Nat} (mapped : memory.Mapped)
    (loaded : memory.loadFixed dest start stop = .ok (id, after))
    (same : address.segment = dest.segment)
    (resolved : after.resolve? address = some ⟨id, count⟩) : ¬ memory.Hides dest.segment := by
  intro hides
  obtain ⟨mapping, leads, own, -, -⟩ := resolve?_eq_some.mp resolved
  rw [same, mapping?_of_spared loaded fun _ => hides] at leads
  obtain ⟨shown, found⟩ := Option.isSome_iff_exists.mp hides
  rw [mapping?, found, Option.some_or] at leads
  obtain ⟨_, _, _, _, fresh, _⟩ := loadFixed_eq_ok loaded
  have member : some mapping ∈ memory.segments := by
    rw [← leads]
    exact Vector.mem_of_getElem? (Option.join_eq_some_iff.mp found)
  have issued := (mapped.segments mapping member).1
  exact Nat.ne_of_lt issued (own.trans fresh)

theorem hides_of_kept {place : Pointer}
    (loaded : memory.loadFixed dest start stop = .ok (id, after))
    (resolved : memory.resolve? address = some place) (kept : after.resolve? address = some place)
    (same : address.segment = dest.segment) : memory.Hides dest.segment := by
  by_contra shown
  obtain ⟨mapping, leads, own, -, -⟩ := resolve?_eq_some.mp kept
  rw [same, mapping?_of_shown loaded shown, Option.some.injEq] at leads
  obtain ⟨_, _, -, -, live⟩ := resolve?_eq_some.mp resolved
  obtain ⟨_, _, _, _, fresh, _⟩ := loadFixed_eq_ok loaded
  rw [← leads] at own
  exact Nat.ne_of_lt (lt_of_isLive live) (own.symm.trans fresh)

theorem image_calls (memory : Memory) (operations : List Operation) :
    (memory.calls operations).image = memory.image := by
  apply calls_induction (fun later => later.image = memory.image) operations rfl
  intro before after operation answer kept called
  cases called <;> exact kept

/-- A fixed load is found under the addresses of its destination if and only if the segment table
does not map their segment; and a place keeps its address unless that lies in the segment of the
load and is shown through a fixed load itself. -/
theorem loadFixed_isVisible_iff (image : Bytes) (capacity : Nat) (history : List Operation)
    (loaded : ((ofImage image capacity).calls history).loadFixed dest start stop =
      .ok (id, after)) :
    let before := (ofImage image capacity).calls history
    after.buffer? id = some (image.extract start stop) ∧
    (∀ count < stop - start, dest.offset.toNat + count ≤ 0x00FFFFFF →
      (after.resolve? (dest.advance count) = some ⟨id, count⟩ ↔ ¬ before.Hides dest.segment)) ∧
    ∀ address place, before.resolve? address = some place →
      (after.resolve? address = some place ↔
        (address.segment = dest.segment → before.Hides dest.segment)) := by
  intro before
  have mapped : before.Mapped := (accounted_and_mapped image capacity history).2
  refine ⟨?_, ?_, ?_⟩
  · have range := buffer?_loadFixed loaded
    rwa [image_calls] at range
  · intro count _ room
    obtain ⟨same, placed⟩ := Address.advance_of_room room
    constructor
    · exact not_hides_of_resolve? mapped loaded same
    · intro shown
      have holds : after.Holds dest.segment dest.offset.toNat id _ :=
        ⟨buffer?_loadFixed loaded, mapping?_of_shown loaded shown⟩
      exact holds.resolve? same placed
  · intro address place resolved
    constructor
    · exact hides_of_kept loaded resolved
    · exact resolve?_of_spared loaded resolved

/-- The segment of the load has an earlier fixed load already, and another one is hidden by what is
loaded under a checkpoint. -/
theorem loadFixed_isVisible_iff_crowded :
    let history := [.loadFixed ⟨0x03000000⟩ 0 2, .pushState, .loadSegment 4 0 3 .raw,
      .mapSegment 5 0, .loadFixed ⟨0x04000010⟩ 0 1]
    let before := (ofImage #[0, 1, 2, 3] 8).calls history
    ∃ id after, before.loadFixed ⟨0x03000100⟩ 1 4 = .ok (id, after) ∧
      after.buffer? id = some ((#[0, 1, 2, 3] : Bytes).extract 1 4) ∧
      (∀ count < 4 - 1, (⟨0x03000100⟩ : Address).offset.toNat + count ≤ 0x00FFFFFF →
        (after.resolve? ((⟨0x03000100⟩ : Address).advance count) = some ⟨id, count⟩ ↔
          ¬ before.Hides (⟨0x03000100⟩ : Address).segment)) ∧
      ∀ address place, before.resolve? address = some place →
        (after.resolve? address = some place ↔
          (address.segment = (⟨0x03000100⟩ : Address).segment →
            before.Hides (⟨0x03000100⟩ : Address).segment)) := by
  intro history before
  exact ⟨3, _, rfl, loadFixed_isVisible_iff #[0, 1, 2, 3] 8 history rfl⟩

/-- Of two fixed loads of one segment only the later one is found, and none of them while the
segment table maps the segment. -/
theorem fixedLoad_displaced_or_hidden :
    let single := (ofImage #[0, 1, 2, 3, 4, 5, 6, 7] 8).calls [.loadFixed ⟨0x03000000⟩ 0 4]
    let mapped := (ofImage #[0, 1, 2, 3, 4, 5, 6, 7] 8).calls [.loadSegment 3 0 4 .raw]
    (∃ after, single.loadFixed ⟨0x03000100⟩ 4 8 = .ok (1, after) ∧
      single.resolve? ⟨0x03000000⟩ = some ⟨0, 0⟩ ∧ after.resolve? ⟨0x03000000⟩ = none) ∧
    ∃ after, mapped.loadFixed ⟨0x03000000⟩ 4 8 = .ok (1, after) ∧
      after.resolve? ⟨0x03000000⟩ = some ⟨0, 0⟩ :=
  ⟨⟨_, rfl, by decide +kernel, by decide +kernel⟩, _, rfl, by decide +kernel⟩

end Memory

end StageScript
