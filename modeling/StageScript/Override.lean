import StageScript.Pointer

/-!
Overrides. A package may replace the command at a pointer by one of its own. Both ends of an
override lead to the replacement, so a cursor that already sits on a replacement stays there.
Overrides are kept in the order of their registration and the first that matches wins.
-/

namespace StageScript

/-- Packages are known by number. -/
abbrev OwnerId := UInt32

def OwnerId.text (owner : OwnerId) : String := s!"owner#{owner.toNat}"

structure Override where
  original : Pointer
  replacement : Pointer
  owner : OwnerId
  deriving DecidableEq, Repr

def Override.covers (override : Override) (pointer : Pointer) : Bool :=
  override.original == pointer || override.replacement == pointer

/-- A replacement in a buffer of its own is a stream written by the owner. -/
def Override.streamsIn (override : Override) (buffer : BufferId) : Bool :=
  override.replacement.buffer == buffer && override.original.buffer != buffer

/-- Whether a new override is in force, or another owner claimed the same original before. -/
inductive Registration where
  | active
  | shadowed (owner : OwnerId)
  deriving DecidableEq, Repr

structure Resolution where
  pointer : Pointer
  owner : Option OwnerId
  deriving DecidableEq, Repr

structure Registry where
  overrides : List Override
  deriving Repr

namespace Registry

def empty : Registry := ⟨[]⟩

instance : Inhabited Registry := ⟨empty⟩

def register (registry : Registry) (override : Override) : Registration × Registry :=
  let rival := registry.overrides.find? fun earlier =>
    earlier.original == override.original && earlier.owner != override.owner
  let outcome := match rival with
    | some earlier => .shadowed earlier.owner
    | none => .active
  (outcome, ⟨registry.overrides ++ [override]⟩)

/-- Drops every override of an owner and says how many there were. -/
def unregister (registry : Registry) (owner : OwnerId) : Nat × Registry :=
  let kept := registry.overrides.filter (·.owner != owner)
  (registry.overrides.length - kept.length, ⟨kept⟩)

def resolve (registry : Registry) (pointer : Pointer) : Resolution :=
  match registry.overrides.find? (·.covers pointer) with
  | some override => ⟨override.replacement, some override.owner⟩
  | none => ⟨pointer, none⟩

/-- Who wrote the replacement stream in a buffer, absent for base content. -/
def streamOwner (registry : Registry) (buffer : BufferId) : Option OwnerId :=
  (registry.overrides.find? (·.streamsIn buffer)).map (·.owner)

end Registry

end StageScript
