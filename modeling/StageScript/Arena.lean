/-!
Arenas. Values are stored one after the other and released all at once. A handle carries the
generation it was issued in, so a handle from before a release finds nothing afterwards.
-/

namespace StageScript

structure Handle where
  index : UInt32
  generation : UInt32
  deriving DecidableEq, Repr, Inhabited

def Handle.text (handle : Handle) : String :=
  s!"ArenaHandle({handle.index.toNat}@{handle.generation.toNat})"

structure Arena (α : Type) where
  entries : Array α
  generation : UInt32
  deriving Repr

namespace Arena

variable {α : Type}

def empty : Arena α := ⟨#[], 0⟩

instance : Inhabited (Arena α) := ⟨empty⟩

def size (arena : Arena α) : Nat := arena.entries.size

def isEmpty (arena : Arena α) : Bool := arena.entries.isEmpty

def allocate (arena : Arena α) (value : α) : Handle × Arena α :=
  (⟨UInt32.ofNat arena.size, arena.generation⟩, { arena with entries := arena.entries.push value })

def get? (arena : Arena α) (handle : Handle) : Option α :=
  if handle.generation = arena.generation then arena.entries[handle.index.toNat]? else none

/-- Changes the value of a live handle and leaves the arena alone for any other handle. -/
def modify (arena : Arena α) (handle : Handle) (change : α → α) : Arena α :=
  if handle.generation = arena.generation then
    { arena with entries := arena.entries.modify handle.index.toNat change }
  else arena

/-- Releases every value and makes every handle issued so far stale. -/
def clear (arena : Arena α) : Arena α := ⟨#[], arena.generation + 1⟩

end Arena

end StageScript
