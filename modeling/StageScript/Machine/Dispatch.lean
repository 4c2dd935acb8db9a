import StageScript.Opcode

/-!
Dispatch tables. The canonical table never changes; each machine has a live table that its host
may patch. Three entries of the live table are canaries: when one of them is not canonical, a
run uses the canonical table throughout.
-/

namespace StageScript

/-- What runs for an opcode: the meaning of an opcode, not always the same one, or a patch. -/
inductive Handler (P : Type) where
  | canonical (opcode : Opcode)
  | patch (patch : P)
  deriving DecidableEq, Repr

namespace Handler

variable {P : Type}

/-- The opcode that stands for a meaning; `skipNop` means the same as `nop`. -/
def meaning : Opcode → Opcode
  | .skipNop => .nop
  | opcode => opcode

def isCanonicalFor (handler : Handler P) (opcode : Opcode) : Bool :=
  match handler with
  | .canonical own => meaning own == meaning opcode
  | .patch _ => false

end Handler

structure DispatchTable (P : Type) where
  handlers : Vector (Handler P) Opcode.count

namespace DispatchTable

variable {P : Type}

def canonical : DispatchTable P :=
  ⟨(⟨Opcode.all, Opcode.size_all⟩ : Vector Opcode Opcode.count).map .canonical⟩

instance : Inhabited (DispatchTable P) := ⟨canonical⟩

def canaries : List Opcode := [.sleep, .jump, .beginArea]

def handler? (table : DispatchTable P) (code : UInt8) : Option (Handler P) :=
  table.handlers[code.toNat]?

/-- Replaces the handler of an opcode and answers the one it had. -/
def patch (table : DispatchTable P) (opcode : Opcode) (handler : Handler P) :
    Handler P × DispatchTable P :=
  ((table.handler? opcode.code).getD (.canonical opcode),
    ⟨table.handlers.setIfInBounds opcode.index handler⟩)

def tampered (table : DispatchTable P) : List Opcode :=
  canaries.filter fun opcode =>
    match table.handler? opcode.code with
    | some handler => !handler.isCanonicalFor opcode
    | none => true

end DispatchTable

end StageScript
