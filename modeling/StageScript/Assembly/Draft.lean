import StageScript.Assembly.Statement

/-!
Drafts of scripts. A draft collects the bytes of its statements, where its labels are bound,
and which operands refer to a label. Finishing it writes the address of each label, as seen
from the segment and base the script will be mapped at, into the operands that refer to it.
-/

namespace StageScript.Assembly

inductive AssemblyError where
  | danglingLabel (label : Label)
  | labelRebound (label : Label)
  | tooLarge
  | format (error : FormatError)
  /-- An operand would lie outside the bytes written so far. -/
  | operandOutside (place : Nat)
  /-- An offset needs more than 32 bits. -/
  | offsetOverflow (offset : Nat)
  deriving DecidableEq, Repr

def AssemblyError.message : AssemblyError → String
  | .danglingLabel label => s!"label {label.index} was never bound"
  | .labelRebound label => s!"label {label.index} was bound twice"
  | .tooLarge => "script does not fit in a 24-bit segment offset"
  | .format error => error.message
  | .operandOutside place => s!"operand at byte {place} lies outside the script"
  | .offsetOverflow offset => s!"offset {offset} does not fit in 32 bits"

/-- An operand that waits for the address of a label. -/
structure Reference where
  place : Nat
  order : ByteOrder
  label : Label
  deriving DecidableEq, Repr

structure Draft where
  layout : Layout
  segment : UInt8
  base : UInt32
  bytes : Bytes
  labels : Array (Option Nat)
  /-- References in the order of their operands. -/
  references : Array Reference
  deriving Repr

def overwrite (bytes : Bytes) (place : Nat) : List UInt8 → Bytes
  | [] => bytes
  | byte :: rest => overwrite (bytes.setIfInBounds place byte) (place + 1) rest

def overwrite? (bytes : Bytes) (place : Nat) (content : List UInt8) :
    Except AssemblyError Bytes :=
  if place + content.length ≤ bytes.size then .ok (overwrite bytes place content)
  else .error (.operandOutside place)

namespace Draft

def fresh (layout : Layout) (segment : UInt8) (base : UInt32) : Draft :=
  ⟨layout, segment, base, #[], #[], #[]⟩

/-- Where the next statement goes. -/
def here (draft : Draft) : Nat := draft.bytes.size

/-- The address of an offset in the finished script. -/
def addressOf (draft : Draft) (offset : Nat) : Except AssemblyError Address :=
  let absolute := draft.base.toNat + offset
  if limit32 ≤ absolute then .error (.offsetOverflow absolute)
  else if 0x00FFFFFF < absolute then .error .tooLarge
  else
    match Address.ofParts draft.segment (UInt32.ofNat absolute) with
    | .ok address => .ok address
    | .error error => .error (.format error)

def newLabel (draft : Draft) : Label × Draft :=
  (⟨draft.labels.size⟩, { draft with labels := draft.labels.push none })

/-- Binds a label to the place of the next statement. -/
def bind (draft : Draft) (label : Label) : Except AssemblyError Draft :=
  match draft.labels[label.index]? with
  | none => .error (.danglingLabel label)
  | some (some _) => .error (.labelRebound label)
  | some none =>
    .ok { draft with labels := draft.labels.setIfInBounds label.index (some draft.here) }

/-- Writes an operand of the command that starts at the given byte. -/
def writeField (start : Nat) (order : ByteOrder) (draft : Draft) (field : Field) :
    Except AssemblyError Draft :=
  let place := start + draft.layout.place field.offset
  match field.value with
  | .target (.label label) =>
    if limit64 ≤ place then .error (.operandOutside place)
    else .ok { draft with references := draft.references.push ⟨place, order, label⟩ }
  | value => do
    let bytes ← overwrite? draft.bytes place ((value.bytes? draft.layout order).getD [])
    return { draft with bytes }

/-- Adds a command of any opcode byte and size; the two always have room. -/
def emitSized (draft : Draft) (code size : UInt8) (fields : List Field) :
    Except AssemblyError Draft :=
  let start := draft.bytes.size
  let length := max (draft.layout.commandBytes size) 2
  let header := #[code, size] ++ Array.replicate (length - 2) 0
  fields.foldlM (writeField start (draft.layout.orderOf code))
    { draft with bytes := draft.bytes ++ header }

def emitFields (draft : Draft) (opcode : Opcode) (fields : List Field) :
    Except AssemblyError Draft :=
  draft.emitSized opcode.code opcode.size fields

def emit (draft : Draft) (statement : Statement) : Except AssemblyError Draft :=
  draft.emitFields statement.opcode statement.fields

def resolveReference (draft : Draft) (bytes : Bytes) (reference : Reference) :
    Except AssemblyError Bytes :=
  match draft.labels[reference.label.index]?.join with
  | none => .error (.danglingLabel reference.label)
  | some offset => do
    let address ← draft.addressOf offset
    overwrite? bytes reference.place (pointerBytes draft.layout reference.order address.raw.toNat)

def finish (draft : Draft) : Except AssemblyError Bytes :=
  draft.references.foldlM draft.resolveReference draft.bytes

end Draft

end StageScript.Assembly
