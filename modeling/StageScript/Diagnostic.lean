import StageScript.Opcode
import StageScript.Override

/-!
Diagnostics. A command that cannot do its work without being a fault is reported instead of
stopping the script. Each run has a budget of reports; what goes beyond it is counted and
summed up in one last report when the run ends.
-/

namespace StageScript

inductive Diagnostic where
  | areaBeginFailed (index : UInt8) (reason : String)
  | invalidAreaIndex (opcode : Opcode) (index : UInt8)
  | missingCamera (index : UInt8)
  | noActiveArea (opcode : Opcode)
  | slotOutOfRange (opcode : Opcode) (index : UInt8)
  | unknownVariable (mode var : UInt8)
  | overrideResolved (original replacement : Pointer) (owner : OwnerId)
  | overrideConflict (original : Pointer) (owner shadowedBy : OwnerId)
  | tokenUnresolved (opcode : Opcode) (token : UInt32) (owner : Option OwnerId)
  | unresolvedAddress (opcode : Opcode) (address : Address)
  | contentLoadFailed (opcode : Opcode) (reason : String)
  | poolExhausted (opcode : Opcode) (requested available : Nat)
  | poolUnderflow (opcode : Opcode)
  | unknownHostFunction (id : UInt32)
  | dispatchTableRestored (patched : List Opcode)
  | suppressed (dropped : Nat)
  deriving DecidableEq, Repr

namespace Diagnostic

def title : Diagnostic → String
  | .areaBeginFailed .. => "AreaBeginFailed"
  | .invalidAreaIndex .. => "InvalidAreaIndex"
  | .missingCamera .. => "MissingCamera"
  | .noActiveArea .. => "NoActiveArea"
  | .slotOutOfRange .. => "SlotOutOfRange"
  | .unknownVariable .. => "UnknownVariable"
  | .overrideResolved .. => "OverrideResolved"
  | .overrideConflict .. => "OverrideConflict"
  | .tokenUnresolved .. => "TokenUnresolved"
  | .unresolvedAddress .. => "UnresolvedAddress"
  | .contentLoadFailed .. => "ContentLoadFailed"
  | .poolExhausted .. => "PoolExhausted"
  | .poolUnderflow .. => "PoolUnderflow"
  | .unknownHostFunction .. => "UnknownHostFunction"
  | .dispatchTableRestored .. => "DispatchTableRestored"
  | .suppressed .. => "Suppressed"

def opcodesText (opcodes : List Opcode) : String :=
  "[" ++ ", ".intercalate (opcodes.map Opcode.title) ++ "]"

def message : Diagnostic → String
  | .areaBeginFailed index reason => s!"area {index.toNat} failed to build: {reason}"
  | .invalidAreaIndex opcode index =>
    s!"{opcode.mnemonic}: area index {index.toNat} is invalid"
  | .missingCamera index => s!"area {index.toNat} has no camera"
  | .noActiveArea opcode => s!"{opcode.mnemonic}: no active area"
  | .slotOutOfRange opcode index => s!"{opcode.mnemonic}: slot {index.toNat} is out of range"
  | .unknownVariable mode var =>
    s!"{Opcode.getOrSet.mnemonic}: unknown mode {mode.toNat} or variable {var.toNat}"
  | .overrideResolved original replacement owner =>
    s!"{original.text} overridden by {replacement.text} ({owner.text})"
  | .overrideConflict original owner shadowedBy =>
    s!"override of {original.text} by {owner.text} is shadowed by {shadowedBy.text}"
  | .tokenUnresolved opcode token (some owner) =>
    s!"{opcode.mnemonic}: token {token.toNat} unresolved for {owner.text}"
  | .tokenUnresolved opcode token none => s!"{opcode.mnemonic}: token {token.toNat} unresolved"
  | .unresolvedAddress opcode address =>
    s!"{opcode.mnemonic}: address {address.text} is not mapped"
  | .contentLoadFailed opcode reason => s!"{opcode.mnemonic}: load failed: {reason}"
  | .poolExhausted opcode requested available =>
    s!"{opcode.mnemonic}: level pool exhausted ({requested} requested, {available} available)"
  | .poolUnderflow opcode => s!"{opcode.mnemonic}: no memory checkpoint to pop"
  | .unknownHostFunction id =>
    s!"host function {Text.Hex.tagged 8 id.toNat} is not registered"
  | .dispatchTableRestored patched =>
    s!"dispatch table restored, patched canaries: {opcodesText patched}"
  | .suppressed dropped => s!"{dropped} further diagnostics suppressed"

end Diagnostic

/-- Who listens to diagnostics; a single-shot listener goes away with its first one. -/
inductive Listener where
  | absent
  | recording
  | singleShot
  deriving DecidableEq, Repr, Inhabited

structure Reporter where
  limit : Nat
  emitted : Nat
  dropped : Nat
  listener : Listener
  /-- What the listener has received, oldest first. -/
  delivered : Array Diagnostic
  deriving Repr

namespace Reporter

def defaultLimit : Nat := 64

def ofLimit (limit : Nat) : Reporter := ⟨limit, 0, 0, .absent, #[]⟩

instance : Inhabited Reporter := ⟨ofLimit defaultLimit⟩

def beginRun (reporter : Reporter) : Reporter := { reporter with emitted := 0, dropped := 0 }

def deliver (reporter : Reporter) (diagnostic : Diagnostic) : Reporter :=
  match reporter.listener with
  | .absent => reporter
  | .recording => { reporter with delivered := reporter.delivered.push diagnostic }
  | .singleShot =>
    { reporter with delivered := reporter.delivered.push diagnostic, listener := .absent }

def emit (reporter : Reporter) (diagnostic : Diagnostic) : Reporter :=
  if reporter.limit ≤ reporter.emitted then { reporter with dropped := reporter.dropped + 1 }
  else { reporter with emitted := reporter.emitted + 1 }.deliver diagnostic

/-- The summary of dropped diagnostics does not count against the budget. -/
def finishRun (reporter : Reporter) : Reporter :=
  if reporter.dropped = 0 then reporter
  else { reporter with dropped := 0 }.deliver (.suppressed reporter.dropped)

end Reporter

end StageScript
