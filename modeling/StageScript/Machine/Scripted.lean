import StageScript.Machine.Run

/-!
Host functions that are described by data. They let a host that is itself configured from
outside, or a test, give a machine functions and patches without code of its own.
-/

namespace StageScript.Scripted

/-- Functions of the argument and the register. -/
inductive Callback where
  | const (value : Int32)
  /-- The register plus a value. -/
  | add (value : Int32)
  /-- The register plus the argument. -/
  | addArgument
  | argument
  /-- One value after the other; the last is repeated. -/
  | sequence (value : Int32) (rest : List Int32)
  deriving DecidableEq, Repr, Inhabited

def Callback.call (callback : Callback) (argument : Int16) (register : Int32) :
    Int32 × Callback :=
  match callback with
  | .const value => (value, callback)
  | .add value => (register + value, callback)
  | .addArgument => (register + argument.toInt32, callback)
  | .argument => (argument.toInt32, callback)
  | .sequence value [] => (value, callback)
  | .sequence value (next :: rest) => (value, .sequence next rest)

inductive Function where
  | callback (callback : Callback)
  /-- Registers an override; zero when it is in force, else the owner in its way. -/
  | override (override : Override)
  /-- Drops the overrides of an owner and counts them. -/
  | unregister (owner : OwnerId)
  /-- The owner of the calling command, or minus one. -/
  | owner
  /-- The variable with the argument as its number, or the register if there is none. -/
  | getVariable
  /-- Stores the register in the variable with the argument as its number. -/
  | setVariable
  /-- Takes the argument in bytes from the level pool; the bytes used, or minus one less the
  bytes available. -/
  | pool
  | clearAreas
  deriving DecidableEq, Repr, Inhabited

/-- An argument as a count of bytes; a negative one is a count no pool can serve. -/
def byteCount (argument : Int16) : Nat := (argument.toInt64.toUInt64).toNat

def Function.call (function : Function) (context : HostContext) (argument : Int16)
    (register : Int32) : HostReply Function :=
  let chosen? := Variable.ofIndex? argument.toUInt16.toUInt8
  let level := context.level
  match function with
  | .callback inner =>
    let (value, later) := inner.call argument register
    ⟨value, context, .callback later⟩
  | .override entry =>
    match context.register entry with
    | (.active, context) => ⟨0, context, function⟩
    | (.shadowed rival, context) => ⟨rival.toInt32, context, function⟩
  | .unregister removed =>
    let (count, context) := context.unregister removed
    ⟨Int32.ofNat count, context, function⟩
  | .owner =>
    match context.owner with
    | some author => ⟨author.toInt32, context, function⟩
    | none => ⟨-1, context, function⟩
  | .getVariable =>
    match chosen? with
    | some chosen => ⟨level.vars.get chosen, context, function⟩
    | none => ⟨register, context, function⟩
  | .setVariable =>
    match chosen? with
    | some chosen =>
      let level := { level with vars := level.vars.set chosen register }
      ⟨register, { context with level }, function⟩
    | none => ⟨register, context, function⟩
  | .pool =>
    match level.pool.allocate (byteCount argument) with
    | .ok charged =>
      ⟨Int32.ofNat charged.used, { context with level := { level with pool := charged } },
        function⟩
    | .error exhausted => ⟨Int32.ofInt (-1 - (exhausted.available : Int)), context, function⟩
  | .clearAreas => ⟨register, { context with level := level.clearAreas }, function⟩

/-- Handlers for the dispatch table. -/
inductive Instrument where
  /-- Adds a hundred to the register. -/
  | addHundred
  /-- Puts the length of the command into the register. -/
  | storeLength
  /-- Stays on the command without pausing. -/
  | hold
  /-- Goes to the start of the command's buffer. -/
  | restart
  deriving DecidableEq, Repr, Inhabited

def embedding : Embedding where
  HostFn := Function
  callHost := Function.call
  TokenFn := Callback
  callToken := Callback.call
  Patch := Instrument

instance : Patches embedding where
  run instrument command machine :=
    match (instrument : Instrument) with
    | .addHundred => (machine.setRegister (machine.context.register + 100)).next
    | .storeLength => (machine.setRegister (Int32.ofNat command.length)).next
    | .hold => machine.hold
    | .restart => machine.goto (.startOf command.pointer.buffer)

end StageScript.Scripted
