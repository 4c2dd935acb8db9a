import StageScript.Machine.Building
import StageScript.Machine.Control

/-!
Extension commands. Their operands are tokens of the owner of the command; one that does not
stand for what the command needs turns the command into a report.
-/

namespace StageScript.Machine

variable {E : Embedding}

def unresolved (opcode : Opcode) (token : UInt32) (machine : Machine E) : Diagnostic :=
  .tokenUnresolved opcode token machine.activeOwner

def tokenName (opcode : Opcode) (token : UInt32) (machine : Machine E) :
    Except Diagnostic String :=
  match machine.tokens.resolve? machine.activeOwner token with
  | some name => .ok name
  | none => .error (machine.unresolved opcode token)

def tokenValue (opcode : Opcode) (token : UInt32) (machine : Machine E) :
    Except Diagnostic (String × TokenValue) := do
  let name ← machine.tokenName opcode token
  match machine.tokens.lookup? machine.activeOwner name with
  | some value => return (name, value)
  | none => throw (machine.unresolved opcode token)

def tokenAddress (opcode : Opcode) (token : UInt32) (machine : Machine E) :
    Except Diagnostic (String × Address) := do
  let (name, value) ← machine.tokenValue opcode token
  match value.address? with
  | some address => return (name, address)
  | none => throw (machine.unresolved opcode token)

/-- A model is an integer of sixteen bits. -/
def tokenModel (opcode : Opcode) (token : UInt32) (machine : Machine E) :
    Except Diagnostic UInt16 := do
  let (_, value) ← machine.tokenValue opcode token
  match value.integer? with
  | some number =>
    if 0 ≤ number ∧ number < 65536 then return UInt16.ofNat number.toNatClampNeg
    else throw (machine.unresolved opcode token)
  | none => throw (machine.unresolved opcode token)

def placeObjectExt (model : UInt8) (position angle : Vec3) (behaviorArg behaviorToken : UInt32)
    (acts : UInt8) (machine : Machine E) : Outcome E :=
  machine.attempt do
    let (name, address) ← machine.tokenAddress .placeObjectExt behaviorToken
    machine.placeSpawn .placeObjectExt
      ⟨model.toUInt16, position, angle, behaviorArg, .named name address, acts⟩

/-- The behavior token is looked at only when the model token stands for a model. -/
def placeObjectExt2 (position angle : Vec3) (behaviorArg modelToken : UInt32)
    (behaviorToken : Except ReadFault UInt32) (acts : UInt8) (machine : Machine E) : Outcome E :=
  match machine.tokenModel .placeObjectExt2 modelToken with
  | .error diagnostic => (machine.report diagnostic).next
  | .ok model =>
    match behaviorToken with
    | .error fault => machine.fault (.read fault)
    | .ok token =>
      machine.attempt do
        let (name, address) ← machine.tokenAddress .placeObjectExt2 token
        machine.placeSpawn .placeObjectExt2
          ⟨model, position, angle, behaviorArg, .named name address, acts⟩

def loadModelFromGeoExt (model : UInt16) (geometryToken : UInt32) (machine : Machine E) :
    Outcome E :=
  machine.attempt do
    let (_, geometry) ← machine.tokenAddress .loadModelFromGeoExt geometryToken
    machine.loadModel .loadModelFromGeoExt model (.geometry geometry)

/-- Calls the function a token stands for and puts its value into the register. -/
def callToken (opcode : Opcode) (argument : Int16) (token : UInt32) (machine : Machine E) :
    Except Diagnostic (Int32 × Machine E) := do
  let name ← machine.tokenName opcode token
  match machine.tokens.call? E.callToken machine.activeOwner name argument
      machine.context.register with
  | some (value, tokens) => return (value, { machine with tokens }.setRegister value)
  | none => throw (machine.unresolved opcode token)

def callExt (argument : Int16) (functionToken : UInt32) (machine : Machine E) : Outcome E :=
  machine.attempt <| Prod.snd <$> machine.callToken .callExt argument functionToken

def callLoopExt (argument : Int16) (functionToken : UInt32) (machine : Machine E) : Outcome E :=
  match machine.callToken .callLoopExt argument functionToken with
  | .error diagnostic => (machine.report diagnostic).next
  | .ok (value, called) => called.holdWhileZero value

end StageScript.Machine
