import StageScript.Config
import StageScript.Instruction
import StageScript.Machine.Dispatch
import StageScript.Machine.Fault
import StageScript.Machine.Host
import StageScript.Memory
import StageScript.Scene
import StageScript.Token

/-!
The state of a machine, and what running one command can come to: the machine afterwards, with
the way control goes on or a fault.
-/

namespace StageScript

inductive Status where
  | running
  /-- Waiting on the primary delay, a looping call, or an opcode that is none. -/
  | paused
  /-- Waiting on the secondary delay. -/
  | pausedSecondary
  | exited
  deriving DecidableEq, Repr, Inhabited

def Status.title : Status → String
  | .running => "Running"
  | .paused => "Paused"
  | .pausedSecondary => "PausedSecondary"
  | .exited => "Exited"

def Status.key : Status → String
  | .running => "running"
  | .paused => "paused"
  | .pausedSecondary => "paused_secondary"
  | .exited => "exited"

/-- What a script keeps from one run to the next. -/
structure Context where
  /-- Where the last run stopped. -/
  cursor : Option Pointer
  register : Int32
  status : Status
  delayPrimary : Int32
  delaySecondary : Int32
  deriving DecidableEq, Repr

def Context.initial : Context := ⟨none, 0, .paused, 0, 0⟩

instance : Inhabited Context := ⟨.initial⟩

structure Machine (E : Embedding) where
  config : Config
  context : Context
  stack : Stack
  dispatch : DispatchTable E.Patch
  overrides : Registry
  /-- Who wrote the command at the cursor, absent for base content. -/
  activeOwner : Option OwnerId
  level : Level
  memory : Memory
  tokens : TokenTable E.TokenFn
  scene : Scene
  presentation : Presentation
  hosts : Std.TreeMap UInt32 E.HostFn
  reporter : Reporter

inductive Flow where
  | next
  | goto (target : Pointer)
  | hold
  deriving DecidableEq, Repr

structure Outcome (E : Embedding) where
  machine : Machine E
  flow : Except Fault Flow

/-- What the handlers that a host patches in do. -/
class Patches (E : Embedding) where
  run : E.Patch → Command → Machine E → Outcome E

namespace Machine

variable {E : Embedding}

def ofParts (config : Config) (memory : Memory) (tokens : TokenTable E.TokenFn) (scene : Scene) :
    Machine E where
  config := config
  context := .initial
  stack := .empty
  dispatch := .canonical
  overrides := .empty
  activeOwner := none
  level := .ofPool (min config.levelPoolBytes memory.available)
  memory := memory
  tokens := tokens
  scene := scene
  presentation := #[]
  hosts := ∅
  reporter := .ofLimit config.diagnosticBudget

def ofImage (config : Config) (image : Bytes) : Machine E :=
  ofParts config (.ofImage image config.mainPoolBytes) .empty .empty

def next (machine : Machine E) : Outcome E := ⟨machine, .ok .next⟩

def goto (machine : Machine E) (target : Pointer) : Outcome E := ⟨machine, .ok (.goto target)⟩

def hold (machine : Machine E) : Outcome E := ⟨machine, .ok .hold⟩

def fault (machine : Machine E) (fault : Fault) : Outcome E := ⟨machine, .error fault⟩

def report (machine : Machine E) (diagnostic : Diagnostic) : Machine E :=
  { machine with reporter := machine.reporter.emit diagnostic }

/-- A machine whose diagnostics are recorded. -/
def recording (machine : Machine E) : Machine E :=
  { machine with reporter := { machine.reporter with listener := .recording } }

def registerHost (machine : Machine E) (id : UInt32) (function : E.HostFn) : Machine E :=
  { machine with hosts := machine.hosts.insert id function }

def setRegister (machine : Machine E) (value : Int32) : Machine E :=
  { machine with context := { machine.context with register := value } }

def setStatus (machine : Machine E) (status : Status) : Machine E :=
  { machine with context := { machine.context with status } }

/-- Goes on with the changed machine, or reports why nothing was changed. -/
def attempt (machine : Machine E) (change : Except Diagnostic (Machine E)) : Outcome E :=
  match change with
  | .ok changed => changed.next
  | .error diagnostic => (machine.report diagnostic).next

end Machine

end StageScript
