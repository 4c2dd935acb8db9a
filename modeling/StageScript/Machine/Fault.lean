import StageScript.Command
import StageScript.Machine.Stack

/-!
Faults. A fault stops a run at the command that caused it.
-/

namespace StageScript

inductive Fault where
  | stack (fault : StackFault)
  | read (fault : ReadFault)
  | danglingPointer (pointer : Pointer)
  | unresolvedAddress (address : Address)
  | stepLimitExceeded (limit : Nat)
  deriving DecidableEq, Repr

def Fault.title : Fault → String
  | .stack _ => "Stack"
  | .read fault => fault.title
  | .danglingPointer _ => "DanglingPointer"
  | .unresolvedAddress _ => "UnresolvedAddress"
  | .stepLimitExceeded _ => "StepLimitExceeded"

def Fault.message : Fault → String
  | .stack fault => fault.message
  | .read fault => fault.message
  | .danglingPointer pointer => s!"command pointer {pointer.text} refers to a released buffer"
  | .unresolvedAddress address => s!"address {address.text} is not mapped by any segment"
  | .stepLimitExceeded limit => s!"script exceeded the step limit of {limit} commands"

end StageScript
