import StageScript.Diagnostic
import StageScript.Level

/-!
What a host brings to a machine: functions that scripts call by number, functions that tokens
stand for, and handlers it may patch into the dispatch table. A function keeps state of its
own, so a call answers the function as it is afterwards.
-/

namespace StageScript

/-- The part of a machine that a host function works on. -/
structure HostContext where
  overrides : Registry
  level : Level
  /-- Who wrote the calling command. -/
  owner : Option OwnerId
  /-- Diagnostics raised during the call, oldest first. -/
  raised : Array Diagnostic

namespace HostContext

/-- Registers an override and reports it when another owner is in its way. -/
def register (context : HostContext) (override : Override) : Registration × HostContext :=
  let (registration, overrides) := context.overrides.register override
  let raised := match registration with
    | .active => context.raised
    | .shadowed rival =>
      context.raised.push (.overrideConflict override.original override.owner rival)
  (registration, { context with overrides, raised })

def unregister (context : HostContext) (owner : OwnerId) : Nat × HostContext :=
  let (count, overrides) := context.overrides.unregister owner
  (count, { context with overrides })

end HostContext

structure HostReply (F : Type) where
  value : Int32
  context : HostContext
  /-- The function as the call leaves it. -/
  later : F

structure Embedding where
  HostFn : Type
  callHost : HostFn → HostContext → Int16 → Int32 → HostReply HostFn
  TokenFn : Type
  callToken : TokenFn → Int16 → Int32 → Int32 × TokenFn
  Patch : Type

end StageScript
