import StageScript.Machine.Run

/-!
Short texts that describe a machine and its parts to a developer.
-/

namespace StageScript

def Pointer.fieldsText (pointer : Pointer) : String :=
  s!"ScriptPtr \x7b buffer: BufferId({pointer.buffer}), offset: {pointer.offset} \x7d"

def optionText {α : Type} (text : α → String) : Option α → String
  | some value => s!"Some({text value})"
  | none => "None"

def Context.text (context : Context) : String :=
  s!"ExecutionContext \x7b cursor: {optionText Pointer.fieldsText context.cursor}, " ++
  s!"register: {context.register.toInt}, status: {context.status.title}, " ++
  s!"delay_primary: {context.delayPrimary.toInt}, " ++
  s!"delay_secondary: {context.delaySecondary.toInt} \x7d"

def DispatchTable.text {P : Type} (table : DispatchTable P) : String :=
  s!"DispatchTable \x7b tampered_canaries: {Diagnostic.opcodesText table.tampered}, .. \x7d"

def Reporter.text : String := "Diagnostics \x7b .. \x7d"

namespace Machine

variable {E : Embedding}

def text (machine : Machine E) : String :=
  s!"LevelVm \x7b context: {machine.context.text}, stack_depth: {machine.stack.depth}, " ++
  s!"overrides: {machine.overrides.overrides.length}, " ++
  s!"active_owner: {TokenTable.ownerText machine.activeOwner}, .. \x7d"

def hostsText (machine : Machine E) : String :=
  let ids := ", ".intercalate (machine.hosts.keys.map fun id => toString id.toNat)
  s!"HostFunctions \x7b ids: [{ids}] \x7d"

end Machine

end StageScript
