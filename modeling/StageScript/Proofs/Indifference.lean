import StageScript.Proofs.Disguise
import StageScript.Proofs.Redirection

/-!
Commands do not look at the overrides. With host functions and patches that neither read nor change
them, every handler does under one registry what it does under another; only where a step goes on
from a command is their business.
-/

namespace StageScript

namespace Embedding

variable (E : Embedding)

/-- A host function may become another one by being called. -/
def Becomes : E.HostFn → E.HostFn → Prop :=
  Relation.ReflTransGen fun function later =>
    ∃ context argument register, (E.callHost function context argument register).later = later

/-- However often the function is called, it neither reads nor changes the overrides. -/
def Blind (function : E.HostFn) : Prop :=
  ∀ later, E.Becomes function later → ∀ registry context argument register,
    E.callHost later { context with overrides := registry } argument register =
      let reply := E.callHost later context argument register
      { reply with context := { reply.context with overrides := registry } }

variable {E} {function : E.HostFn}

theorem Blind.later (blind : E.Blind function) (context : HostContext) (argument : Int16)
    (register : Int32) : E.Blind (E.callHost function context argument register).later :=
  fun later becomes => blind later (.head ⟨context, argument, register, rfl⟩ becomes)

theorem Blind.call (blind : E.Blind function) (registry : Registry) (context : HostContext)
    (argument : Int16) (register : Int32) :
    E.callHost function { context with overrides := registry } argument register =
      let reply := E.callHost function context argument register
      { reply with context := { reply.context with overrides := registry } } :=
  blind function .refl registry context argument register

end Embedding

namespace Machine

variable {E : Embedding} {machine after : Machine E} {registry : Registry}

def withOverrides (registry : Registry) (machine : Machine E) : Machine E :=
  { machine with overrides := registry }

def AllHosts (property : E.HostFn → Prop) (machine : Machine E) : Prop :=
  ∀ (id : UInt32) (function : E.HostFn), machine.hosts[id]? = some function → property function

namespace AllHosts

variable {property : E.HostFn → Prop}

theorem of_hosts (all : machine.AllHosts property) (same : after.hosts = machine.hosts) :
    after.AllHosts property := by
  intro id function found
  rw [same] at found
  exact all id function found

theorem of_insert {id : UInt32} {function : E.HostFn} (all : machine.AllHosts property)
    (inserted : after.hosts = machine.hosts.insert id function) (added : property function) :
    after.AllHosts property := by
  intro other later found
  rw [inserted, Std.TreeMap.getElem?_insert] at found
  split at found
  next =>
    rw [← Option.some.inj found]
    exact added
  next => exact all other later found

section Calls

variable (kept : ∀ function, property function → ∀ context argument register,
  property (E.callHost function context argument register).later)
include kept

theorem invokeHost {id : UInt32} {argument : Int16} {value : Int32}
    (all : machine.AllHosts property)
    (called : machine.invokeHost id argument = .ok (value, after)) :
    after.AllHosts property := by
  unfold Machine.invokeHost at called
  split at called
  next => cases called
  next function known =>
    simp only [Except.ok.injEq, Prod.mk.injEq] at called
    obtain ⟨_, rfl⟩ := called
    exact all.of_insert rfl (kept function (all id function known) _ _ _)

theorem call (all : machine.AllHosts property) (argument : Int16) (function : UInt32) :
    (machine.call argument function).machine.AllHosts property := by
  unfold Machine.call
  split
  next => exact all.of_hosts rfl
  next value called answered => exact (all.invokeHost kept answered).of_hosts rfl

theorem callLoop (all : machine.AllHosts property) (argument : Int16) (function : UInt32) :
    (machine.callLoop argument function).machine.AllHosts property := by
  unfold Machine.callLoop
  split
  next => exact all.of_hosts rfl
  next value called answered =>
    exact (all.invokeHost kept answered).of_hosts
      ((holdWhileZero_sameExcept value (called.setRegister value)).hosts (by simp))

theorem exec (all : machine.AllHosts property) (instruction : Instruction) (following : Pointer) :
    (machine.exec instruction following).machine.AllHosts property := by
  cases instruction with
  | call argument function => exact all.call kept argument function
  | callLoop argument function => exact all.callLoop kept argument function
  | _ =>
    exact all.of_hosts
      ((exec_sameExcept _ following machine).hosts (by simp [Instruction.footprint]))

end Calls

end AllHosts

section OverridesKept

variable (property : Registry → Prop) (kept : machine.AllHosts fun function =>
  ∀ context argument register, property context.overrides →
    property (E.callHost function context argument register).context.overrides)
  (holds : property machine.overrides)
include kept holds

theorem invokeHost_overrides_keeps {id : UInt32} {argument : Int16} {value : Int32}
    (called : machine.invokeHost id argument = .ok (value, after)) : property after.overrides := by
  unfold invokeHost at called
  split at called
  next => cases called
  next function known =>
    cases called
    exact kept id function known _ _ _ holds

theorem exec_overrides_keeps (instruction : Instruction) (following : Pointer) :
    property (machine.exec instruction following).machine.overrides := by
  cases instruction with
  | call argument function =>
    simp only [exec, call]
    split
    next => exact holds
    next called =>
      have invoked := invokeHost_overrides_keeps property kept holds called
      exact invoked
  | callLoop argument function =>
    simp only [exec, callLoop]
    split
    next => exact holds
    next value after called =>
      have invoked := invokeHost_overrides_keeps property kept holds called
      rw [(holdWhileZero_sameExcept value (after.setRegister value)).overrides (by simp)]
      exact invoked
  | _ =>
    rw [(exec_sameExcept _ following machine).overrides (by simp [Instruction.footprint])]
    exact holds

end OverridesKept

def HostsBlind (machine : Machine E) : Prop :=
  ∀ (id : UInt32) (function : E.HostFn), machine.hosts[id]? = some function → E.Blind function

theorem HostsBlind.of_hosts (blind : machine.HostsBlind) (same : after.hosts = machine.hosts) :
    after.HostsBlind :=
  AllHosts.of_hosts blind same

end Machine

/-- The handler is the canonical one of an opcode, or a trusted patch. -/
def Handler.Among {P : Type} (trusted : P → Prop) : Handler P → Prop
  | .canonical _ => True
  | .patch own => trusted own

def Outcome.withOverrides {E : Embedding} (registry : Registry) (outcome : Outcome E) : Outcome E :=
  ⟨outcome.machine.withOverrides registry, outcome.flow⟩

namespace Machine

variable {E : Embedding} {machine after : Machine E} {registry : Registry}

def relabelled (registry : Registry) : Disguise := ⟨id, fun _ => registry, id⟩

/-- Every instruction does under one registry what it does under another. -/
theorem exec_withOverrides (blind : machine.HostsBlind) (instruction : Instruction)
    (following : Pointer) :
    (machine.withOverrides registry).exec instruction following =
      (machine.exec instruction following).withOverrides registry :=
  exec_disguised (.of_memory (relabelled registry) rfl) trivial
    (fun id function known => (blind id function known).call registry) instruction following
    fun _ => rfl

theorem HostsBlind.of_insert {id : UInt32} {function : E.HostFn}
    (blind : machine.HostsBlind) (inserted : after.hosts = machine.hosts.insert id function)
    (calls : E.Blind function) : after.HostsBlind :=
  AllHosts.of_insert blind inserted calls

theorem HostsBlind.exec (blind : machine.HostsBlind) (instruction : Instruction)
    (following : Pointer) : (machine.exec instruction following).machine.HostsBlind :=
  AllHosts.exec (fun _ blind => blind.later) blind instruction following

/-- The host functions have nothing to do with the overrides, and every patch in the dispatch table is
one of those that are trusted. -/
structure Blind (trusted : E.Patch → Prop) (machine : Machine E) : Prop where
  hosts : machine.HostsBlind
  table : ∀ code handler, machine.dispatch.handler? code = some handler → handler.Among trusted

variable {trusted : E.Patch → Prop}

theorem Blind.of_sameExcept {parts : List Part} (blind : machine.Blind trusted)
    (same : machine.SameExcept parts after) (hosts : .hosts ∉ parts) : after.Blind trusted where
  hosts := blind.hosts.of_hosts (same.hosts hosts)
  table code handler found := blind.table code handler (by rwa [same.dispatch] at found)

theorem Blind.among (blind : machine.Blind trusted) {canonical : Bool} {cursor : Pointer}
    {handler : Handler E.Patch} {command : Command}
    (dispatched : machine.dispatched? canonical cursor = some (handler, command)) :
    handler.Among trusted := by
  obtain ⟨_, _, _, handled⟩ := dispatched?_eq_some.mp dispatched
  unfold handler? at handled
  split at handled
  next =>
    obtain ⟨opcode, _, rfl⟩ := Option.map_eq_some_iff.mp handled
    trivial
  next => exact blind.table _ _ handled

/-- The trusted patches neither look at the overrides nor change them, and they bring nothing into a
machine that does. -/
structure PatchesBlind [Patches E] (trusted : E.Patch → Prop) : Prop where
  run : ∀ patch, trusted patch → ∀ (command : Command) (machine : Machine E) (registry : Registry),
    machine.Blind trusted → Patches.run patch command (machine.withOverrides registry) =
      (Patches.run patch command machine).withOverrides registry
  keeps : ∀ patch, trusted patch → ∀ (command : Command) (machine : Machine E),
    machine.Blind trusted → (Patches.run patch command machine).machine.Blind trusted

variable [Patches E] (patched : PatchesBlind trusted) (blind : machine.Blind trusted)
  {handler : Handler E.Patch} (among : handler.Among trusted) (command : Command)
include patched blind among

theorem dispatchCommand_withOverrides :
    (machine.withOverrides registry).dispatchCommand handler command =
      (machine.dispatchCommand handler command).withOverrides registry := by
  cases handler with
  | patch patch => exact patched.run patch among command machine registry blind
  | canonical opcode =>
    simp only [dispatchCommand]
    cases Instruction.read opcode command with
    | error => rfl
    | ok instruction => exact exec_withOverrides blind.hosts instruction command.next

theorem dispatchCommand_blind : (machine.dispatchCommand handler command).machine.Blind trusted := by
  cases handler with
  | patch patch => exact patched.keeps patch among command machine blind
  | canonical opcode =>
    refine dispatchCommand_keeps blind fun instruction => ?_
    have same := exec_sameExcept instruction command.next machine
    exact ⟨blind.hosts.exec instruction command.next, by rw [same.dispatch]; exact blind.table⟩

theorem dispatchCommand_overrides :
    (machine.dispatchCommand handler command).machine.overrides = machine.overrides := by
  have same : machine.dispatchCommand handler command =
      (machine.dispatchCommand handler command).withOverrides machine.overrides :=
    dispatchCommand_withOverrides patched blind among command
  rw [same]
  rfl

end Machine

theorem Run.allHosts_ofScript (image script : Bytes) (property : Scripted.embedding.HostFn → Prop) :
    (ofScript image script).machine.AllHosts property := by
  intro id function found
  have hosts : (ofScript image script).machine.hosts = ∅ := (start_sameExcept _ _).hosts (by simp)
  rw [hosts, Std.TreeMap.getElem?_emptyc] at found
  cases found

theorem blind_callback (callback : Scripted.Callback) :
    Scripted.embedding.Blind (.callback callback) := by
  intro later becomes
  have stays : ∃ inner, later = Scripted.Function.callback inner := by
    induction becomes with
    | refl => exact ⟨callback, rfl⟩
    | tail _ called ih =>
      obtain ⟨inner, rfl⟩ := ih
      obtain ⟨_, _, _, rfl⟩ := called
      exact ⟨_, rfl⟩
  obtain ⟨inner, rfl⟩ := stays
  intros
  rfl

theorem patchesBlind_scripted :
    Machine.PatchesBlind fun _ : Scripted.embedding.Patch => True where
  run patch _ _ _ _ _ := by cases (patch : Scripted.Instrument) <;> rfl
  keeps patch _ _ _ blind := by
    cases (patch : Scripted.Instrument) <;> exact ⟨blind.hosts.of_hosts rfl, blind.table⟩

end StageScript
