import StageScript.Proofs.Emission

/-!
Commands that do nothing. A command that lacks what it needs reports one reason and changes nothing;
what else is reported are remarks on commands that have done what they do. No command does both: where
a reason is reported nothing has been done, and nothing else is reported.
-/

namespace StageScript

/-- A reason why a command does nothing; a scope that cannot be loaded is not among them. -/
def Diagnostic.isReason : Diagnostic → Bool
  | .areaBeginFailed .. | .invalidAreaIndex .. | .noActiveArea _ | .slotOutOfRange ..
  | .unknownVariable .. | .tokenUnresolved .. | .poolExhausted .. | .unknownHostFunction _ => true
  | .contentLoadFailed opcode _ => opcode ≠ .execute ∧ opcode ≠ .exitAndExecute
  | .missingCamera _ | .overrideResolved .. | .overrideConflict .. | .unresolvedAddress ..
  | .poolUnderflow _ | .dispatchTableRestored _ | .suppressed _ => false

def Declines {α : Type} (change : Except Diagnostic α) : Prop :=
  ∀ reason, change = .error reason → reason.isReason = true

theorem Declines.bind {α β : Type} {read : Except Diagnostic α} {change : α → Except Diagnostic β}
    (reads : Declines read) (changes : ∀ value, Declines (change value)) :
    Declines (read >>= change) := by
  intro reason failed
  cases read with
  | error own =>
    cases failed
    exact reads _ rfl
  | ok value => exact changes value reason failed

def Embedding.HostsRaise (E : Embedding) (remark : Diagnostic → Prop) : Prop :=
  ∀ (function : E.HostFn) (context : HostContext) (argument : Int16) (register : Int32),
    context.raised = #[] →
      ∀ diagnostic ∈ (E.callHost function context argument register).context.raised.toList,
        remark diagnostic

namespace Machine

variable {E : Embedding} {machine between after : Machine E}

theorem editArea_declines (opcode : Opcode) (change : Area → Area) :
    Declines (machine.editArea opcode change) := by
  intro reason failed
  unfold editArea at failed
  split at failed <;> cases failed
  rfl

theorem addEntry_error {opcode : Opcode} {cost : Nat} {link : Area → Area} {reason : Diagnostic}
    (failed : machine.addEntry opcode cost link = .error reason) :
    reason = .noActiveArea opcode ∨
      ∃ requested available, reason = .poolExhausted opcode requested available := by
  unfold addEntry at failed
  split at failed
  next =>
    cases failed
    exact .inl rfl
  next =>
    split at failed <;> cases failed
    exact .inr ⟨_, _, rfl⟩

theorem addEntry_declines (opcode : Opcode) (cost : Nat) (link : Area → Area) :
    Declines (machine.addEntry opcode cost link) := by
  intro reason failed
  rcases addEntry_error failed with rfl | ⟨_, _, rfl⟩ <;> rfl

theorem inSlot_declines (opcode : Opcode) (index : UInt8) (slots : Nat)
    {change : index.toNat < slots → Except Diagnostic (Machine E)}
    (changes : ∀ inside, Declines (change inside)) :
    Declines (inSlot opcode index slots change) := by
  intro reason failed
  unfold inSlot at failed
  split at failed
  next inside => exact changes inside reason failed
  next =>
    cases failed
    rfl

theorem placeSpawn_error {opcode : Opcode} {spawn : Spawn} {reason : Diagnostic}
    (failed : machine.placeSpawn opcode spawn = .error reason) :
    reason = .noActiveArea opcode ∨
      ∃ requested available, reason = .poolExhausted opcode requested available := by
  unfold placeSpawn at failed
  split at failed
  next => exact addEntry_error failed
  next => cases failed

theorem placeSpawn_declines (opcode : Opcode) (spawn : Spawn) :
    Declines (machine.placeSpawn opcode spawn) := by
  intro reason failed
  rcases placeSpawn_error failed with rfl | ⟨_, _, rfl⟩ <;> rfl

theorem loadModel_declines {opcode : Opcode}
    (loads : opcode ≠ .execute ∧ opcode ≠ .exitAndExecute) (model : UInt16) (source : ModelSource) :
    Declines (machine.loadModel opcode model source) := by
  intro reason failed
  unfold loadModel at failed
  split at failed <;> cases failed
  exact decide_eq_true loads

def namedAddress? (machine : Machine E) (token : UInt32) : Option (String × Address) :=
  match machine.tokens.resolve? machine.activeOwner token with
  | some name =>
    match machine.tokens.lookup? machine.activeOwner name with
    | some (.address address) => some (name, address)
    | _ => none
  | none => none

def namedModel? (machine : Machine E) (token : UInt32) : Option UInt16 :=
  match machine.tokens.resolve? machine.activeOwner token with
  | some name =>
    match machine.tokens.lookup? machine.activeOwner name with
    | some (.integer number) =>
      if 0 ≤ number ∧ number < 65536 then some (UInt16.ofNat number.toNatClampNeg) else none
    | _ => none
  | none => none

def StandsForModel (machine : Machine E) (token : UInt32) : Prop :=
  (machine.namedModel? token).isSome

def StandsForAddress (machine : Machine E) (token : UInt32) : Prop :=
  (machine.namedAddress? token).isSome

section Tokens

attribute [local simp] bind Except.bind pure Except.pure throw throwThe MonadExceptOf.throw

theorem tokenAddress_eq (opcode : Opcode) (token : UInt32) (machine : Machine E) :
    machine.tokenAddress opcode token =
      match machine.namedAddress? token with
      | some found => .ok found
      | none => .error (machine.unresolved opcode token) := by
  unfold tokenAddress tokenValue tokenName namedAddress?
  cases machine.tokens.resolve? machine.activeOwner token with
  | none => rfl
  | some name =>
    cases found : machine.tokens.lookup? machine.activeOwner name with
    | none => simp [found]
    | some value => cases value <;> simp [found, TokenValue.address?]

theorem tokenModel_eq (opcode : Opcode) (token : UInt32) (machine : Machine E) :
    machine.tokenModel opcode token =
      match machine.namedModel? token with
      | some model => .ok model
      | none => .error (machine.unresolved opcode token) := by
  unfold tokenModel tokenValue tokenName namedModel?
  cases machine.tokens.resolve? machine.activeOwner token with
  | none => rfl
  | some name =>
    cases found : machine.tokens.lookup? machine.activeOwner name with
    | none => simp [found]
    | some value =>
      cases value with
      | address place => simp [found, TokenValue.integer?]
      | integer number =>
        by_cases small : 0 ≤ number ∧ number < 65536 <;> simp [found, TokenValue.integer?, small]

end Tokens

theorem tokenModel_cases (opcode : Opcode) (token : UInt32) (machine : Machine E) :
    (∃ model, machine.tokenModel opcode token = .ok model) ∧ machine.StandsForModel token ∨
    machine.tokenModel opcode token = .error (machine.unresolved opcode token) ∧
      ¬ machine.StandsForModel token := by
  rw [tokenModel_eq, StandsForModel]
  cases machine.namedModel? token with
  | none => exact .inr ⟨rfl, nofun⟩
  | some model => exact .inl ⟨⟨model, rfl⟩, rfl⟩

theorem tokenAddress_cases (opcode : Opcode) (token : UInt32) (machine : Machine E) :
    (∃ found, machine.tokenAddress opcode token = .ok found) ∧ machine.StandsForAddress token ∨
    machine.tokenAddress opcode token = .error (machine.unresolved opcode token) ∧
      ¬ machine.StandsForAddress token := by
  rw [tokenAddress_eq, StandsForAddress]
  cases machine.namedAddress? token with
  | none => exact .inr ⟨rfl, nofun⟩
  | some found => exact .inl ⟨⟨found, rfl⟩, rfl⟩

theorem tokenAddress_declines (opcode : Opcode) (token : UInt32) :
    Declines (machine.tokenAddress opcode token) := by
  intro reason failed
  rcases machine.tokenAddress_cases opcode token with ⟨⟨_, found⟩, _⟩ | ⟨lost, _⟩
  · cases found.symm.trans failed
  · cases lost.symm.trans failed
    rfl

theorem tokenName_declines (opcode : Opcode) (token : UInt32) :
    Declines (machine.tokenName opcode token) := by
  intro reason failed
  unfold tokenName at failed
  split at failed <;> cases failed
  rfl

theorem callToken_declines (opcode : Opcode) (argument : Int16) (token : UInt32) :
    Declines (machine.callToken opcode argument token) := by
  refine (tokenName_declines opcode token).bind fun name reason failed => ?_
  split at failed <;> cases failed
  rfl

theorem invokeHost_declines (id : UInt32) (argument : Int16) :
    Declines (machine.invokeHost id argument) := by
  intro reason failed
  unfold invokeHost at failed
  split at failed <;> cases failed
  rfl

def Remarked (remark : Diagnostic → Prop) (before after : Machine E) : Prop :=
  ∃ said, (∀ diagnostic ∈ said, remark diagnostic) ∧ after.reporter = before.reporter.told said

namespace Remarked

variable {remark : Diagnostic → Prop}

theorem of_reporter (same : after.reporter = machine.reporter) : machine.Remarked remark after :=
  ⟨[], List.forall_mem_nil _, same⟩

theorem of_sameExcept {parts : List Part} (same : machine.SameExcept parts after)
    (absent : .reporter ∉ parts) : machine.Remarked remark after :=
  .of_reporter (same.reporter absent)

theorem trans (first : machine.Remarked remark between) (second : between.Remarked remark after) :
    machine.Remarked remark after := by
  obtain ⟨said, remarks, told⟩ := first
  obtain ⟨more, remarks', told'⟩ := second
  refine ⟨said ++ more, List.forall_mem_append.mpr ⟨remarks, remarks'⟩, ?_⟩
  rw [told', told, Reporter.told_append]

theorem report (remarked : machine.Remarked remark after) {diagnostic : Diagnostic}
    (remarks : remark diagnostic) : machine.Remarked remark (after.report diagnostic) :=
  remarked.trans ⟨[diagnostic], List.forall_mem_singleton.mpr remarks, rfl⟩

end Remarked

/-- What a command says that does something: that an area has no camera, that there is no checkpoint to
pop, or that a scope has not been loaded. -/
structure Remarks (remark : Diagnostic → Prop) : Prop where
  blind : ∀ index, remark (.missingCamera index)
  underflow : ∀ opcode, remark (.poolUnderflow opcode)
  scope : ∀ opcode error, opcode = .execute ∨ opcode = .exitAndExecute →
    remark (loadFailure opcode error)

/-- The command has done nothing and has reported the reason, or it has made some remarks. -/
def DeclinesOrRemarks (reason remark : Diagnostic → Prop) (machine : Machine E)
    (outcome : Outcome E) : Prop :=
  (∃ diagnostic, reason diagnostic ∧ outcome = (machine.report diagnostic).next) ∨
    machine.Remarked remark outcome.machine

namespace DeclinesOrRemarks

variable {reason remark : Diagnostic → Prop} {outcome : Outcome E}

theorem of_reporter (same : outcome.machine.reporter = machine.reporter) :
    machine.DeclinesOrRemarks reason remark outcome :=
  .inr (.of_reporter same)

theorem declined {diagnostic : Diagnostic} (reasonable : reason diagnostic) :
    machine.DeclinesOrRemarks reason remark (machine.report diagnostic).next :=
  .inl ⟨diagnostic, reasonable, rfl⟩

theorem attempt {parts : List Part} {change : Except Diagnostic (Machine E)}
    (confined : machine.Confined parts change) (absent : .reporter ∉ parts)
    (declines : ∀ diagnostic, change = .error diagnostic → reason diagnostic) :
    machine.DeclinesOrRemarks reason remark (machine.attempt change) := by
  cases change with
  | ok after => exact of_reporter ((confined after rfl).reporter absent)
  | error diagnostic => exact declined (declines diagnostic rfl)

end DeclinesOrRemarks

section Exec

variable {remark : Diagnostic → Prop}

theorem beginArea_declinesOrRemarks (index : UInt8) (geometry : Address) (remarks : Remarks remark) :
    machine.DeclinesOrRemarks (·.isReason) remark (machine.beginArea index geometry) := by
  unfold beginArea
  split
  next => exact .declined rfl
  next =>
    split
    next => exact .declined rfl
    next =>
      simp only
      split
      next => exact .inr (.report (.of_reporter rfl) (remarks.blind index))
      next => exact .of_reporter rfl

theorem popCheckpoint_remarked (remarks : Remarks remark) (opcode : Opcode) (machine : Machine E) :
    machine.Remarked remark (machine.popCheckpoint opcode) := by
  unfold popCheckpoint
  split
  next => exact .of_reporter rfl
  next => exact .report (.of_reporter rfl) (remarks.underflow opcode)

theorem execute_remarked (remarks : Remarks remark) (load : SegmentLoad) (entry : Address)
    (following : Pointer) : machine.Remarked remark (machine.execute load entry following).machine := by
  rcases machine.execute_cases load entry following with
    ⟨_, _, same⟩ | ⟨_, _, same⟩ | ⟨_, _, _, _, _, _, same⟩ | ⟨_, _, _, _, _, _, _, same⟩ <;> rw [same]
  · exact .of_reporter rfl
  · exact .report (.of_reporter rfl) (remarks.scope .execute _ (.inl rfl))
  · exact .of_reporter rfl
  · exact .of_reporter rfl

theorem exitAndExecute_remarked (remarks : Remarks remark) (load : SegmentLoad) (entry : Address) :
    machine.Remarked remark (machine.exitAndExecute load entry).machine := by
  have replaced : machine.Remarked remark (machine.replaceCheckpoint .exitAndExecute) :=
    (popCheckpoint_remarked remarks .exitAndExecute machine).trans (.of_reporter rfl)
  rcases machine.exitAndExecute_cases load entry with
    ⟨_, _, same⟩ | ⟨_, _, _, _, same⟩ | ⟨_, _, _, _, _, same⟩ <;> rw [same]
  · exact replaced.report (remarks.scope .exitAndExecute _ (.inr rfl))
  · exact replaced.trans (.of_reporter rfl)
  · exact replaced.trans (.of_reporter rfl)

theorem exit_remarked (remarks : Remarks remark) :
    machine.Remarked remark machine.exit.machine := by
  rcases machine.exit_cases with ⟨_, same⟩ | ⟨_, _, same⟩ | ⟨_, stack, _, same⟩ <;> rw [same]
  · exact .of_reporter rfl
  · exact .of_reporter rfl
  · exact popCheckpoint_remarked remarks .exit { machine with stack }

theorem loadFixed_declinesOrRemarks (dest : Address) (first last : UInt32) :
    machine.DeclinesOrRemarks (·.isReason) remark (machine.loadFixed dest first last) := by
  rcases machine.loadFixed_cases dest first last with ⟨_, same⟩ | ⟨_, _, _, same⟩ <;> rw [same]
  · exact .declined rfl
  · exact .of_reporter rfl

theorem loadContent_declinesOrRemarks {opcode : Opcode}
    (loads : opcode ≠ .execute ∧ opcode ≠ .exitAndExecute) (load : SegmentLoad)
    (compression : Compression) :
    machine.DeclinesOrRemarks (·.isReason) remark (machine.loadContent opcode load compression) := by
  rcases machine.loadContent_cases opcode load compression with ⟨_, same⟩ | ⟨_, _, _, same⟩ <;>
    rw [same]
  · exact .declined (decide_eq_true loads)
  · exact .of_reporter rfl

theorem endArea_declinesOrRemarks :
    machine.DeclinesOrRemarks (·.isReason) remark machine.endArea := by
  unfold endArea
  cases machine.level.current with
  | none => exact .declined rfl
  | some _ => exact .of_reporter rfl

theorem loadArea_declinesOrRemarks (index : UInt8) :
    machine.DeclinesOrRemarks (·.isReason) remark (machine.loadArea index) := by
  unfold loadArea
  cases machine.level.area? index with
  | none => exact .declined rfl
  | some _ => exact .of_reporter rfl

theorem getOrSet_declinesOrRemarks (mode var : UInt8) :
    machine.DeclinesOrRemarks (·.isReason) remark (machine.getOrSet mode var) := by
  unfold getOrSet
  cases Variable.ofIndex? var with
  | none => exact .declined rfl
  | some chosen =>
    simp only
    split
    next => exact .of_reporter rfl
    next =>
      split
      next => exact .of_reporter rfl
      next => exact .declined rfl

theorem callExt_declinesOrRemarks (argument : Int16) (token : UInt32) :
    machine.DeclinesOrRemarks (·.isReason) remark (machine.callExt argument token) := by
  have declines := machine.callToken_declines .callExt argument token
  unfold callExt
  cases called : machine.callToken .callExt argument token with
  | error reason => exact .declined (declines reason called)
  | ok reply => exact .of_reporter ((sameExcept_of_callToken called).reporter (by simp))

theorem callLoopExt_declinesOrRemarks (argument : Int16) (token : UInt32) :
    machine.DeclinesOrRemarks (·.isReason) remark (machine.callLoopExt argument token) := by
  have declines := machine.callToken_declines .callLoopExt argument token
  unfold callLoopExt
  cases called : machine.callToken .callLoopExt argument token with
  | error reason => exact .declined (declines reason called)
  | ok reply =>
    have held := holdWhileZero_sameExcept reply.1 reply.2
    refine .of_reporter ((held.reporter (by simp)).trans ?_)
    exact (sameExcept_of_callToken called).reporter (by simp)

/-- The token is the first of the two that does not stand for what an object is placed with. -/
def FirstFailing (machine : Machine E) (modelToken : UInt32)
    (behaviorToken : Except ReadFault UInt32) (token : UInt32) : Prop :=
  ¬ machine.StandsForModel modelToken ∧ token = modelToken ∨
  machine.StandsForModel modelToken ∧ behaviorToken = .ok token ∧ ¬ machine.StandsForAddress token

/-- A reason not to place an object names the first of its tokens that fails, if it is about tokens. -/
def PlacingReason (machine : Machine E) (modelToken : UInt32)
    (behaviorToken : Except ReadFault UInt32) (reason : Diagnostic) : Prop :=
  reason.isReason ∧ ∀ opcode token owner, reason = .tokenUnresolved opcode token owner →
    opcode = .placeObjectExt2 ∧ owner = machine.activeOwner ∧
      machine.FirstFailing modelToken behaviorToken token

theorem placeObjectExt2_of_lost {modelToken token : UInt32} (position angle : Vec3)
    (behaviorArg : UInt32) (acts : UInt8) (stands : machine.StandsForModel modelToken)
    (lacks : ¬ machine.StandsForAddress token) :
    machine.placeObjectExt2 position angle behaviorArg modelToken (.ok token) acts =
      (machine.report (machine.unresolved .placeObjectExt2 token)).next := by
  rcases machine.tokenModel_cases .placeObjectExt2 modelToken with ⟨⟨model, found⟩, _⟩ | ⟨_, fails⟩
  · rcases machine.tokenAddress_cases .placeObjectExt2 token with ⟨_, named⟩ | ⟨lost, _⟩
    · exact absurd named lacks
    · simp only [placeObjectExt2, found, lost]
      rfl
  · exact absurd stands fails

theorem placeObjectExt2_declinesOrRemarks (position angle : Vec3) (behaviorArg modelToken : UInt32)
    (behaviorToken : Except ReadFault UInt32) (acts : UInt8) :
    machine.DeclinesOrRemarks (machine.PlacingReason modelToken behaviorToken) remark
      (machine.placeObjectExt2 position angle behaviorArg modelToken behaviorToken acts) := by
  unfold placeObjectExt2
  rcases machine.tokenModel_cases .placeObjectExt2 modelToken with
    ⟨⟨model, found⟩, stands⟩ | ⟨lost, fails⟩
  · simp only [found]
    cases behaviorToken with
    | error fault => exact .of_reporter rfl
    | ok token =>
      simp only
      rcases machine.tokenAddress_cases .placeObjectExt2 token with
        ⟨⟨named, found⟩, _⟩ | ⟨lost, fails⟩
      · simp only [found]
        refine .attempt (confined_placeSpawn _ _ _) (by simp) fun reason failed => ?_
        refine ⟨placeSpawn_declines _ _ reason failed, ?_⟩
        rcases placeSpawn_error failed with rfl | ⟨_, _, rfl⟩ <;> exact nofun
      · simp only [lost]
        refine .declined ⟨rfl, ?_⟩
        rintro _ _ _ ⟨⟩
        exact ⟨rfl, rfl, .inr ⟨stands, rfl, fails⟩⟩
  · simp only [lost]
    refine .declined ⟨rfl, ?_⟩
    rintro _ _ _ ⟨⟩
    exact ⟨rfl, rfl, .inl ⟨fails, rfl⟩⟩

section Hosts

variable (raises : E.HostsRaise remark)
include raises

theorem invokeHost_remarked {id : UInt32} {argument : Int16} {value : Int32}
    (called : machine.invokeHost id argument = .ok (value, after)) :
    machine.Remarked remark after := by
  unfold invokeHost at called
  split at called
  next => cases called
  next function _ =>
    cases called
    exact ⟨_, raises function _ argument _ rfl, (Array.foldl_toList ..).symm⟩

theorem call_declinesOrRemarks (argument : Int16) (function : UInt32) :
    machine.DeclinesOrRemarks (·.isReason) remark (machine.call argument function) := by
  have declines := machine.invokeHost_declines function argument
  unfold call
  cases called : machine.invokeHost function argument with
  | error reason => exact .declined (declines reason called)
  | ok reply => exact .inr ((invokeHost_remarked raises called).trans (.of_reporter rfl))

theorem callLoop_declinesOrRemarks (argument : Int16) (function : UInt32) :
    machine.DeclinesOrRemarks (·.isReason) remark (machine.callLoop argument function) := by
  have declines := machine.invokeHost_declines function argument
  unfold callLoop
  cases called : machine.invokeHost function argument with
  | error reason => exact .declined (declines reason called)
  | ok reply =>
    have replied : machine.Remarked remark (reply.2.setRegister reply.1) :=
      (invokeHost_remarked raises called).trans (.of_reporter rfl)
    have held := holdWhileZero_sameExcept reply.1 (reply.2.setRegister reply.1)
    exact .inr (replied.trans (.of_sameExcept held (by simp)))

/-- No instruction does something and declines to do it. -/
theorem exec_declinesOrRemarks (remarks : Remarks remark) (instruction : Instruction)
    (following : Pointer) (machine : Machine E) :
    machine.DeclinesOrRemarks (·.isReason) remark (machine.exec instruction following) := by
  cases instruction with
  | execute load entry => exact .inr (execute_remarked remarks load entry following)
  | exitAndExecute load entry => exact .inr (exitAndExecute_remarked remarks load entry)
  | exit => exact .inr (exit_remarked remarks)
  | call argument function => exact call_declinesOrRemarks raises argument function
  | callLoop argument function => exact callLoop_declinesOrRemarks raises argument function
  | popPool => exact .inr (popCheckpoint_remarked remarks .popPool machine)
  | clearLevel => exact .inr (popCheckpoint_remarked remarks .clearLevel _)
  | loadFixed dest first last => exact loadFixed_declinesOrRemarks dest first last
  | loadRaw load => exact loadContent_declinesOrRemarks (by decide) load .raw
  | loadCompressed load => exact loadContent_declinesOrRemarks (by decide) load .mio0
  | beginArea index geometry => exact beginArea_declinesOrRemarks index geometry remarks
  | endArea => exact endArea_declinesOrRemarks
  | loadArea index => exact loadArea_declinesOrRemarks index
  | getOrSet mode var => exact getOrSet_declinesOrRemarks mode var
  | callExt argument token => exact callExt_declinesOrRemarks argument token
  | callLoopExt argument token => exact callLoopExt_declinesOrRemarks argument token
  | placeObject spawn =>
    exact .attempt (confined_placeSpawn _ _ _) (by simp) (placeSpawn_declines _ _)
  | placeObjectExt =>
    exact .attempt (ensures_bind fun _ => confined_placeSpawn _ _ _) (by simp)
      ((tokenAddress_declines _ _).bind fun _ => placeSpawn_declines _ _)
  | placeObjectExt2 =>
    exact (placeObjectExt2_declinesOrRemarks _ _ _ _ _ _).imp
      (fun ⟨reason, placing, same⟩ => ⟨reason, placing.1, same⟩) id
  | createWarpNode node =>
    exact .attempt (confined_addEntry _ _ _ _) (by simp) (addEntry_declines _ _ _)
  | createPaintingWarpNode | createInstantWarp | createWhirlpool =>
    exact .attempt (ensures_inSlot _ _ _ fun _ => confined_addEntry _ _ _ _) (by simp)
      (inSlot_declines _ _ _ fun _ => addEntry_declines _ _ _)
  | showDialog =>
    exact .attempt (ensures_inSlot _ _ _ fun _ => confined_editArea _ _ _) (by simp)
      (inSlot_declines _ _ _ fun _ => editArea_declines _ _)
  | setTerrainData | setRooms | setTerrainType | setMusic | setMacroObjects =>
    exact .attempt (confined_editArea _ _ _) (by simp) (editArea_declines _ _)
  | loadModelFromDl | loadModelFromGeo | loadModelScaled =>
    exact .attempt (confined_loadModel _ _ _ _) (by simp) (loadModel_declines (by decide) _ _)
  | loadModelFromGeoExt =>
    exact .attempt (ensures_bind fun _ => confined_loadModel _ _ _ _) (by simp)
      ((tokenAddress_declines _ _).bind fun _ => loadModel_declines (by decide) _ _)
  | _ =>
    -- What is left does not have the reporter in its footprint.
    exact .inr (.of_sameExcept (exec_sameExcept _ following machine) (by simp [Instruction.footprint]))

end Hosts

end Exec

/-- The handler says just this, whatever has been reported before, and does the same whoever listens. -/
def Says [Patches E] (handler : Handler E.Patch) (command : Command) (said : List Diagnostic)
    (machine : Machine E) : Prop :=
  ∀ reporter, (machine.withReporter reporter).dispatchCommand handler command =
    ⟨(machine.dispatchCommand handler command).machine.withReporter (reporter.told said),
      (machine.dispatchCommand handler command).flow⟩

section Says

variable [Patches E] {handler : Handler E.Patch} {opcode : Opcode} {command : Command}
  {said other : List Diagnostic} {reason remark : Diagnostic → Prop}

theorem exists_saying (opcode : Opcode) (command : Command) (machine : Machine E) :
    ∃ said, machine.Says (.canonical opcode) command said := by
  obtain ⟨said, same⟩ : Reports (dispatchCommand (.canonical opcode) command) machine :=
    reports_dispatchCommand opcode command
  let run (machine : Machine E) : Except Fault Flow × Machine E :=
    let outcome := machine.dispatchCommand (.canonical opcode) command
    (outcome.flow, outcome.machine)
  refine ⟨said, fun reporter => ?_⟩
  have tells (ledger : Ledger) : run (machine.withLedger ledger) =
      Prod.map id (withLedger (ledger.told said)) (run machine) := by
    simp only [run, same ledger]
    rfl
  have ran := withReporter_of_withLedger tells reporter
  exact congrArg (fun pair => (⟨pair.2, pair.1⟩ : Outcome E)) ran

theorem Says.unique (saying : machine.Says handler command said)
    (again : machine.Says handler command other) : said = other := by
  have same := (saying (.roomy said.length)).symm.trans (again (.roomy said.length))
  exact Reporter.eq_of_told_roomy (congrArg (fun outcome => outcome.machine.reporter) same)

theorem Says.declines_or_remarks (saying : machine.Says handler command said)
    (declines : ∀ reporter, (machine.withReporter reporter).DeclinesOrRemarks reason remark
      ((machine.withReporter reporter).dispatchCommand handler command)) :
    (∃ diagnostic, reason diagnostic ∧ said = [diagnostic] ∧
      machine.dispatchCommand handler command = (machine.report diagnostic).next) ∨
    ∀ diagnostic ∈ said, remark diagnostic := by
  have heard := saying (.roomy said.length)
  rcases declines (.roomy said.length) with ⟨diagnostic, reasonable, declined⟩ | ⟨other, remarks, told⟩
  · left
    have same := heard.symm.trans declined
    have only : said = [diagnostic] :=
      Reporter.eq_of_told_roomy (congrArg (fun outcome => outcome.machine.reporter) same)
    have own := saying machine.reporter
    rw [only] at own
    let retell (outcome : Outcome E) : Outcome E :=
      ⟨outcome.machine.withReporter (machine.reporter.emit diagnostic), outcome.flow⟩
    have alike := congrArg retell same
    exact ⟨diagnostic, reasonable, only, own.trans alike⟩
  · right
    rw [heard] at told
    rwa [Reporter.eq_of_told_roomy told]

end Says

theorem dispatchCommand_declinesOrRemarks [Patches E] {remark : Diagnostic → Prop}
    (raises : E.HostsRaise remark) (remarks : Remarks remark) (opcode : Opcode) (command : Command)
    (machine : Machine E) :
    machine.DeclinesOrRemarks (·.isReason) remark
      (machine.dispatchCommand (.canonical opcode) command) := by
  simp only [dispatchCommand]
  cases Instruction.read opcode command with
  | error fault => exact .of_reporter rfl
  | ok instruction => exact exec_declinesOrRemarks raises remarks instruction command.next machine

/-- A host function has but one thing to report: that an override which it registers is shadowed. -/
def HostsRaiseConflicts (E : Embedding) : Prop :=
  E.HostsRaise fun diagnostic => ∃ original owner rival,
    diagnostic = .overrideConflict original owner rival

theorem HostsRaiseConflicts.of_reasons (raises : HostsRaiseConflicts E) :
    E.HostsRaise fun diagnostic => ¬ diagnostic.isReason := by
  intro function context argument register silent diagnostic raised
  obtain ⟨_, _, _, rfl⟩ := raises function context argument register silent diagnostic raised
  exact nofun

theorem remarks_not_isReason : Remarks fun diagnostic => ¬ diagnostic.isReason where
  blind _ := nofun
  underflow _ := nofun
  scope opcode error scope := by
    rcases scope with rfl | rfl <;> exact nofun

/-- What a canonical handler says about a command is one list of diagnostics, and when a reason is among
them it is the only one: the handler has reported it, has changed nothing else whatever, and goes on to
the next command. When the command has two tokens and the reason is about a token, it names the first one
that fails. -/
theorem reason_changesNothing [Patches E] (raises : HostsRaiseConflicts E) (opcode : Opcode)
    (command : Command) (machine : Machine E) :
    ∃ said, machine.Says (.canonical opcode) command said ∧
      (∀ other, machine.Says (.canonical opcode) command other → other = said) ∧
      ∀ reason ∈ said, reason.isReason →
        said = [reason] ∧
        machine.dispatchCommand (.canonical opcode) command = (machine.report reason).next ∧
        ∀ position angle behaviorArg modelToken behaviorToken acts,
          Instruction.read opcode command = .ok
            (.placeObjectExt2 position angle behaviorArg modelToken behaviorToken acts) →
          ∀ origin token owner, reason = .tokenUnresolved origin token owner →
            origin = .placeObjectExt2 ∧ owner = machine.activeOwner ∧
              machine.FirstFailing modelToken behaviorToken token := by
  obtain ⟨said, saying⟩ := exists_saying opcode command machine
  refine ⟨said, saying, fun other again => again.unique saying, fun reason heard declines => ?_⟩
  have spoken := saying.declines_or_remarks fun reporter => dispatchCommand_declinesOrRemarks
    raises.of_reasons remarks_not_isReason opcode command (machine.withReporter reporter)
  rcases spoken with ⟨_, _, rfl, declined⟩ | remarks
  · obtain rfl := List.mem_singleton.mp heard
    refine ⟨rfl, declined, ?_⟩
    intro position angle behaviorArg modelToken behaviorToken acts read
    have placed (reporter : Reporter) : (machine.withReporter reporter).DeclinesOrRemarks
        (machine.PlacingReason modelToken behaviorToken) (¬ ·.isReason)
        ((machine.withReporter reporter).dispatchCommand (.canonical opcode) command) := by
      simp only [dispatchCommand, read]
      exact @placeObjectExt2_declinesOrRemarks E (machine.withReporter reporter) _ position angle
        behaviorArg modelToken behaviorToken acts
    rcases saying.declines_or_remarks placed with ⟨_, ⟨_, names⟩, same, _⟩ | remarks
    · obtain rfl := List.singleton_inj.mp same
      exact names
    · exact absurd declines (remarks reason heard)
  · exact absurd declines (remarks reason heard)

theorem raised_call (function : Scripted.Function) (context : HostContext) (argument : Int16)
    (register : Int32) : ∃ conflicts : List Diagnostic,
      (∀ diagnostic ∈ conflicts, ∃ original owner rival,
        diagnostic = .overrideConflict original owner rival) ∧
      (function.call context argument register).context.raised =
        context.raised ++ conflicts.toArray := by
  have silent (same : (function.call context argument register).context.raised = context.raised) :
      ∃ conflicts : List Diagnostic,
        (∀ diagnostic ∈ conflicts, ∃ original owner rival,
          diagnostic = .overrideConflict original owner rival) ∧
        (function.call context argument register).context.raised =
          context.raised ++ conflicts.toArray :=
    ⟨[], List.forall_mem_nil _, by simp [same]⟩
  cases function with
  | override entry =>
    simp only [Scripted.Function.call, HostContext.register]
    cases context.overrides.register entry with
    | mk registration overrides =>
      cases registration with
      | active => exact ⟨[], List.forall_mem_nil _, by simp⟩
      | shadowed rival =>
        exact ⟨[.overrideConflict entry.original entry.owner rival],
          List.forall_mem_singleton.mpr ⟨_, _, _, rfl⟩, by simp⟩
  | callback inner => exact silent rfl
  | unregister removed => exact silent rfl
  | owner =>
    refine silent ?_
    simp only [Scripted.Function.call]
    cases context.owner <;> rfl
  | getVariable | setVariable =>
    refine silent ?_
    simp only [Scripted.Function.call]
    cases Variable.ofIndex? argument.toUInt16.toUInt8 <;> rfl
  | pool =>
    refine silent ?_
    simp only [Scripted.Function.call]
    cases context.level.pool.allocate (Scripted.byteCount argument) <;> rfl
  | clearAreas => exact silent rfl

theorem hostsRaiseConflicts_scripted : HostsRaiseConflicts Scripted.embedding := by
  intro function context argument register silent diagnostic raised
  obtain ⟨conflicts, alike, appended⟩ := raised_call function context argument register
  change diagnostic ∈ (function.call context argument register).context.raised.toList at raised
  rw [appended, silent] at raised
  exact alike diagnostic (by simpa using raised)

def halfNamed : Machine Scripted.embedding :=
  let (_, tokens) := TokenTable.empty.addToken none "coin"
  .ofParts .standard (.ofImage #[] 0) (tokens.defineValue none "coin" (.integer 3)) .empty

/-- Places an object with the model that token 0 stands for and the behavior of token 1. -/
def halfPlacing : Command :=
  ⟨⟨0, 0⟩, 0x3B, 28, Array.replicate 24 0 ++ #[1, 0, 0, 0], .standard⟩

theorem read_halfPlacing : Instruction.read .placeObjectExt2 halfPlacing =
    .ok (.placeObjectExt2 ⟨0, 0, 0⟩ ⟨0, 0, 0⟩ 0 0 (.ok 1) 0) := rfl

theorem halfNamed_standsForModel : halfNamed.StandsForModel 0 := by
  unfold StandsForModel
  decide +kernel

theorem halfNamed_not_standsForAddress : ¬ halfNamed.StandsForAddress 1 := by
  unfold StandsForAddress
  decide +kernel

theorem saying_halfNamed : halfNamed.Says (.canonical .placeObjectExt2) halfPlacing
    [.tokenUnresolved .placeObjectExt2 1 none] := by
  have declines (machine : Machine Scripted.embedding) (stands : machine.StandsForModel 0)
      (lacks : ¬ machine.StandsForAddress 1) :
      machine.dispatchCommand (.canonical .placeObjectExt2) halfPlacing =
        (machine.report (machine.unresolved .placeObjectExt2 1)).next := by
    simp only [dispatchCommand, read_halfPlacing]
    exact placeObjectExt2_of_lost ⟨0, 0, 0⟩ ⟨0, 0, 0⟩ 0 0 stands lacks
  have same (machine : Machine Scripted.embedding) (reporter : Reporter) :
      (machine.withReporter reporter).StandsForModel 0 = machine.StandsForModel 0 ∧
        (machine.withReporter reporter).StandsForAddress 1 = machine.StandsForAddress 1 :=
    ⟨rfl, rfl⟩
  intro reporter
  rw [declines halfNamed halfNamed_standsForModel halfNamed_not_standsForAddress]
  exact declines (halfNamed.withReporter reporter)
    ((same halfNamed reporter).1 ▸ halfNamed_standsForModel)
    ((same halfNamed reporter).2 ▸ halfNamed_not_standsForAddress)

/-- The second token is the first that fails. -/
theorem reason_changesNothing_halfNamed :
    ∃ reason, halfNamed.Says (.canonical .placeObjectExt2) halfPlacing [reason] ∧
      halfNamed.dispatchCommand (.canonical .placeObjectExt2) halfPlacing =
        (halfNamed.report reason).next ∧
      reason = .tokenUnresolved .placeObjectExt2 1 none ∧
      halfNamed.FirstFailing 0 (.ok 1) 1 := by
  obtain ⟨said, saying, unique, alone⟩ := reason_changesNothing hostsRaiseConflicts_scripted
    .placeObjectExt2 halfPlacing halfNamed
  obtain rfl := unique _ saying_halfNamed
  obtain ⟨_, declined, names⟩ := alone _ List.mem_cons_self rfl
  obtain ⟨_, _, failing⟩ := names _ _ _ _ _ _ read_halfPlacing _ _ _ rfl
  exact ⟨_, saying, declined, rfl, failing⟩

end Machine

end StageScript
