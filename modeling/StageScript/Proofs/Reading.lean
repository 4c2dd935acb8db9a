import StageScript.Instruction
import StageScript.Proofs.Encoding

/-!
Statements read back. The operands of a statement are well placed in its command, and what the
handler of its opcode reads there is what the statement was given.
-/

namespace StageScript

theorem Opcode.two_le_size (opcode : Opcode) : 2 ≤ opcode.size.toNat := by
  cases opcode <;> decide

namespace Assembly

def Target.resolve (addressOf : Label → Address) : Target → Address
  | .address known => known
  | .label named => addressOf named

def Value.resolve (addressOf : Label → Address) : Value → Value
  | .target destination => .target (.address (destination.resolve addressOf))
  | value => value

def Field.resolve (addressOf : Label → Address) (field : Field) : Field :=
  { field with value := field.value.resolve addressOf }

namespace Statement

def resolve (addressOf : Label → Address) : Statement → Statement
  | .execute segment start stop entry =>
    .execute segment start stop (.address (entry.resolve addressOf))
  | .exitAndExecute segment start stop entry =>
    .exitAndExecute segment start stop (.address (entry.resolve addressOf))
  | .jump target => .jump (.address (target.resolve addressOf))
  | .jumpLink target => .jumpLink (.address (target.resolve addressOf))
  | .jumpIf comparison literal target =>
    .jumpIf comparison literal (.address (target.resolve addressOf))
  | .jumpLinkIf comparison literal target =>
    .jumpLinkIf comparison literal (.address (target.resolve addressOf))
  | statement => statement

/-- What a statement means once its labels have addresses. -/
def instruction (addressOf : Label → Address) : Statement → Instruction
  | .execute segment start stop entry =>
    .execute ⟨segment.toUInt16.toInt16, start, stop⟩ (entry.resolve addressOf)
  | .exitAndExecute segment start stop entry =>
    .exitAndExecute ⟨segment.toUInt16.toInt16, start, stop⟩ (entry.resolve addressOf)
  | .exit => .exit
  | .sleep frames => .sleep frames
  | .sleepBeforeExit frames => .sleepBeforeExit frames
  | .jump target => .jump (target.resolve addressOf)
  | .jumpLink target => .jumpLink (target.resolve addressOf)
  | .ret => .ret
  | .loopBeginCount count => .loopBeginCount count
  | .loopRepeat => .loopRepeat
  | .loopBegin => .loopBegin
  | .loopUntil comparison literal => .loopUntil ⟨comparison, literal⟩
  | .jumpIf comparison literal target =>
    .jumpIf ⟨comparison, literal⟩ (.ok (target.resolve addressOf))
  | .jumpLinkIf comparison literal target =>
    .jumpLinkIf ⟨comparison, literal⟩ (.ok (target.resolve addressOf))
  | .skipIf comparison literal => .skipIf ⟨comparison, literal⟩
  | .skip => .skip
  | .skipNop | .nop => .nop
  | .call argument function => .call argument function
  | .callLoop argument function => .callLoop argument function
  | .setRegister value => .setRegister value
  | .pushPool => .pushPool
  | .popPool => .popPool
  | .loadFixed dest start stop => .loadFixed dest start stop
  | .loadRaw segment start stop => .loadRaw ⟨segment.toUInt16.toInt16, start, stop⟩
  | .loadCompressed segment start stop => .loadCompressed ⟨segment.toUInt16.toInt16, start, stop⟩
  | .initLevel => .initLevel
  | .clearLevel => .clearLevel
  | .allocLevelPool => .allocLevelPool
  | .freeLevelPool => .freeLevelPool
  | .beginArea area geometry => .beginArea area geometry
  | .endArea => .endArea
  | .loadModelFromGeo model geometry => .loadModelFromGeo model geometry
  | .loadModelFromDl model displayList layer => .loadModelFromDl model displayList layer
  | .placeObject placement behavior =>
    .placeObject ⟨placement.model.toUInt16, placement.position, placement.angle,
      placement.behaviorArg, .address behavior, placement.acts⟩
  | .placeObjectExt placement behaviorToken =>
    .placeObjectExt placement.model placement.position placement.angle placement.behaviorArg
      behaviorToken placement.acts
  | .placeObjectExt2 placement modelToken behaviorToken =>
    .placeObjectExt2 placement.position placement.angle placement.behaviorArg modelToken
      (.ok behaviorToken) placement.acts
  | .initPlayer model behaviorArg behavior => .initPlayer ⟨model, behaviorArg, behavior⟩
  | .createWarpNode node => .createWarpNode node
  | .createPaintingWarpNode node => .createPaintingWarpNode node
  | .createInstantWarp index warp => .createInstantWarp index warp
  | .loadArea area => .loadArea area
  | .unloadArea => .unloadArea
  | .setPlayerStartPos area yaw position => .setPlayerStartPos ⟨area, yaw, position⟩
  | .setTerrainData data => .setTerrainData data
  | .showDialog index dialog => .showDialog index dialog
  | .setTerrainType terrain => .setTerrainType terrain
  | .transition kind time color => .present (.transition kind time color)
  | .setMusic music => .setMusic music
  | .createWhirlpool index whirlpool => .createWhirlpool index whirlpool
  | .getOrSet mode var => .getOrSet mode var
  | .loadModelFromGeoExt model geometryToken => .loadModelFromGeoExt model geometryToken
  | .callExt argument functionToken => .callExt argument functionToken
  | .callLoopExt argument functionToken => .callLoopExt argument functionToken

variable {addressOf : Label → Address}

@[simp] theorem opcode_resolve (statement : Statement) :
    (statement.resolve addressOf).opcode = statement.opcode := by
  cases statement <;> rfl

theorem resolve_resolve (statement : Statement) {again : Label → Address} :
    (statement.resolve addressOf).resolve again = statement.resolve addressOf := by
  cases statement <;> rfl

theorem fields_resolve (statement : Statement) :
    (statement.resolve addressOf).fields = statement.fields.map (Field.resolve addressOf) := by
  cases statement <;> rfl

theorem wellPlaced (statement : Statement) : WellPlaced statement.opcode.size statement.fields := by
  cases statement <;> exact of_decide_eq_true rfl

end Statement

section Operands

variable {command : Command} {offset : Nat}

theorem address_eq_ok {address : Address} :
    command.address offset = .ok address ↔
      command.pointerValue offset = .ok address.raw.toNat := by
  have bound : address.raw.toNat < limit32 := address.raw.toNat_lt
  rw [Command.address, bind_eq_ok]
  constructor
  · rintro ⟨value, read, small⟩
    split at small
    next below =>
      obtain rfl : (⟨UInt32.ofNat value⟩ : Address) = address := Except.ok.inj small
      rwa [UInt32.toNat_ofNat_of_lt' below]
    next => cases small
  · intro read
    exact ⟨_, read, by rw [if_pos bound, UInt32.ofNat_toNat]; rfl⟩

theorem readsBack_addressField {address : Address} :
    (addressField offset address).ReadsBack command ↔ command.address offset = .ok address := by
  have bound : address.raw.toNat < limit32 := address.raw.toNat_lt
  rw [address_eq_ok, Field.ReadsBack, addressField]
  cases command.layout.pointerWidth <;> simp [Nat.mod_eq_of_lt bound]

theorem number_eq_ok {number : UInt32} :
    command.number offset = .ok number ↔ command.address offset = .ok ⟨number⟩ := by
  rw [Command.number]
  cases command.address offset with
  | error fault => simp
  | ok address =>
    obtain ⟨raw⟩ := address
    simp

theorem readsBack_numberField {number : UInt32} :
    (numberField offset number).ReadsBack command ↔ command.number offset = .ok number :=
  (@readsBack_addressField command offset ⟨number⟩).trans number_eq_ok.symm

end Operands

/-- The handler of a statement's opcode reads what the statement was given. -/
theorem read_of_readsBack {command : Command} {addressOf : Label → Address} (statement : Statement)
    (reads : ∀ field ∈ (statement.resolve addressOf).fields, field.ReadsBack command) :
    Instruction.read statement.opcode command = .ok (statement.instruction addressOf) := by
  cases statement
  case exit | ret | loopRepeat | loopBegin | skip | skipNop | pushPool | popPool | initLevel |
    clearLevel | allocLevelPool | freeLevelPool | endArea | unloadArea | nop => rfl
  all_goals
    simp only [Statement.resolve, Statement.fields, segmentFields, conditionFields, callFields,
      placementFields, warpFields, vectorFields, List.cons_append, List.nil_append,
      List.forall_mem_cons, readsBack_addressField, readsBack_numberField] at reads
    simp only [Field.ReadsBack] at reads
    simp only [Statement.opcode, Instruction.read, Command.segmentLoad, Command.condition,
      Command.vec3, Command.warpNode, reads, ok_bind, Comparison.ofCode_code]
    rfl

end Assembly

end StageScript
