import StageScript.Listing
import StageScript.Proofs.Labels

/-!
What is written, read and listed agrees. Following a finished script from its first command to the
next meets one command for every statement, up to the end of the bytes; its handler reads what the
statement was given, and its line of the listing shows it.
-/

namespace StageScript

open Assembly

namespace Assembly.Statement

section Listed

def decimal (number : Nat) : String := toString number

def signed (number : Int16) : String := toString number.toInt

def hex (number : UInt32) : String := Text.Hex.tagged 0 number.toNat

def pointer (number : UInt32) : String := Text.Hex.tagged 8 number.toNat

def conditionListed (comparison : Comparison) (literal : Int32) : List (String × String) :=
  [("op", comparison.symbol), ("arg", toString literal.toInt)]

def rangeListed (start stop : UInt32) : List (String × String) :=
  [("start", pointer start), ("end", pointer stop)]

def vectorListed (x y z : String) (vector : Vec3) : List (String × String) :=
  [(x, signed vector.x), (y, signed vector.y), (z, signed vector.z)]

def warpListed (node : WarpNode) : List (String × String) :=
  [("id", decimal node.id.toNat), ("level", decimal node.destLevel.toNat),
    ("area", decimal node.destArea.toNat), ("node", decimal node.destNode.toNat),
    ("flags", decimal node.flags.toNat)]

/-- The operands that a listing shows of a statement. -/
def listed (addressOf : Label → Address) : Statement → List (String × String)
  | .execute segment start stop entry | .exitAndExecute segment start stop entry =>
    ("seg", decimal segment.toNat) :: rangeListed start stop ++
      [("entry", pointer (entry.resolve addressOf).raw)]
  | .sleep frames | .sleepBeforeExit frames => [("frames", signed frames)]
  | .jump target | .jumpLink target => [("target", pointer (target.resolve addressOf).raw)]
  | .loopBeginCount count => [("count", signed count)]
  | .loopUntil comparison literal | .skipIf comparison literal => conditionListed comparison literal
  | .jumpIf comparison literal target | .jumpLinkIf comparison literal target =>
    conditionListed comparison literal ++ [("target", pointer (target.resolve addressOf).raw)]
  | .call argument function | .callLoop argument function =>
    [("arg", signed argument), ("func", pointer function)]
  | .setRegister value => [("value", signed value)]
  | .loadFixed dest start stop => ("dest", pointer dest.raw) :: rangeListed start stop
  | .loadRaw segment start stop | .loadCompressed segment start stop =>
    ("seg", decimal segment.toNat) :: rangeListed start stop
  | .beginArea area geometry => [("area", decimal area.toNat), ("geo", pointer geometry.raw)]
  | .loadModelFromGeo model geometry =>
    [("model", decimal model.toNat), ("geo", pointer geometry.raw)]
  | .loadModelFromDl model displayList layer =>
    [("model", decimal model.toNat), ("dl", pointer displayList.raw),
      ("layer", decimal layer.toNat)]
  | .placeObject placement behavior =>
    [("acts", decimal placement.acts.toNat), ("model", decimal placement.model.toNat)] ++
      vectorListed "x" "y" "z" placement.position ++ vectorListed "rx" "ry" "rz" placement.angle ++
      [("arg", hex placement.behaviorArg), ("beh", pointer behavior.raw)]
  | .placeObjectExt placement behaviorToken =>
    [("acts", decimal placement.acts.toNat), ("model", decimal placement.model.toNat)] ++
      vectorListed "x" "y" "z" placement.position ++
      [("arg", hex placement.behaviorArg), ("beh_token", hex behaviorToken)]
  | .placeObjectExt2 placement modelToken behaviorToken =>
    ("acts", decimal placement.acts.toNat) :: vectorListed "x" "y" "z" placement.position ++
      [("arg", hex placement.behaviorArg), ("model_token", hex modelToken),
        ("beh_token", hex behaviorToken)]
  | .initPlayer model behaviorArg behavior =>
    [("model", decimal model.toNat), ("arg", hex behaviorArg), ("beh", pointer behavior.raw)]
  | .createWarpNode node | .createPaintingWarpNode node => warpListed node
  | .createInstantWarp index warp =>
    [("index", decimal index.toNat), ("area", decimal warp.destArea.toNat)] ++
      vectorListed "dx" "dy" "dz" warp.displacement
  | .loadArea area => [("area", decimal area.toNat)]
  | .setPlayerStartPos area yaw position =>
    [("area", decimal area.toNat), ("yaw", signed yaw)] ++ vectorListed "x" "y" "z" position
  | .setTerrainData data => [("data", pointer data.raw)]
  | .showDialog index dialog => [("index", decimal index.toNat), ("dialog", decimal dialog.toNat)]
  | .setTerrainType terrain => [("type", signed terrain)]
  | .transition kind time color =>
    [("kind", decimal kind.toNat), ("time", decimal time.toNat), ("r", decimal color.red.toNat),
      ("g", decimal color.green.toNat), ("b", decimal color.blue.toNat)]
  | .setMusic music => [("settings", signed music.settings), ("seq", signed music.sequence)]
  | .createWhirlpool index whirlpool =>
    [("index", decimal index.toNat), ("condition", decimal whirlpool.condition.toNat)] ++
      vectorListed "x" "y" "z" whirlpool.position ++ [("strength", signed whirlpool.strength)]
  | .getOrSet mode var => [("mode", decimal mode.toNat), ("var", decimal var.toNat)]
  | .loadModelFromGeoExt model geometryToken =>
    [("model", decimal model.toNat), ("geo_token", hex geometryToken)]
  | .callExt argument functionToken | .callLoopExt argument functionToken =>
    [("arg", signed argument), ("func_token", hex functionToken)]
  | .exit | .ret | .loopRepeat | .loopBegin | .skip | .skipNop | .pushPool | .popPool
  | .initLevel | .clearLevel | .allocLevelPool | .freeLevelPool | .endArea | .unloadArea
  | .nop => []

def text (addressOf : Label → Address) (statement : Statement) : String :=
  statement.opcode.mnemonic ++
    String.join ((statement.listed addressOf).map fun (name, value) => s!" {name}={value}")

theorem toString_segment (segment : UInt8) :
    toString segment.toUInt16.toInt16.toInt = decimal segment.toNat := by
  have bound := segment.toNat_lt
  have positive : 2 * segment.toUInt16.toNat < 2 ^ 16 := by
    rw [UInt8.toNat_toUInt16]
    omega
  have whole : segment.toUInt16.toInt16.toInt = segment.toNat :=
    BitVec.toInt_eq_toNat_of_lt positive
  rw [whole]
  rfl

theorem comparisonText_code (comparison : Comparison) :
    Listing.comparisonText comparison.code = comparison.symbol := by
  rw [Listing.comparisonText, comparison.ofCode_code]

variable {addressOf : Label → Address} {command : Command}

theorem operandText_of_readsBack (statement : Statement)
    (reads : ∀ field ∈ (statement.resolve addressOf).fields, field.ReadsBack command) :
    (Listing.operands statement.opcode).map (Listing.operandText command) =
      (statement.listed addressOf).map fun (name, value) => s!" {name}={value}" := by
  cases statement
  case exit | ret | loopRepeat | loopBegin | skip | skipNop | pushPool | popPool | initLevel |
    clearLevel | allocLevelPool | freeLevelPool | endArea | unloadArea | nop => rfl
  all_goals
    simp only [resolve, fields, segmentFields, conditionFields, callFields,
      placementFields, warpFields, vectorFields, List.cons_append, List.nil_append,
      List.forall_mem_cons, readsBack_addressField, readsBack_numberField] at reads
    simp only [Field.ReadsBack, number_eq_ok, address_eq_ok] at reads
    simp only [opcode, Listing.operands, List.map_cons, List.map_nil, Listing.operandText,
      Listing.operandValue, reads, ok_bind, toString_segment, comparisonText_code]
    rfl

theorem commandText_command (statement : Statement) (layout : Layout) (place : Pointer) :
    Listing.commandText (statement.command layout addressOf place) = statement.text addressOf := by
  rw [Listing.commandText, statement.opcode?_command]
  exact congrArg (statement.opcode.mnemonic ++ String.join ·)
    (statement.operandText_of_readsBack statement.carries_command.reads)

end Listed

/-- A command shows its statement in every way: to a reader of any field, to the handler of its
opcode, and in a listing. -/
structure ShownBy (layout : Layout) (addressOf : Label → Address) (statement : Statement)
    (command : Command) : Prop where
  carries : Carries layout command statement.opcode.code statement.opcode.size
    (statement.resolve addressOf).fields
  read : Instruction.read statement.opcode command = .ok (statement.instruction addressOf)
  text : Listing.commandText command = statement.text addressOf

theorem shownBy_command (layout : Layout) (addressOf : Label → Address) (place : Pointer)
    (statement : Statement) :
    statement.ShownBy layout addressOf (statement.command layout addressOf place) where
  carries := statement.carries_command
  read := statement.read_command
  text := statement.commandText_command layout place

end Assembly.Statement

/-- The commands met by going from each to the next, up to the end of the bytes. -/
inductive Command.Follow (layout : Layout) (bytes : Bytes) : Pointer → List Command → Prop where
  | done {pointer : Pointer} (ends : pointer.offset = bytes.size) : Follow layout bytes pointer []
  | next {pointer : Pointer} {command : Command} {rest : List Command}
    (decoded : decode layout bytes pointer = .ok command)
    (others : Follow layout bytes command.next rest) : Follow layout bytes pointer (command :: rest)

theorem Command.getElem?_of_decode {layout : Layout} {bytes : Bytes} {pointer : Pointer}
    {command : Command} (decoded : decode layout bytes pointer = .ok command) :
    bytes[pointer.offset]? = some command.code := by
  have code := codeAt_of_decode decoded
  unfold codeAt at code
  split at code
  next code' found =>
    cases code
    exact found
  next => cases code

theorem Listing.linesFrom_of_decode {layout : Layout} {bytes : Bytes} {offset : Nat}
    {command : Command} {opcode : Opcode}
    (decoded : Command.decode layout bytes ⟨0, offset⟩ = .ok command)
    (known : command.opcode? = some opcode) :
    linesFrom layout bytes offset =
      .command offset command :: linesFrom layout bytes (offset + command.length) := by
  have code := Command.getElem?_of_decode decoded
  have recognized : ¬Opcode.count ≤ command.code.toNat := fun beyond => by
    rw [Command.opcode?, (Opcode.ofCode?_eq_none_iff _).mpr beyond] at known
    cases known
  rw [linesFrom, code]
  simp only [if_neg recognized]
  split
  next fault failed => rw [decoded] at failed; cases failed
  next again found =>
    rw [decoded, Except.ok.injEq] at found
    rw [found]

namespace Assembly

def listing (layout : Layout) (addressOf : Label → Address) : Nat → List Statement → List String
  | _, [] => []
  | offset, statement :: rest =>
    s!"{Text.Hex.padded 6 offset}: {statement.text addressOf}\n" ::
      listing layout addressOf (offset + statement.length layout) rest

variable {layout : Layout} {addressOf : Label → Address} {buffer : BufferId}

theorem follow_script (before rest : List Statement) :
    ∃ commands, Command.Follow layout
        (script layout ((before ++ rest).map (Statement.resolve addressOf)))
        ⟨buffer, lengthOf layout before⟩ commands ∧
      List.Forall₂ (Statement.ShownBy layout addressOf) rest commands := by
  induction rest generalizing before with
  | nil =>
    refine ⟨[], .done ?_, .nil⟩
    rw [size_script, lengthOf_resolve, List.append_nil]
  | cons statement rest ih =>
    obtain ⟨commands, follow, shown⟩ := ih (before ++ [statement])
    rw [← List.append_cons] at follow
    refine ⟨_, .next (decode_script before rest statement buffer) ?_,
      .cons (statement.shownBy_command _ _ _) shown⟩
    rwa [statement.next_command, Pointer.advance, ← lengthOf_singleton, ← lengthOf_append]

theorem linesFrom_script (before rest : List Statement) :
    (Listing.linesFrom layout (script layout ((before ++ rest).map (Statement.resolve addressOf)))
        (lengthOf layout before)).map (fun line => line.text ++ "\n") =
      listing layout addressOf (lengthOf layout before) rest := by
  induction rest generalizing before with
  | nil =>
    rw [List.append_nil, Listing.linesFrom, getElem?_script_end]
    rfl
  | cons statement rest ih =>
    have others := ih (before ++ [statement])
    rw [← List.append_cons, lengthOf_append, lengthOf_singleton] at others
    rw [Listing.linesFrom_of_decode (decode_script before rest statement 0)
        statement.opcode?_command, List.map_cons, statement.length_command, others, listing,
        ← statement.commandText_command]
    rfl

/-- The script that calls have written holds one command for each of their statements. Whoever
follows it, runs it or lists it finds there what the calls were given. -/
theorem Draft.finish_agrees {layout : Layout} {segment : UInt8} {base : UInt32} {calls : List Call}
    {draft : Draft} {bytes : Bytes}
    (performed : (fresh layout segment base).performAll calls = .ok draft)
    (finished : draft.finish = .ok bytes) :
    (∀ label ∈ targets calls, ∃ offset, boundAt layout calls label = some offset ∧
      (addressAt layout segment base calls label).segment = segment ∧
      (addressAt layout segment base calls label).offset.toNat = base.toNat + offset) ∧
    (∀ buffer, ∃ commands, Command.Follow layout bytes ⟨buffer, 0⟩ commands ∧
      List.Forall₂ (Statement.ShownBy layout (addressAt layout segment base calls))
        (statements calls) commands) ∧
    Listing.disassemble layout bytes =
      String.join (listing layout (addressAt layout segment base calls) 0 (statements calls)) := by
  refine ⟨(resolved_of_performAll performed finished).addresses, ?_⟩
  obtain ⟨-, rfl⟩ := (after_of_performAll performed).finish_eq_ok.mp finished
  refine ⟨fun buffer => follow_script [] (statements calls), ?_⟩
  exact congrArg String.join (linesFrom_script [] (statements calls))

theorem Draft.finish_agrees_crossing :
    ∃ draft bytes, (fresh ⟨.wide, .big⟩ 14 0x100).performAll crossing = .ok draft ∧
      draft.finish = .ok bytes ∧
      (∀ label ∈ targets crossing, ∃ offset, boundAt ⟨.wide, .big⟩ crossing label = some offset ∧
        (addressAt ⟨.wide, .big⟩ 14 0x100 crossing label).segment = 14 ∧
        (addressAt ⟨.wide, .big⟩ 14 0x100 crossing label).offset.toNat = 0x100 + offset) ∧
      (∀ buffer, ∃ commands, Command.Follow ⟨.wide, .big⟩ bytes ⟨buffer, 0⟩ commands ∧
        List.Forall₂ (Statement.ShownBy ⟨.wide, .big⟩ (addressAt ⟨.wide, .big⟩ 14 0x100 crossing))
          (statements crossing) commands) ∧
      Listing.disassemble ⟨.wide, .big⟩ bytes =
        String.join (listing ⟨.wide, .big⟩ (addressAt ⟨.wide, .big⟩ 14 0x100 crossing) 0
          (statements crossing)) := by
  obtain ⟨draft, performed⟩ := exists_performAll ⟨.wide, .big⟩ 14 0x100 crossing (by decide)
  have finished := (after_of_performAll performed).finish_eq_ok.mpr ⟨by decide, rfl⟩
  exact ⟨draft, _, performed, finished, finish_agrees performed finished⟩

end Assembly

end StageScript
