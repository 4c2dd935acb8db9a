import StageScript.Command

/-!
Listings of scripts. A command is written as its mnemonic followed by its named operands, and
a script as one line per command, each with the offset at which the command starts. A listing
stops at the end of the bytes, at the first byte that is no opcode, or at a command that cannot
be decoded.
-/

namespace StageScript.Listing

/-- How an operand is written. -/
inductive Style where
  | u8
  | u16
  | i16
  | i32
  | hex
  | pointer
  | comparison
  deriving DecidableEq, Repr

structure Operand where
  name : String
  style : Style
  offset : Nat

def operands : Opcode → List Operand
  | .execute | .exitAndExecute =>
    [⟨"seg", .i16, 2⟩, ⟨"start", .pointer, 4⟩, ⟨"end", .pointer, 8⟩, ⟨"entry", .pointer, 12⟩]
  | .sleep | .sleepBeforeExit => [⟨"frames", .i16, 2⟩]
  | .jump | .jumpLink => [⟨"target", .pointer, 4⟩]
  | .loopBeginCount => [⟨"count", .i16, 2⟩]
  | .loopUntil | .skipIf => [⟨"op", .comparison, 2⟩, ⟨"arg", .i32, 4⟩]
  | .jumpIf | .jumpLinkIf =>
    [⟨"op", .comparison, 2⟩, ⟨"arg", .i32, 4⟩, ⟨"target", .pointer, 8⟩]
  | .call | .callLoop => [⟨"arg", .i16, 2⟩, ⟨"func", .pointer, 4⟩]
  | .setRegister => [⟨"value", .i16, 2⟩]
  | .loadFixed => [⟨"dest", .pointer, 4⟩, ⟨"start", .pointer, 8⟩, ⟨"end", .pointer, 12⟩]
  | .loadRaw | .loadCompressed =>
    [⟨"seg", .i16, 2⟩, ⟨"start", .pointer, 4⟩, ⟨"end", .pointer, 8⟩]
  | .beginArea => [⟨"area", .u8, 2⟩, ⟨"geo", .pointer, 4⟩]
  | .loadModelFromDl => [⟨"model", .u16, 2⟩, ⟨"dl", .pointer, 4⟩, ⟨"layer", .u16, 8⟩]
  | .loadModelFromGeo => [⟨"model", .u16, 2⟩, ⟨"geo", .pointer, 4⟩]
  | .loadModelScaled => [⟨"model", .u16, 2⟩, ⟨"dl", .pointer, 4⟩, ⟨"scale", .hex, 8⟩]
  | .placeObject =>
    [⟨"acts", .u8, 2⟩, ⟨"model", .u8, 3⟩, ⟨"x", .i16, 4⟩, ⟨"y", .i16, 6⟩, ⟨"z", .i16, 8⟩,
      ⟨"rx", .i16, 10⟩, ⟨"ry", .i16, 12⟩, ⟨"rz", .i16, 14⟩, ⟨"arg", .hex, 16⟩,
      ⟨"beh", .pointer, 20⟩]
  | .placeObjectExt =>
    [⟨"acts", .u8, 2⟩, ⟨"model", .u8, 3⟩, ⟨"x", .i16, 4⟩, ⟨"y", .i16, 6⟩, ⟨"z", .i16, 8⟩,
      ⟨"arg", .hex, 16⟩, ⟨"beh_token", .hex, 20⟩]
  | .placeObjectExt2 =>
    [⟨"acts", .u8, 2⟩, ⟨"x", .i16, 4⟩, ⟨"y", .i16, 6⟩, ⟨"z", .i16, 8⟩, ⟨"arg", .hex, 16⟩,
      ⟨"model_token", .hex, 20⟩, ⟨"beh_token", .hex, 24⟩]
  | .initPlayer => [⟨"model", .u8, 3⟩, ⟨"arg", .hex, 4⟩, ⟨"beh", .pointer, 8⟩]
  | .createWarpNode | .createPaintingWarpNode =>
    [⟨"id", .u8, 2⟩, ⟨"level", .u8, 3⟩, ⟨"area", .u8, 4⟩, ⟨"node", .u8, 5⟩, ⟨"flags", .u8, 6⟩]
  | .createInstantWarp =>
    [⟨"index", .u8, 2⟩, ⟨"area", .u8, 3⟩, ⟨"dx", .i16, 4⟩, ⟨"dy", .i16, 6⟩, ⟨"dz", .i16, 8⟩]
  | .loadArea => [⟨"area", .u8, 2⟩]
  | .setPlayerStartPos =>
    [⟨"area", .u8, 2⟩, ⟨"yaw", .i16, 4⟩, ⟨"x", .i16, 6⟩, ⟨"y", .i16, 8⟩, ⟨"z", .i16, 10⟩]
  | .setTerrainData | .setRooms | .setMacroObjects => [⟨"data", .pointer, 4⟩]
  | .showDialog => [⟨"index", .u8, 2⟩, ⟨"dialog", .u8, 3⟩]
  | .setTerrainType => [⟨"type", .i16, 2⟩]
  | .transition =>
    [⟨"kind", .u8, 2⟩, ⟨"time", .u8, 3⟩, ⟨"r", .u8, 4⟩, ⟨"g", .u8, 5⟩, ⟨"b", .u8, 6⟩]
  | .blackout => [⟨"active", .u8, 2⟩]
  | .gamma => [⟨"enabled", .u8, 2⟩]
  | .setMusic => [⟨"settings", .i16, 2⟩, ⟨"seq", .i16, 4⟩]
  | .setMenuMusic => [⟨"seq", .i16, 2⟩]
  | .stopMusic => [⟨"fade", .i16, 2⟩]
  | .createWhirlpool =>
    [⟨"index", .u8, 2⟩, ⟨"condition", .u8, 3⟩, ⟨"x", .i16, 4⟩, ⟨"y", .i16, 6⟩, ⟨"z", .i16, 8⟩,
      ⟨"strength", .i16, 10⟩]
  | .getOrSet => [⟨"mode", .u8, 2⟩, ⟨"var", .u8, 3⟩]
  | .loadModelFromGeoExt => [⟨"model", .u16, 2⟩, ⟨"geo_token", .hex, 4⟩]
  | .callExt | .callLoopExt => [⟨"arg", .i16, 2⟩, ⟨"func_token", .hex, 4⟩]
  | _ => []

/-- A number that names no comparison is written after a question mark. -/
def comparisonText (code : UInt8) : String :=
  match Comparison.ofCode code with
  | .ok comparison => comparison.symbol
  | .error _ => s!"?{code.toNat}"

def operandValue (command : Command) (style : Style) (offset : Nat) : Except ReadFault String :=
  match style with
  | .u8 => do return toString (← command.u8 offset).toNat
  | .u16 => do return toString (← command.u16 offset).toNat
  | .i16 => do return toString (← command.i16 offset).toInt
  | .i32 => do return toString (← command.i32 offset).toInt
  | .hex => do return Text.Hex.tagged 0 (← command.u32 offset).toNat
  | .pointer => do return Text.Hex.tagged 8 (← command.pointerValue offset)
  | .comparison => do return comparisonText (← command.u8 offset)

/-- An operand that cannot be read is shown as its fault in angle brackets. -/
def operandText (command : Command) (operand : Operand) : String :=
  match operandValue command operand.style operand.offset with
  | .ok value => s!" {operand.name}={value}"
  | .error fault => s!" {operand.name}=<{fault.message}>"

def unknownText (code : UInt8) : String := s!"UNKNOWN_{Text.Hex.tagged 2 code.toNat}"

def commandText (command : Command) : String :=
  match command.opcode? with
  | none => unknownText command.code
  | some opcode => opcode.mnemonic ++ String.join ((operands opcode).map (operandText command))

/-- One line of a listing. -/
inductive Line where
  | command (offset : Nat) (command : Command)
  | unknown (offset : Nat) (code : UInt8)
  | broken (offset : Nat) (fault : ReadFault)

namespace Line

def offset : Line → Nat
  | .command offset _ => offset
  | .unknown offset _ => offset
  | .broken offset _ => offset

private def place (offset : Nat) : String := Text.Hex.padded 6 offset

def text : Line → String
  | .command offset decoded => s!"{place offset}: {commandText decoded}"
  | .unknown offset code => s!"{place offset}: {unknownText code} ; end of recognized stream"
  | .broken offset fault => s!"{place offset}: ; {fault.message}"

end Line

/-- The lines from an offset on; the script counts as buffer zero. -/
def linesFrom (layout : Layout) (bytes : Bytes) (offset : Nat) : List Line :=
  match bytes[offset]? with
  | none => []
  | some code =>
    if Opcode.count ≤ code.toNat then [.unknown offset code]
    else
      match _decoded : Command.decode layout bytes ⟨0, offset⟩ with
      | .error fault => [.broken offset fault]
      | .ok command => .command offset command :: linesFrom layout bytes (offset + command.length)
termination_by bytes.size - offset
decreasing_by
  have bounds := Command.length_of_decode _decoded
  simp only at bounds
  omega

def lines (layout : Layout) (bytes : Bytes) : List Line := linesFrom layout bytes 0

def disassemble (layout : Layout) (bytes : Bytes) : String :=
  String.join ((lines layout bytes).map fun line => line.text ++ "\n")

end StageScript.Listing
