import StageScript.Cli.Response
import StageScript.Machine.Scripted
import StageScript.Text.Json

/-!
The command that runs a script for a number of frames and reports the level it built.
-/

namespace StageScript.Cli.Runner

structure Options where
  script : String
  image : Option String
  config : Option String
  segment : Nat
  ticks : Nat
  json : Bool

def specs : List OptionSpec :=
  [⟨"image", some 'i', true, acceptsPath⟩, ⟨"config", some 'c', true, acceptsPath⟩,
    ⟨"segment", none, true, fun text => (natBelow? 256 text).isSome⟩,
    ⟨"ticks", none, true, fun text => (natBelow? limit32 text).isSome⟩,
    ⟨"json", none, false, fun _ => true⟩]

def manual : Manual := ⟨
  "Runs a level script against a content image\n\n" ++
  "Usage: levelscript-runtime [OPTIONS] <SCRIPT>\n\n" ++
  "Arguments:\n" ++
  "  <SCRIPT>  Script to run, in the layout selected by the configuration\n\n" ++
  "Options:\n" ++
  "  -i, --image <IMAGE>      Content image that segment loads read from\n" ++
  "  -c, --config <CONFIG>    TOML interpreter configuration\n" ++
  "      --segment <SEGMENT>  Segment the script is mapped at so its own addresses resolve " ++
  "[default: 16]\n" ++
  "      --ticks <TICKS>      Maximum number of frames to run [default: 60]\n" ++
  "      --json               Print the report as JSON\n" ++
  "  -h, --help               Print help\n" ++
  "  -V, --version            Print version\n"⟩

def options (arguments : Arguments) : Except Refusal Options :=
  match arguments.operands with
  | [script] =>
    .ok {
      script
      image := arguments.value? "image"
      config := arguments.value? "config"
      segment := ((arguments.value? "segment").bind (natBelow? 256)).getD 16
      ticks := ((arguments.value? "ticks").bind (natBelow? limit32)).getD 60
      json := arguments.has "json" }
  | _ => .error .usage

abbrev Runtime := Machine Scripted.embedding

/-- Runs one frame after the other until the script exits, and answers how many were run, or
the fault and its frame. -/
def runTicks (ticks : Nat) : (left : Nat) → Pointer → Runtime →
    Except (Nat × Fault) (Nat × Runtime)
  | 0, _, machine => .ok (ticks, machine)
  | left + 1, cursor, machine =>
    match machine.run cursor with
    | (.error fault, _) => .error (ticks - (left + 1), fault)
    | (.ok cursor, machine) =>
      if machine.context.status = .exited then .ok (ticks - left, machine)
      else runTicks ticks left cursor machine

/-- A report as a document, in the order of its fields. -/
def report (ticks : Nat) (machine : Runtime) : Document :=
  let number (value : Nat) : Document := .integer value
  let index : Option UInt8 → Document
    | some area => number area.toNat
    | none => .null
  let area (area : Area) : Document := .table [
    ("index", number area.index.toNat),
    ("warp_nodes", number area.warpNodes.size),
    ("spawns", number area.spawns.size),
    ("has_camera", .boolean area.root.camera.isSome)]
  .table [
    ("ticks", number ticks),
    ("status", .string machine.context.status.key),
    ("register", .integer machine.context.register.toInt),
    ("cursor", match machine.context.cursor with
      | some pointer => .string pointer.text
      | none => .null),
    ("stack_depth", number machine.stack.depth),
    ("current_area", index machine.level.current),
    ("loaded_area", index machine.level.loaded),
    ("areas", .list (machine.level.occupied.map area)),
    ("diagnostics",
      .list (machine.reporter.delivered.toList.map fun diagnostic =>
        .string diagnostic.message))]

def summary (ticks : Nat) (machine : Runtime) : String :=
  let areas := machine.level.occupied
  let areaLine (area : Area) : String :=
    s!"  area {area.index.toNat}: {area.warpNodes.size} warp node(s), " ++
    s!"{area.spawns.size} spawn(s)\n"
  s!"{machine.context.status.title} after {ticks} tick(s), " ++
  s!"register {machine.context.register.toInt}, {areas.length} area(s)\n" ++
  String.join (areas.map areaLine) ++
  String.join (machine.reporter.delivered.toList.map fun diagnostic =>
    s!"  ! {diagnostic.message}\n")

def segmentText (segment : Nat) : String := Text.Hex.tagged 2 segment

def respond (options : Options) (config : Config) (script image : Bytes) : Response :=
  let fresh : Runtime := (Machine.ofImage config image).recording
  let (buffer, memory) := fresh.memory.install script
  match memory.mapSegment options.segment buffer with
  | .error error =>
    .failure s!"cannot map the script at segment {segmentText options.segment}"
      (some error.message)
  | .ok memory =>
    match runTicks options.ticks options.ticks (.startOf buffer) { fresh with memory } with
    | .error (tick, fault) =>
      .failure s!"script faulted on tick {tick}" (some fault.message)
    | .ok (ticks, machine) =>
      if options.json then .success (Text.Json.pretty 0 (report ticks machine) ++ "\n")
      else .success (summary ticks machine)

/-- Goes on with the configuration that the options choose. -/
def withConfig (options : Options) (next : Config → Action) : Action :=
  match options.config with
  | none => next .standard
  | some path => .readConfig path next

def withImage (options : Options) (next : Bytes → Action) : Action :=
  match options.image with
  | none => next #[]
  | some path => .readInput path next

def act (options : Options) : Action :=
  withConfig options fun config =>
    .readInput options.script fun script =>
      withImage options fun image => .respond (respond options config script image)

def main (texts : List String) : Action :=
  match (Arguments.parse specs texts).bind options with
  | .error refusal => .respond (manual.answer refusal)
  | .ok options => act options

end StageScript.Cli.Runner
