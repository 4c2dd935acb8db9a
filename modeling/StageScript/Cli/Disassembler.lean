import StageScript.Cli.Response
import StageScript.Listing

/-!
The command that lists a script.
-/

namespace StageScript.Cli.Disassembler

structure Options where
  input : String
  config : Option String
  layout : Layout
  output : Option String

def specs : List OptionSpec :=
  [⟨"config", some 'c', true, acceptsPath⟩, ⟨"wide", none, false, fun _ => true⟩,
    ⟨"big-extensions", none, false, fun _ => true⟩, ⟨"output", some 'o', true, acceptsPath⟩]

def manual : Manual := ⟨
  "Lists the commands of a level script\n\n" ++
  "Usage: levelscript-disasm [OPTIONS] <INPUT>\n\n" ++
  "Arguments:\n" ++
  "  <INPUT>  Script file to disassemble\n\n" ++
  "Options:\n" ++
  "  -c, --config <CONFIG>  Take the command layout from a TOML interpreter configuration\n" ++
  "      --wide             Scripts use 8-byte pointers\n" ++
  "      --big-extensions   Extension opcodes store their operands big-endian\n" ++
  "  -o, --output <OUTPUT>  Output path (defaults to stdout)\n" ++
  "  -h, --help             Print help\n" ++
  "  -V, --version          Print version\n"⟩

/-- A configuration and the options that say what it says exclude each other. -/
def options (arguments : Arguments) : Except Refusal Options :=
  let wide := arguments.has "wide"
  let big := arguments.has "big-extensions"
  if arguments.has "config" ∧ (wide ∨ big) then .error .usage
  else
    match arguments.operands with
    | [input] =>
      let width := if wide then .wide else .narrow
      let order := if big then .big else .little
      .ok ⟨input, arguments.value? "config", ⟨width, order⟩, arguments.value? "output"⟩
    | _ => .error .usage

/-- Goes on with the layout that the options choose. -/
def withLayout (options : Options) (next : Layout → Action) : Action :=
  match options.config with
  | none => next options.layout
  | some path => .readConfig path fun config => next config.layout

def act (options : Options) : Action :=
  withLayout options fun layout =>
    .readInput options.input fun bytes =>
      let listing := Listing.disassemble layout bytes
      match options.output with
      | none => .respond (.success listing)
      | some path =>
        let count := (Listing.lines layout bytes).length
        .writeOutput path listing
          (.success s!"Disassembled {options.input} -> {path} ({count} commands)\n")

def main (texts : List String) : Action :=
  match (Arguments.parse specs texts).bind options with
  | .error refusal => .respond (manual.answer refusal)
  | .ok options => act options

end StageScript.Cli.Disassembler
