import StageScript.Cli.Disassembler
import StageScript.Cli.Runner

/-!
The two command-line tools by name.
-/

namespace StageScript.Cli

inductive Tool where
  | disassembler
  | runner
  deriving DecidableEq, Repr

def Tool.ofName? : String → Option Tool
  | "disasm" => some .disassembler
  | "runtime" => some .runner
  | _ => none

def Tool.main : Tool → List String → Action
  | .disassembler => Disassembler.main
  | .runner => Runner.main

end StageScript.Cli
