import StageScript.Cli.Arguments
import StageScript.Config.Reading

/-!
What a command answers: an exit code, its output and its complaints; and what it does on the way
there, which is to read and write files.
-/

namespace StageScript.Cli

structure Response where
  exit : UInt32
  stdout : String
  stderr : String
  deriving DecidableEq, Repr

namespace Response

def success (stdout : String) : Response := ⟨0, stdout, ""⟩

/-- A failure names what could not be done, and below it the error that was in the way. -/
def failure (text : String) (cause : Option String) : Response :=
  match cause with
  | none => ⟨1, "", s!"Error: {text}\n"⟩
  | some cause => ⟨1, "", s!"Error: {text}\n\nCaused by:\n    {cause}\n"⟩

def ofConfigError (error : ConfigError) : Response := failure error.message error.cause?

end Response

/-- Why a file was not written: it could not be made, or it could not take its content. -/
inductive WriteError where
  | create (error : FileError)
  | fill (error : FileError)
  deriving DecidableEq, Repr

def Response.ofWriteError (path : String) : WriteError → Response
  | .create error => failure s!"failed to create {path}" (some error.message)
  | .fill error => failure s!"failed to write {path}" (some error.message)

/-- What a command does next. Going on after a file depends on what was read, or on whether it
could be written. -/
inductive Action where
  | respond (response : Response)
  | read (path : String) (next : Except FileError Bytes → Action)
  | write (path content : String) (next : Except WriteError Unit → Action)

/-- The name that the tools are known by, and their version. -/
def versionText : String := "levelscript 0.1.0\n"

structure Manual where
  help : String

/-- The answer to a command line that asks for no run. -/
def Manual.answer (manual : Manual) : Refusal → Response
  | .usage => ⟨2, "", manual.help⟩
  | .request .help => .success manual.help
  | .request .version => .success versionText

namespace Action

/-- Goes on with the configuration in a file. -/
def readConfig (path : String) (next : Config → Action) : Action :=
  .read path fun content =>
    match Config.ofFile path content with
    | .ok config => next config
    | .error error => .respond (.ofConfigError error)

/-- Goes on with the content of a file that has to be there. -/
def readInput (path : String) (next : Bytes → Action) : Action :=
  .read path fun content =>
    match content with
    | .ok bytes => next bytes
    | .error error => .respond (.failure s!"failed to read {path}" (some error.message))

def writeOutput (path content : String) (written : Response) : Action :=
  .write path content fun result =>
    match result with
    | .ok () => .respond written
    | .error error => .respond (.ofWriteError path error)

end Action

end StageScript.Cli
