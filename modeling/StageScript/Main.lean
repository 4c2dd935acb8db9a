import StageScript.Cli

/-!
The command line. The first argument names the tool and the rest is its own command line.
-/

namespace StageScript

/-- The number of a system error, which may be given as its negative. -/
def errorNumber (code : UInt32) : UInt32 := min code (-code)

def FileError.ofNumber? : UInt32 → Option FileError
  | 2 => some .notFound
  | 13 => some .denied
  | 20 => some .notDirectory
  | 21 => some .isDirectory
  | 28 => some .noSpace
  | 36 => some .nameTooLong
  | _ => none

def FileError.ofSystem (error : IO.Error) : FileError :=
  let known :=
    match error with
    | .noFileOrDirectory _ code _ | .permissionDenied _ code _ | .inappropriateType _ code _
    | .invalidArgument _ code _ | .resourceExhausted _ code _ => ofNumber? (errorNumber code)
    | _ => none
  known.getD (.other (toString error))

namespace Cli

def writeFile (path content : String) : IO (Except WriteError Unit) := do
  match ← (IO.FS.Handle.mk path .write).toBaseIO with
  | .error error => return .error (.create (.ofSystem error))
  | .ok handle =>
    match ← (handle.putStr content *> handle.flush).toBaseIO with
    | .error error => return .error (.fill (.ofSystem error))
    | .ok () => return .ok ()

/-- Reads and writes the files that an action asks for. -/
def Action.perform : Action → IO Response
  | .respond response => pure response
  | .read path next => do
    match ← (IO.FS.readBinFile path).toBaseIO with
    | .ok bytes => (next (.ok bytes.data)).perform
    | .error error => (next (.error (.ofSystem error))).perform
  | .write path content next => do
    (next (← writeFile path content)).perform

def usage : Response := ⟨2, "", "Usage: levelscript <disasm|runtime> [ARGUMENTS]\n"⟩

end Cli

end StageScript

open StageScript.Cli in
def main (arguments : List String) : IO UInt32 := do
  let response ←
    match arguments with
    | [] => pure usage
    | name :: rest =>
      match Tool.ofName? name with
      | some tool => (tool.main rest).perform
      | none => pure usage
  (← IO.getStdout).putStr response.stdout
  (← IO.getStderr).putStr response.stderr
  return response.exit
