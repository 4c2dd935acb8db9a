import StageScript.Cli.Path

/-!
Places that are there whatever files there are: folders, and devices, which are read and written
like files and keep nothing.
-/

namespace StageScript.Cli

inductive Device where
  | null
  /-- Has no room for anything, and no end. -/
  | full
  | input
  | output
  deriving DecidableEq, Repr

def Device.ofName? : String → Option Device
  | "null" => some .null
  | "full" => some .full
  | "stdin" => some .input
  | "stdout" => some .output
  | _ => none

namespace Place

def device? : Place → Option Device
  | ⟨.root, [name, "dev"]⟩ => Device.ofName? name
  | _ => none

/-- Folders that every root has. -/
def standardFolders : List String :=
  ["bin", "boot", "dev", "etc", "home", "lib", "media", "mnt", "opt", "proc", "root", "run",
    "sbin", "srv", "sys", "tmp", "usr", "var"]

/-- Whether a folder is in a place even if no file is in it: the root with its standard folders,
the working folder, and the folders above it. -/
def isStandard : Place → Bool
  | ⟨_, []⟩ => true
  | ⟨.root, [name]⟩ => standardFolders.contains name
  | _ => false

/-- The folder of the running processes, which takes no files. -/
def processes : Place := ⟨.root, ["proc"]⟩

end Place

end StageScript.Cli
