import StageScript.Cli.Device
import StageScript.Cli.Response

/-!
Files and folders as a value. An action run among them answers its response and what it leaves,
so what a tool does to files is a function of the files that are there.
-/

namespace StageScript.Cli

/-- Files by their places, and what was written to the output device. A folder is there as long
as a file in it is. -/
structure Folder where
  files : List (Place × Bytes)
  printed : String
  deriving Repr

/-- What is found in a place. -/
inductive Entry where
  | missing
  | file (content : Bytes)
  | device (device : Device)
  | folder
  deriving DecidableEq, Repr

namespace Folder

/-- Files in the working folder, by their names. -/
def ofFiles (files : List (String × Bytes)) : Folder :=
  ⟨files.map fun (name, content) => ((Path.ofText name).place, content), ""⟩

def entry (folder : Folder) (place : Place) : Entry :=
  match place.device?, folder.files.lookup place with
  | some device, _ => .device device
  | none, some content => .file content
  | none, none =>
    if place.isStandard ∨ folder.files.any (·.1.isBelow place) then .folder else .missing

/-- Only a folder can be searched for a name. -/
def search (folder : Folder) (place : Place) : Except FileError Unit :=
  match folder.entry place with
  | .missing => .error .notFound
  | .file _ | .device _ => .error .notDirectory
  | .folder => .ok ()

/-- The bytes that a name may have. -/
def nameLimit : Nat := 255

def step (folder : Folder) (place : Place) (name : String) : Except FileError Place := do
  folder.search place
  if nameLimit < name.utf8ByteSize then .error .nameTooLong else .ok (place.enter name)

/-- Follows names, each searched for in the folder that the ones before it lead to. -/
def walk (folder : Folder) (place : Place) (names : List String) : Except FileError Place :=
  names.foldlM folder.step place

def pathOf (text : String) : Except FileError Path :=
  if text.utf8ByteSize < Path.sizeLimit then .ok (.ofText text) else .error .nameTooLong

/-- What a file or device has to read. What has no end fits in no memory. -/
def content (folder : Folder) (place : Place) : Except FileError Bytes :=
  match folder.entry place with
  | .missing => .error .notFound
  | .folder => .error .isDirectory
  | .file content => .ok content
  | .device .full => .error .outOfMemory
  | .device _ => .ok #[]

/-- Reads a file. A slash behind its name asks for a folder. -/
def read (folder : Folder) (text : String) : Except FileError Bytes := do
  let path ← pathOf text
  let place ← folder.walk path.origin path.names
  if path.slash then folder.search place
  folder.content place

/-- The place of a file to write, which is there or can be made. -/
def target (folder : Folder) (text : String) : Except FileError Place := do
  let path ← pathOf text
  let parent ← folder.walk path.origin path.names.dropLast
  folder.search parent
  match path.fileName? with
  | none => .error .isDirectory
  | some name =>
    let place ← folder.step parent name
    match folder.entry place with
    | .folder => .error .isDirectory
    | .missing => if parent = .processes then .error .notFound else .ok place
    | _ => .ok place

/-- Puts a file in a place, instead of the one that was there. -/
def put (folder : Folder) (place : Place) (content : Bytes) : Folder :=
  { folder with files := (place, content) :: folder.files.filter (·.1 != place) }

def fill (folder : Folder) (place : Place) (content : String) : Except FileError Folder :=
  match place.device? with
  | none => .ok (folder.put place content.toUTF8.data)
  | some .full => if content.isEmpty then .ok folder else .error .noSpace
  | some .output => .ok { folder with printed := folder.printed ++ content }
  | some _ => .ok folder

def write (folder : Folder) (text content : String) : Except WriteError Folder := do
  let place ← (folder.target text).mapError .create
  (folder.fill place content).mapError .fill

end Folder

/-- Runs an action among files. What went to the output device stands before the answer. -/
def Action.runIn (folder : Folder) : Action → Response × Folder
  | .respond response => ({ response with stdout := folder.printed ++ response.stdout }, folder)
  | .read path next => (next (folder.read path)).runIn folder
  | .write path content next =>
    match folder.write path content with
    | .ok written => (next (.ok ())).runIn written
    | .error failure => (next (.error failure)).runIn folder

end StageScript.Cli
