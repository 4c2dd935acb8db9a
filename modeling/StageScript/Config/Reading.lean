import StageScript.Address
import StageScript.Config
import StageScript.Pointer
import StageScript.Toml

/-!
Reading configurations, and the smaller values they share a form with, from documents. A field
that is absent takes its standard value; a field of the wrong type makes the whole unreadable.
-/

namespace StageScript

/-- Why a file has no content to offer. -/
inductive FileError where
  | notFound
  | isDirectory
  | notDirectory
  | denied
  | nameTooLong
  | noSpace
  | outOfMemory
  | notUtf8
  | other (text : String)
  deriving DecidableEq, Repr

def FileError.message : FileError → String
  | .notFound => "No such file or directory (os error 2)"
  | .isDirectory => "Is a directory (os error 21)"
  | .notDirectory => "Not a directory (os error 20)"
  | .denied => "Permission denied (os error 13)"
  | .nameTooLong => "File name too long (os error 36)"
  | .noSpace => "No space left on device (os error 28)"
  | .outOfMemory => "out of memory"
  | .notUtf8 => "stream did not contain valid UTF-8"
  | .other text => text

inductive ConfigError where
  | unreadable (path : String) (error : FileError)
  | syntaxError
  | conflict (conflict : ConfigConflict)
  deriving DecidableEq, Repr

def ConfigError.message : ConfigError → String
  | .unreadable path error => s!"reading configuration {path}: {error.message}"
  | .syntaxError => "parsing configuration: not a valid configuration"
  | .conflict reason => s!"invalid configuration: {reason.message}"

/-- The error that a configuration error was caused by, if it is known. -/
def ConfigError.cause? : ConfigError → Option String
  | .unreadable _ error => some error.message
  | _ => none

open Document

def Address.ofDocument? (document : Document) : Option Address :=
  (natBelow? limit32 document).map fun raw => ⟨UInt32.ofNat raw⟩

def Pointer.ofDocument? (dialect : Dialect) (document : Document) : Option Pointer := do
  match ← fields? dialect ["buffer", "offset"] document with
  | [some buffer, some offset] =>
    some ⟨← natBelow? limit32 buffer, ← natBelow? limit32 offset⟩
  | _ => none

def Layout.ofDocument? (dialect : Dialect) (document : Document) : Option Layout := do
  match ← fields? dialect ["pointer_width", "extension_byte_order"] document with
  | [width, order] =>
    some {
      pointerWidth := ← withDefault Layout.standard.pointerWidth
        (fun value => (choice? dialect value).bind PointerWidth.ofText?) width
      extensionOrder := ← withDefault Layout.standard.extensionOrder
        (fun value => (choice? dialect value).bind ByteOrder.ofText?) order }
  | _ => none

namespace Config

def ofDocument? (dialect : Dialect) (document : Document) : Option Config := do
  let names :=
    ["layout", "diagnostic_budget", "main_pool_bytes", "level_pool_bytes", "step_limit"]
  match ← fields? dialect names document with
  | [layout, budget, mainPool, levelPool, steps] =>
    let size (default : Nat) := withDefault default (natBelow? limit64)
    some {
      layout := ← withDefault standard.layout (Layout.ofDocument? dialect) layout
      diagnosticBudget := ← size standard.diagnosticBudget budget
      mainPoolBytes := ← size standard.mainPoolBytes mainPool
      levelPoolBytes := ← size standard.levelPoolBytes levelPool
      stepLimit := ← size standard.stepLimit steps }
  | _ => none

/-- Reads a configuration and checks that its settings go together. -/
def ofToml (text : String) : Except ConfigError Config :=
  match (Toml.parse? text).bind (ofDocument? Toml.dialect) with
  | none => .error .syntaxError
  | some config =>
    match config.validate with
    | .error conflict => .error (.conflict conflict)
    | .ok () => .ok config

def ofFile (path : String) (content : Except FileError Bytes) : Except ConfigError Config :=
  match content with
  | .error error => .error (.unreadable path error)
  | .ok bytes =>
    match String.fromUTF8? ⟨bytes⟩ with
    | none => .error (.unreadable path .notUtf8)
    | some text => ofToml text

end Config

end StageScript
