import StageScript.Document
import StageScript.Text.Hex

/-!
Documents written as JSON over several lines, two blanks for each level of nesting. An empty
list or table stays on one line.
-/

namespace StageScript.Text.Json

def escape (c : Char) : List Char :=
  if c = '"' then ['\\', '"']
  else if c = '\\' then ['\\', '\\']
  else if c = '\n' then ['\\', 'n']
  else if c = '\r' then ['\\', 'r']
  else if c = '\t' then ['\\', 't']
  else if c = '\x08' then ['\\', 'b']
  else if c = '\x0c' then ['\\', 'f']
  else if c < ' ' then
    ['\\', 'u', '0', '0', Nat.digitChar (c.toNat / 16), Nat.digitChar (c.toNat % 16)]
  else [c]

def quoted (text : String) : String :=
  "\"" ++ String.ofList (text.toList.flatMap escape) ++ "\""

def indent (depth : Nat) : String := String.ofList (List.replicate (2 * depth) ' ')

def block (opening closing : String) (depth : Nat) : List String → String
  | [] => opening ++ closing
  | lines =>
    let body := ",\n".intercalate (lines.map (indent (depth + 1) ++ ·))
    opening ++ "\n" ++ body ++ "\n" ++ indent depth ++ closing

mutual

def pretty (depth : Nat) : Document → String
  | .null => "null"
  | .boolean value => if value then "true" else "false"
  | .integer value => toString value
  | .float text => text
  | .string value => quoted value
  | .moment text => quoted text
  | .list items => block "[" "]" depth (prettyItems depth items)
  | .table entries => block "\x7b" "\x7d" depth (prettyEntries depth entries)

def prettyItems (depth : Nat) : List Document → List String
  | [] => []
  | item :: rest => pretty (depth + 1) item :: prettyItems depth rest

def prettyEntries (depth : Nat) : List (String × Document) → List String
  | [] => []
  | (key, value) :: rest =>
    (quoted key ++ ": " ++ pretty (depth + 1) value) :: prettyEntries depth rest

end

/-- In JSON only `null` adds nothing to a name, and a list has no items to spare. -/
def dialect : Document.Dialect where
  surplusItems := false
  isUnit := fun
    | .null => true
    | _ => false

end StageScript.Text.Json
