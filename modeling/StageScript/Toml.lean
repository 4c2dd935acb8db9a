import StageScript.Toml.Node
import StageScript.Toml.Scalar

/-!
Reading TOML. A text is a sequence of lines, each a key with its value or the header of a
table; the result is one table. A text that breaks the rules has no result.
-/

namespace StageScript.Toml

mutual

/-- A value inside a number of arrays and inline tables, with fuel for at least as many readers as it has characters. -/
def value? (fuel depth : Nat) (text : List Char) : Option (Document × List Char) :=
  match fuel with
  | 0 => none
  | fuel + 1 =>
    match text with
    | '"' :: _ | '\'' :: _ => (string? text).map fun (content, rest) => (.string content, rest)
    | '[' :: rest =>
      if depth + 1 < depthLimit then
        (items? fuel (depth + 1) rest).map fun (items, rest) => (.list items, rest)
      else none
    | '\x7b' :: rest =>
      if depth + 1 < depthLimit then
        (pairs? fuel (depth + 1) true [] rest).map fun (entries, rest) =>
          (.table (documents entries), rest)
      else none
    | _ => scalar? text

/-- The items of an array up to its closing bracket; a comma may follow the last one. -/
def items? (fuel depth : Nat) (text : List Char) : Option (List Document × List Char) :=
  match fuel with
  | 0 => none
  | fuel + 1 =>
    match skipLines text text.length with
    | ']' :: rest => some ([], rest)
    | rest => do
      let (item, rest) ← value? fuel depth rest
      match skipLines rest rest.length with
      | ',' :: rest => do
        let (items, rest) ← items? fuel depth rest
        some (item :: items, rest)
      | ']' :: rest => some ([item], rest)
      | _ => none

/-- The pairs of an inline table up to its closing brace; no comma follows the last one. -/
def pairs? (fuel depth : Nat) (first : Bool) (entries : Entries) (text : List Char) :
    Option (Entries × List Char) :=
  match fuel with
  | 0 => none
  | fuel + 1 =>
    match first, skipBlanks text with
    | true, '\x7d' :: rest => some (entries, rest)
    | _, rest => do
      let (key, rest) ← key? rest
      let rest ← mark? '=' rest
      let (value, rest) ← value? fuel depth (skipBlanks rest)
      let entries ← insertValue key.dropLast (key.getLastD "") value entries
      match skipBlanks rest with
      | ',' :: rest => pairs? fuel depth false entries rest
      | '\x7d' :: rest => some (entries, rest)
      | _ => none

end

/-- What has been read so far, and the path of the table that lines add to. -/
structure Progress where
  root : Entries
  current : List String

def readPair (progress : Progress) (text : List Char) : Option (Progress × List Char) := do
  let (key, rest) ← key? text
  let rest ← mark? '=' rest
  let (value, rest) ← value? (2 * text.length + 2) 0 (skipBlanks rest)
  let rest ← lineEnd? rest
  let root ← descend .header
    (fun _ table => insertValue key.dropLast (key.getLastD "") value table)
    progress.current false progress.root
  some ({ progress with root }, rest)

/-- A header, after its first bracket. -/
def readHeader (progress : Progress) (text : List Char) : Option (Progress × List Char) := do
  let (isItem, text) := match text with
    | '[' :: rest => (true, rest)
    | _ => (false, text)
  let (key, rest) ← key? text
  let rest ← mark? ']' rest
  let rest ← if isItem then mark? ']' rest else some rest
  let rest ← lineEnd? rest
  let change := if isItem then openItem else openTable
  let root ← change key.dropLast (key.getLastD "") progress.root
  some (⟨root, key⟩, rest)

def readLines (progress : Progress) (text : List Char) : (fuel : Nat) → Option Entries
  | 0 => none
  | fuel + 1 =>
    match skipBlanks text with
    | [] => some progress.root
    | '#' :: rest => (lineEnd? ('#' :: rest)).bind (readLines progress · fuel)
    | '[' :: rest => do
      let (progress, rest) ← readHeader progress rest
      readLines progress rest fuel
    | rest =>
      match lineFeed? rest with
      | some rest => readLines progress rest fuel
      | none => do
        let (progress, rest) ← readPair progress rest
        readLines progress rest fuel

/-- The table that a text describes. A byte order mark in front is passed over. -/
def parse? (text : String) : Option Document :=
  let chars := match text.toList with
    | '\ufeff' :: rest => rest
    | chars => chars
  (readLines ⟨[], []⟩ chars (chars.length + 1)).map fun entries => .table (documents entries)

/-- In a TOML document an empty list or table adds nothing to a name. -/
def dialect : Document.Dialect where
  surplusItems := true
  isUnit := fun
    | .list [] | .table [] => true
    | _ => false

end StageScript.Toml
