/-!
Command lines. An argument is an option, its value, or an operand; each option may be given
once. Options have a long name and may have a letter; a value follows as the next argument, or
after an equals sign, or right after the letter.
-/

namespace StageScript.Cli

structure OptionSpec where
  name : String
  letter : Option Char
  takesValue : Bool
  /-- Whether a value can be accepted. -/
  accepts : String → Bool

/-- What a command line asks for instead of a run. -/
inductive Request where
  | help
  | version
  deriving DecidableEq, Repr

/-- Why a command line leads to no run. -/
inductive Refusal where
  | usage
  | request (request : Request)
  deriving DecidableEq, Repr

structure Arguments where
  operands : List String
  /-- Options by name; a plain option has an empty value. -/
  options : List (String × String)
  deriving Repr

namespace Arguments

def value? (arguments : Arguments) (name : String) : Option String :=
  arguments.options.lookup name

def has (arguments : Arguments) (name : String) : Bool := (arguments.value? name).isSome

/-- An argument that starts like an option; a single dash is an operand. -/
def looksLikeOption (argument : String) : Bool :=
  match argument.toList with
  | '-' :: _ :: _ => true
  | _ => false

def add (arguments : Arguments) (spec : OptionSpec) (value : String) : Except Refusal Arguments :=
  if arguments.has spec.name ∨ !spec.accepts value then .error .usage
  else .ok { arguments with options := arguments.options ++ [(spec.name, value)] }

/-- What is left of the arguments after one of them. -/
abbrev Step := Except Refusal (Arguments × List String)

def takeValue (arguments : Arguments) (spec : OptionSpec) (rest : List String) : Step :=
  match rest with
  | [] => .error .usage
  | value :: rest =>
    if looksLikeOption value then .error .usage
    else (arguments.add spec value).map (·, rest)

def longOption (specs : List OptionSpec) (arguments : Arguments) (text : List Char)
    (rest : List String) : Step :=
  let name := String.ofList (text.takeWhile (· != '='))
  let attached := text.dropWhile (· != '=')
  match specs.find? (·.name == name) with
  | none =>
    if name == "help" ∧ attached.isEmpty then .error (.request .help)
    else if name == "version" ∧ attached.isEmpty then .error (.request .version)
    else .error .usage
  | some spec =>
    match spec.takesValue, attached with
    | true, '=' :: value => (arguments.add spec (String.ofList value)).map (·, rest)
    | true, _ => takeValue arguments spec rest
    | false, [] => (arguments.add spec "").map (·, rest)
    | false, _ => .error .usage

/-- Letters may be joined behind one dash; the first that takes a value takes all that follows. -/
def letterOptions (specs : List OptionSpec) (arguments : Arguments) (rest : List String) :
    List Char → Step
  | [] => .ok (arguments, rest)
  | letter :: letters =>
    match specs.find? (·.letter == some letter) with
    | none =>
      if letter = 'h' then .error (.request .help)
      else if letter = 'V' then .error (.request .version)
      else .error .usage
    | some spec =>
      if spec.takesValue then
        match letters with
        | [] => takeValue arguments spec rest
        | '=' :: value => (arguments.add spec (String.ofList value)).map (·, rest)
        | value => (arguments.add spec (String.ofList value)).map (·, rest)
      else do
        let arguments ← arguments.add spec ""
        letterOptions specs arguments rest letters

def addOperand (most : Nat) (arguments : Arguments) (operand : String) :
    Except Refusal Arguments :=
  if most ≤ arguments.operands.length ∨ operand.isEmpty then .error .usage
  else .ok { arguments with operands := arguments.operands ++ [operand] }

def parseFrom (specs : List OptionSpec) (most : Nat) (arguments : Arguments)
    (texts : List String) : (fuel : Nat) → Except Refusal Arguments
  | 0 => .ok arguments
  | fuel + 1 =>
    match texts with
    | [] => .ok arguments
    | text :: rest => do
      if text == "--" then rest.foldlM (addOperand most) arguments
      else
        match text.toList with
        | '-' :: '-' :: name =>
          let (arguments, rest) ← longOption specs arguments name rest
          parseFrom specs most arguments rest fuel
        | '-' :: letter :: letters =>
          let (arguments, rest) ← letterOptions specs arguments rest (letter :: letters)
          parseFrom specs most arguments rest fuel
        | _ =>
          let arguments ← addOperand most arguments text
          parseFrom specs most arguments rest fuel

/-- Reads a command line with exactly one operand. -/
def parse (specs : List OptionSpec) (texts : List String) : Except Refusal Arguments := do
  let arguments ← parseFrom specs 1 ⟨[], []⟩ texts texts.length
  if arguments.operands.isEmpty then throw .usage
  return arguments

end Arguments

def acceptsPath (text : String) : Bool := !text.isEmpty

/-- A decimal number with an optional sign. -/
def integer? (text : String) : Option Int :=
  let digits? (digits : List Char) : Option Nat :=
    if digits.isEmpty ∨ !digits.all Char.isDigit then none
    else some (digits.foldl (fun value c => value * 10 + (c.toNat - '0'.toNat)) 0)
  match text.toList with
  | '-' :: digits => (digits? digits).map fun value => -(value : Int)
  | '+' :: digits => (digits? digits).map fun value => (value : Int)
  | digits => (digits? digits).map fun value => (value : Int)

def natBelow? (limit : Nat) (text : String) : Option Nat :=
  match integer? text with
  | some value => if 0 ≤ value ∧ value < limit then some value.toNat else none
  | none => none

end StageScript.Cli
