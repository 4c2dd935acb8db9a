import Std.Data.TreeMap
import StageScript.Address
import StageScript.Override

/-!
Tokens. Extension commands name package content by a number, which the token list of the
command's owner turns into a name; names then stand for values and functions. A value or
function that an owner does not define is looked for in the base content, a number is not.
-/

namespace StageScript

inductive TokenValue where
  | integer (value : Int64)
  | address (address : Address)
  deriving DecidableEq, Repr

namespace TokenValue

def address? : TokenValue → Option Address
  | .address place => some place
  | .integer _ => none

def integer? : TokenValue → Option Int64
  | .integer number => some number
  | .address _ => none

end TokenValue

/-- What one owner, or the base content, has registered; `F` is the type of functions. -/
structure TokenList (F : Type) where
  names : Array String
  values : Std.TreeMap String TokenValue
  functions : Std.TreeMap String F

instance {F : Type} : Inhabited (TokenList F) := ⟨⟨#[], ∅, ∅⟩⟩

structure TokenTable (F : Type) where
  /-- The base content stands under the absent owner. -/
  lists : Std.TreeMap (Option OwnerId) (TokenList F)

namespace TokenTable

variable {F : Type}

def empty : TokenTable F := ⟨∅⟩

instance : Inhabited (TokenTable F) := ⟨empty⟩

def list (table : TokenTable F) (owner : Option OwnerId) : TokenList F :=
  (table.lists[owner]?).getD default

def setList (table : TokenTable F) (owner : Option OwnerId) (list : TokenList F) : TokenTable F :=
  ⟨table.lists.insert owner list⟩

/-- Adds a name at the end of an owner's list and answers its number. -/
def addToken (table : TokenTable F) (owner : Option OwnerId) (name : String) :
    Nat × TokenTable F :=
  let list := table.list owner
  (list.names.size, table.setList owner { list with names := list.names.push name })

def defineValue (table : TokenTable F) (owner : Option OwnerId) (name : String)
    (value : TokenValue) : TokenTable F :=
  let list := table.list owner
  table.setList owner { list with values := list.values.insert name value }

def defineFunction (table : TokenTable F) (owner : Option OwnerId) (name : String)
    (function : F) : TokenTable F :=
  let list := table.list owner
  table.setList owner { list with functions := list.functions.insert name function }

/-- Drops what an owner registered and says whether there was anything. -/
def removeOwner (table : TokenTable F) (owner : OwnerId) : Bool × TokenTable F :=
  (table.lists.contains (some owner), ⟨table.lists.erase (some owner)⟩)

def resolve? (table : TokenTable F) (owner : Option OwnerId) (token : UInt32) : Option String :=
  (table.list owner).names[token.toNat]?

def lookup? (table : TokenTable F) (owner : Option OwnerId) (name : String) : Option TokenValue :=
  (table.list owner).values[name]?.or (table.list none).values[name]?

/-- The function a name stands for, and the list it was found in. -/
def function? (table : TokenTable F) (owner : Option OwnerId) (name : String) :
    Option (Option OwnerId × F) :=
  ((table.list owner).functions[name]?.map (owner, ·)).or
    ((table.list none).functions[name]?.map (none, ·))

/-- Calls the function a name stands for and keeps the state the call leaves it in. -/
def call? (apply : F → Int16 → Int32 → Int32 × F) (table : TokenTable F)
    (owner : Option OwnerId) (name : String) (argument : Int16) (register : Int32) :
    Option (Int32 × TokenTable F) :=
  (table.function? owner name).map fun (found, function) =>
    let (value, later) := apply function argument register
    (value, table.defineFunction found name later)

def ownerText : Option OwnerId → String
  | none => "None"
  | some owner => s!"Some(OwnerId({owner.toNat}))"

def text (table : TokenTable F) : String :=
  let owners := ", ".intercalate (table.lists.keys.map ownerText)
  s!"TokenTable \x7b owners: [{owners}], .. \x7d"

end TokenTable

end StageScript
