import StageScript.Document

/-!
The tree that a TOML text builds while it is read. A table remembers how it came about, since
that decides what may still be added to it: a header makes a table explicit, a header below it
makes it implicit, and a dotted key makes it dotted.
-/

namespace StageScript.Toml

inductive TableKind where
  | explicit
  | implicit
  | dotted
  deriving DecidableEq, Repr

inductive Node where
  | value (value : Document)
  | table (kind : TableKind) (entries : List (String × Node))
  /-- Tables under one name, the latest first. -/
  | tables (items : List (List (String × Node)))
  deriving Inhabited

abbrev Entries := List (String × Node)

def setEntry (entries : Entries) (name : String) (node : Node) : Entries :=
  if entries.any (·.1 == name) then
    entries.map fun entry => if entry.1 == name then (name, node) else entry
  else entries ++ [(name, node)]

/-- How a path goes through tables: as the key of a header or as a dotted key. -/
inductive Descent where
  | header
  | dotted
  deriving DecidableEq, Repr

/-- Changes the table at the end of a path, making the tables on the way that are missing. The
change is told whether the table it gets is a dotted one. -/
def descend (descent : Descent) (change : Bool → Entries → Option Entries) :
    List String → Bool → Entries → Option Entries
  | [], dotted, entries => change dotted entries
  | name :: path, _, entries =>
    let made : TableKind := match descent with
      | .header => .implicit
      | .dotted => .dotted
    match entries.lookup name with
    | none => do
      let inner ← descend descent change path (made == .dotted) []
      some (setEntry entries name (.table made inner))
    | some (.value _) => none
    | some (.table kind inner) =>
      if descent = .dotted ∧ kind = .explicit then none
      else do
        let inner ← descend descent change path (kind == .dotted) inner
        some (setEntry entries name (.table kind inner))
    | some (.tables []) => none
    | some (.tables (last :: earlier)) => do
      let last ← descend descent change path false last
      some (setEntry entries name (.tables (last :: earlier)))

/-- Adds a value under the last part of a key, which must be new. A key with dots may only add
to a table that dotted keys made. -/
def insertValue (path : List String) (name : String) (value : Document) (entries : Entries) :
    Option Entries :=
  descend .dotted (fun dotted table =>
    if dotted = path.isEmpty then none
    else if table.any (·.1 == name) then none
    else some (table ++ [(name, .value value)])) path false entries

/-- Opens a table by its header. Only a table that other headers made may be there already. -/
def openTable (path : List String) (name : String) (entries : Entries) : Option Entries :=
  descend .header (fun _ table =>
    match table.lookup name with
    | none => some (table ++ [(name, .table .explicit [])])
    | some (.table .implicit inner) => some (setEntry table name (.table .explicit inner))
    | some _ => none) path false entries

/-- Opens a further table under a name that holds nothing but such tables. -/
def openItem (path : List String) (name : String) (entries : Entries) : Option Entries :=
  descend .header (fun _ table =>
    match table.lookup name with
    | none => some (table ++ [(name, .tables [[]])])
    | some (.tables items) => some (setEntry table name (.tables ([] :: items)))
    | some _ => none) path false entries

mutual

def Node.document : Node → Document
  | .value value => value
  | .table _ entries => .table (documents entries)
  | .tables items => .list (itemDocuments items).reverse

def documents : List (String × Node) → List (String × Document)
  | [] => []
  | (name, node) :: rest => (name, node.document) :: documents rest

def itemDocuments : List (List (String × Node)) → List Document
  | [] => []
  | entries :: rest => .table (documents entries) :: itemDocuments rest

end

end StageScript.Toml
