/-!
Paths and the places that they lead to. A path is a way through folders, from the root or from
the working folder; which of its names lead on is for the files that are there to say.
-/

namespace StageScript.Cli

/-- Where a way begins: at the root, or in the folder so many levels above the working one. -/
inductive Start where
  | root
  | above (levels : Nat)
  deriving DecidableEq, Repr

/-- A place among files and folders, by the names that lead to it, the last one first. -/
structure Place where
  start : Start
  names : List String
  deriving DecidableEq, Repr

namespace Place

def working : Place := ⟨.above 0, []⟩

/-- The folder around a place. The root is around itself. -/
def parent : Place → Place
  | ⟨start, _ :: names⟩ => ⟨start, names⟩
  | ⟨.root, []⟩ => ⟨.root, []⟩
  | ⟨.above levels, []⟩ => ⟨.above (levels + 1), []⟩

/-- The place under a name. One dot stays, and two dots go back. -/
def enter (place : Place) (name : String) : Place :=
  if name = "." then place
  else if name = ".." then place.parent
  else { place with names := name :: place.names }

def isBelow (inner outer : Place) : Bool :=
  inner.start == outer.start && outer.names.length < inner.names.length &&
    outer.names.isSuffixOf inner.names

theorem parent_enter (place : Place) {name : String} (dot : name ≠ ".") (dots : name ≠ "..") :
    (place.enter name).parent = place := by
  simp [enter, parent, dot, dots]

end Place

/-- A path, with whether a slash stands at its end. -/
structure Path where
  origin : Place
  names : List String
  slash : Bool
  deriving Repr

namespace Path

/-- Paths have fewer bytes than this. -/
def sizeLimit : Nat := 4096

/-- The names between the slashes of a text, of which several together are one. -/
def ofText (text : String) : Path where
  origin := if text.startsWith "/" then ⟨.root, []⟩ else .working
  names := (text.splitOn "/").filter (· != "")
  slash := text.endsWith "/"

/-- Where a path leads when every name on it can be entered. -/
def place (path : Path) : Place := path.names.foldl Place.enter path.origin

/-- The name that a file at the end of a path has. A path that ends in a slash or in dots can
only lead to a folder. -/
def fileName? (path : Path) : Option String :=
  if path.slash then none else path.names.getLast?.filter fun name => name != "." && name != ".."

end Path

end StageScript.Cli
