/-!
Documents: the values that configuration files and reports are made of, whatever notation they
are written in.
-/

namespace StageScript

inductive Document where
  | null
  | boolean (value : Bool)
  | integer (value : Int)
  /-- A number that is not an integer, as it is written. -/
  | float (text : String)
  | string (value : String)
  /-- A date, a time, or both, as it is written. -/
  | moment (text : String)
  | list (items : List Document)
  | table (entries : List (String × Document))
  deriving Repr, Inhabited

namespace Document

/-- The entry of a table under a key. -/
def valueAt? (entries : List (String × Document)) (key : String) : Option Document :=
  entries.lookup key

/-- An integer from zero up to a limit. -/
def natBelow? (limit : Nat) : Document → Option Nat
  | .integer value => if 0 ≤ value ∧ value < limit then some value.toNat else none
  | _ => none

/-- What the notations of documents understand differently. -/
structure Dialect where
  /-- Whether a record written as a list may have more items than fields. -/
  surplusItems : Bool
  /-- Whether a value says nothing beyond the name it is written under. -/
  isUnit : Document → Bool

/-- A record is written as a table by name or as a list by position; the fields that are absent
are answered as such, and other names are passed over. A moment is a record with fields of its
own and none of these. -/
def fields? (dialect : Dialect) (names : List String) :
    Document → Option (List (Option Document))
  | .table entries => some (names.map (valueAt? entries))
  | .list items =>
    if items.length ≤ names.length ∨ dialect.surplusItems then
      some ((List.range names.length).map fun position => items[position]?)
    else none
  | .moment _ => some (names.map fun _ => none)
  | _ => none

/-- A choice is written as its name, or as a table whose only key is its name. -/
def choice? (dialect : Dialect) : Document → Option String
  | .string name => some name
  | .table [(name, value)] => if dialect.isUnit value then some name else none
  | _ => none

/-- The value of a field, or its default when the field is absent. -/
def withDefault {α : Type} (default : α) (read : Document → Option α) :
    Option Document → Option α
  | none => some default
  | some document => read document

end Document

end StageScript
