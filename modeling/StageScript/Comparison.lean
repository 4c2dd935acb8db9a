import StageScript.Address

/-!
The comparisons that conditional commands make between the register and a literal. A script
stores a comparison as a number from zero to seven.
-/

namespace StageScript

inductive Comparison where
  | both
  | neither
  | equal
  | notEqual
  | less
  | lessEqual
  | greater
  | greaterEqual
  deriving DecidableEq, Repr, Inhabited

namespace Comparison

def all : List Comparison :=
  [.both, .neither, .equal, .notEqual, .less, .lessEqual, .greater, .greaterEqual]

def code : Comparison → UInt8
  | .both => 0
  | .neither => 1
  | .equal => 2
  | .notEqual => 3
  | .less => 4
  | .lessEqual => 5
  | .greater => 6
  | .greaterEqual => 7

def ofCode (code : UInt8) : Except FormatError Comparison :=
  match all[code.toNat]? with
  | some comparison => .ok comparison
  | none => .error (.unknownComparison code)

/-- Order is signed; `both` and `neither` ask whether the two share a set bit. -/
def holds (comparison : Comparison) (register literal : Int32) : Bool :=
  match comparison with
  | .both => register &&& literal != 0
  | .neither => register &&& literal == 0
  | .equal => register == literal
  | .notEqual => register != literal
  | .less => register < literal
  | .lessEqual => register ≤ literal
  | .greater => register > literal
  | .greaterEqual => register ≥ literal

def symbol : Comparison → String
  | .both => "&"
  | .neither => "!&"
  | .equal => "=="
  | .notEqual => "!="
  | .less => "<"
  | .lessEqual => "<="
  | .greater => ">"
  | .greaterEqual => ">="

def title : Comparison → String
  | .both => "And"
  | .neither => "Nand"
  | .equal => "Equal"
  | .notEqual => "NotEqual"
  | .less => "Less"
  | .lessEqual => "LessEqual"
  | .greater => "Greater"
  | .greaterEqual => "GreaterEqual"

theorem ofCode_code (comparison : Comparison) : ofCode comparison.code = .ok comparison := by
  cases comparison <;> rfl

end Comparison

end StageScript
