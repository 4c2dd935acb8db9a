/-!
The variables that scripts share with the game, and the masks that place an object in some acts
only. The act counts from one; outside one to eight it selects nothing but the full mask.
-/

namespace StageScript

inductive Variable where
  | saveFile
  | course
  | act
  | level
  | areaIndex
  deriving DecidableEq, Repr, Inhabited

def Variable.all : List Variable := [.saveFile, .course, .act, .level, .areaIndex]

def Variable.ofIndex? (index : UInt8) : Option Variable := Variable.all[index.toNat]?

structure Variables where
  saveFile : Int32
  course : Int32
  act : Int32
  level : Int32
  areaIndex : Int32
  deriving DecidableEq, Repr

/-- The mask of objects that appear in every act. -/
def allActs : UInt8 := 0x1F

namespace Variables

def initial : Variables := ⟨1, 0, 1, 0, 0⟩

instance : Inhabited Variables := ⟨initial⟩

def get (vars : Variables) : Variable → Int32
  | .saveFile => vars.saveFile
  | .course => vars.course
  | .act => vars.act
  | .level => vars.level
  | .areaIndex => vars.areaIndex

def set (vars : Variables) (chosen : Variable) (value : Int32) : Variables :=
  match chosen with
  | .saveFile => { vars with saveFile := value }
  | .course => { vars with course := value }
  | .act => { vars with act := value }
  | .level => { vars with level := value }
  | .areaIndex => { vars with areaIndex := value }

def actMatches (vars : Variables) (acts : UInt8) : Bool :=
  acts == allActs ||
    (1 ≤ vars.act && vars.act ≤ 8 &&
      acts.toNat.testBit (vars.act.toInt - 1).toNat)

theorem get_set (vars : Variables) (chosen other : Variable) (value : Int32) :
    (vars.set chosen value).get other =
      if other = chosen then value else vars.get other := by
  cases chosen <;> cases other <;> simp [set, get]

end Variables

end StageScript
