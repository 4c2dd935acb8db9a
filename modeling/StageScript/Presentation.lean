/-!
Requests that scripts make of the screen and the sound. They wait in order until the host
takes them.
-/

namespace StageScript

structure Color where
  red : UInt8
  green : UInt8
  blue : UInt8
  deriving DecidableEq, Repr, Inhabited

inductive Request where
  | transition (kind time : UInt8) (color : Color)
  | blackout (active : Bool)
  | gamma (enabled : Bool)
  | menuMusic (sequence : Int16)
  | stopMusic (fade : Int16)
  deriving DecidableEq, Repr

abbrev Presentation := Array Request

end StageScript
