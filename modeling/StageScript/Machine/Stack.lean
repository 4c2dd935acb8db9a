import StageScript.Pointer

/-!
The control stack. It holds the places that calls return to and that loops repeat from, in 32
slots; a return frame takes one slot and a loop frame two. The stack also knows where each
execution scope begins, so that the frames of a scope can be dropped without the return frame
below them. An operation that fails leaves the stack as it was.
-/

namespace StageScript

def stackSlots : Nat := 32

inductive Frame where
  | ret (resume : Pointer)
  | loop (resume : Pointer) (remaining : Int32)
  deriving DecidableEq, Repr

inductive FrameKind where
  | ret
  | loop
  deriving DecidableEq, Repr

def FrameKind.title : FrameKind → String
  | .ret => "Return"
  | .loop => "Loop"

def Frame.slots : Frame → Nat
  | .ret _ => 1
  | .loop _ _ => 2

inductive StackFault where
  | overflow (requested : Nat)
  | underflow
  | mismatch (expected found : FrameKind)
  deriving DecidableEq, Repr

def StackFault.title : StackFault → String
  | .overflow _ => "Overflow"
  | .underflow => "Underflow"
  | .mismatch .. => "FrameMismatch"

def StackFault.message : StackFault → String
  | .overflow requested =>
    s!"control stack overflow: {requested} slots requested with {stackSlots} capacity"
  | .underflow => "control stack underflow"
  | .mismatch expected found =>
    s!"expected a {expected.title} frame but found {found.title}"

structure Stack where
  /-- Frames, the top one first. -/
  frames : List Frame
  used : Nat
  /-- The depth just above each open scope's return frame, innermost scope first. -/
  scopes : List Nat
  deriving DecidableEq, Repr

namespace Stack

def empty : Stack := ⟨[], 0, []⟩

/-- The slots that frames take up together. -/
def slotsOf : List Frame → Nat
  | [] => 0
  | frame :: rest => frame.slots + slotsOf rest

instance : Inhabited Stack := ⟨empty⟩

def depth (stack : Stack) : Nat := stack.frames.length

def ensureRoom (stack : Stack) (slots : Nat) : Except StackFault Unit :=
  if stackSlots < stack.used + slots then .error (.overflow (stack.used + slots)) else .ok ()

def push (stack : Stack) (frame : Frame) : Except StackFault Stack := do
  stack.ensureRoom frame.slots
  return { stack with frames := frame :: stack.frames, used := stack.used + frame.slots }

/-- Takes the top frame away, and closes the scopes it was the return frame of. -/
def drop (stack : Stack) (top : Frame) (rest : List Frame) : Stack where
  frames := rest
  used := stack.used - top.slots
  scopes := stack.scopes.dropWhile (rest.length < ·)

def pop (stack : Stack) : Except StackFault (Frame × Stack) :=
  match stack.frames with
  | [] => .error .underflow
  | top :: rest => .ok (top, stack.drop top rest)

/-- Pushes the return frame of an execution scope and opens the scope above it. -/
def pushScope (stack : Stack) (resume : Pointer) : Except StackFault Stack := do
  let pushed ← stack.push (.ret resume)
  return { pushed with scopes := pushed.depth :: pushed.scopes }

/-- Drops the frames above the innermost scope's return frame, or all of them without a scope,
and says how many they were. -/
def unwindScope (stack : Stack) : Nat × Stack :=
  let dropped := stack.depth - stack.scopes.head?.getD 0
  let freed := slotsOf (stack.frames.take dropped)
  (dropped, { stack with frames := stack.frames.drop dropped, used := stack.used - freed })

/-- The frame a number of places below the top. -/
def peek? (stack : Stack) (depth : Nat) : Option Frame := stack.frames[depth]?

def popReturn (stack : Stack) : Except StackFault (Pointer × Stack) :=
  match stack.frames with
  | [] => .error .underflow
  | .loop _ _ :: _ => .error (.mismatch .ret .loop)
  | .ret resume :: rest => .ok (resume, stack.drop (.ret resume) rest)

/-- Where the loop on top resumes, and how many rounds remain. -/
def topLoop (stack : Stack) : Except StackFault (Pointer × Int32) :=
  match stack.frames with
  | [] => .error .underflow
  | .ret _ :: _ => .error (.mismatch .loop .ret)
  | .loop resume remaining :: _ => .ok (resume, remaining)

/-- Sets how many rounds remain of the loop on top. -/
def setRemaining (stack : Stack) (remaining : Int32) : Stack :=
  match stack.frames with
  | .loop resume _ :: rest => { stack with frames := .loop resume remaining :: rest }
  | _ => stack

def popLoop (stack : Stack) : Except StackFault ((Pointer × Int32) × Stack) :=
  match stack.frames with
  | [] => .error .underflow
  | .ret _ :: _ => .error (.mismatch .loop .ret)
  | .loop resume remaining :: rest =>
    .ok ((resume, remaining), stack.drop (.loop resume remaining) rest)

end Stack

end StageScript
