import StageScript.Text.Hex

/-!
Segmented addresses. The top byte of an address names a segment and the low 24 bits are an
offset inside it; the segment table has 32 entries, so not every address can be mapped.
-/

namespace StageScript

/-- How many segments the segment table holds. -/
def segmentCount : Nat := 32

/-- Why a number in a script or a request has no meaning in the command format. -/
inductive FormatError where
  | unknownOpcode (code : UInt8)
  | unknownComparison (code : UInt8)
  | segmentOutOfRange (segment : UInt8)
  deriving DecidableEq, Repr

def FormatError.title : FormatError → String
  | .unknownOpcode _ => "UnknownOpcode"
  | .unknownComparison _ => "UnknownComparison"
  | .segmentOutOfRange _ => "SegmentOutOfRange"

def FormatError.message : FormatError → String
  | .unknownOpcode code => s!"unknown opcode {Text.Hex.tagged 2 code.toNat}"
  | .unknownComparison code => s!"unknown comparison operator {code.toNat}"
  | .segmentOutOfRange segment => s!"segment {segment.toNat} is outside the segment table"

structure Address where
  raw : UInt32
  deriving DecidableEq, Repr, Inhabited

namespace Address

def null : Address := ⟨0⟩

def isNull (address : Address) : Bool := address.raw == 0

def segment (address : Address) : UInt8 := (address.raw >>> 24).toUInt8

def offset (address : Address) : UInt32 := address.raw &&& 0x00FFFFFF

/-- The address of an offset in a segment; bits of the offset above the low 24 are dropped. -/
def ofParts (segment : UInt8) (offset : UInt32) : Except FormatError Address :=
  if segment.toNat < segmentCount then
    .ok ⟨(segment.toUInt32 <<< 24) ||| (offset &&& 0x00FFFFFF)⟩
  else .error (.segmentOutOfRange segment)

def text (address : Address) : String := Text.Hex.tagged 8 address.raw.toNat

end Address

end StageScript
