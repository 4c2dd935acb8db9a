/-!
Byte strings and the fixed-width numbers stored in them, least or most significant byte first.
Reading a number back from its bytes gives the number modulo what the bytes can hold.
-/

namespace StageScript

abbrev Bytes := Array UInt8

inductive ByteOrder where
  | little
  | big
  deriving DecidableEq, Repr, Inhabited

/-- One more than the largest 32-bit number. -/
def limit32 : Nat := 0x100000000

/-- One more than the largest 64-bit number. -/
def limit64 : Nat := 0x10000000000000000

/-- How many numbers so many bytes can hold. -/
def countOfBytes : Nat → Nat
  | 0 => 1
  | width + 1 => 256 * countOfBytes width

/-- The number whose base-256 digits, least significant first, are the given bytes. -/
def ofLittleEndian : List UInt8 → Nat
  | [] => 0
  | byte :: rest => byte.toNat + 256 * ofLittleEndian rest

/-- The low base-256 digits of a number, least significant first. -/
def toLittleEndian : Nat → Nat → List UInt8
  | 0, _ => []
  | width + 1, number => UInt8.ofNat number :: toLittleEndian width (number / 256)

namespace ByteOrder

/-- Turns digits that are least significant first into this order, and back. -/
def arrange : ByteOrder → List UInt8 → List UInt8
  | .little, bytes => bytes
  | .big, bytes => bytes.reverse

def decode (order : ByteOrder) (bytes : List UInt8) : Nat :=
  ofLittleEndian (order.arrange bytes)

def encode (order : ByteOrder) (width number : Nat) : List UInt8 :=
  order.arrange (toLittleEndian width number)

end ByteOrder

@[simp] theorem length_toLittleEndian (width number : Nat) :
    (toLittleEndian width number).length = width := by
  induction width generalizing number with
  | zero => rfl
  | succ width ih => simp [toLittleEndian, ih]

theorem ofLittleEndian_toLittleEndian (width number : Nat) :
    ofLittleEndian (toLittleEndian width number) = number % countOfBytes width := by
  induction width generalizing number with
  | zero => simp [toLittleEndian, ofLittleEndian, countOfBytes, Nat.mod_one]
  | succ width ih =>
    have digit : (UInt8.ofNat number).toNat = number % 256 := by simp
    rw [toLittleEndian, ofLittleEndian, ih, digit, countOfBytes, Nat.mod_mul]

theorem ofLittleEndian_lt (bytes : List UInt8) : ofLittleEndian bytes < countOfBytes bytes.length := by
  induction bytes with
  | nil => simp [ofLittleEndian, countOfBytes]
  | cons byte rest ih =>
    have low := byte.toNat_lt
    simp only [ofLittleEndian, countOfBytes, List.length_cons]
    omega

theorem toLittleEndian_ofLittleEndian (bytes : List UInt8) :
    toLittleEndian bytes.length (ofLittleEndian bytes) = bytes := by
  induction bytes with
  | nil => rfl
  | cons byte rest ih =>
    have low := byte.toNat_lt
    have tail : (byte.toNat + 256 * ofLittleEndian rest) / 256 = ofLittleEndian rest := by omega
    have head : UInt8.ofNat (byte.toNat + 256 * ofLittleEndian rest) = byte := by
      apply UInt8.toNat_inj.mp
      rw [UInt8.toNat_ofNat']
      omega
    simp only [ofLittleEndian, List.length_cons, toLittleEndian, tail, head, ih]

@[simp] theorem ByteOrder.arrange_arrange (order : ByteOrder) (bytes : List UInt8) :
    order.arrange (order.arrange bytes) = bytes := by
  cases order <;> simp [ByteOrder.arrange]

@[simp] theorem ByteOrder.length_arrange (order : ByteOrder) (bytes : List UInt8) :
    (order.arrange bytes).length = bytes.length := by
  cases order <;> simp [ByteOrder.arrange]

theorem ByteOrder.length_encode (order : ByteOrder) (width number : Nat) :
    (order.encode width number).length = width := by
  simp [ByteOrder.encode]

theorem ByteOrder.decode_encode (order : ByteOrder) (width number : Nat) :
    order.decode (order.encode width number) = number % countOfBytes width := by
  simp [ByteOrder.decode, ByteOrder.encode, ofLittleEndian_toLittleEndian]

theorem ByteOrder.decode_lt (order : ByteOrder) (bytes : List UInt8) :
    order.decode bytes < countOfBytes bytes.length := by
  simpa [ByteOrder.decode] using ofLittleEndian_lt (order.arrange bytes)

theorem ByteOrder.encode_decode (order : ByteOrder) (bytes : List UInt8) :
    order.encode bytes.length (order.decode bytes) = bytes := by
  have back := toLittleEndian_ofLittleEndian (order.arrange bytes)
  rw [ByteOrder.length_arrange] at back
  simp [ByteOrder.encode, ByteOrder.decode, back]

end StageScript
