import Mathlib.Data.Nat.Bitwise
import StageScript.Proofs.Accounting
import StageScript.Proofs.Expansion

/-!
Corrupt blocks are harmless. A decoder of blocks keeps the layout bits that are still to come in a
register and goes along three streams in a loop, from places that the block is free to name. Its
work comes to nothing at all if it uses a byte that is not there, puts out more than the declared
length, or needs more rounds than it is given. One round for each byte of the limit and one to
find the end are enough for it, and it answers what expansion does: an error, or exactly as many
bytes as the header declares. A load of a block charges those bytes, or changes nothing.
-/

namespace StageScript

namespace Mio0

/-- Work that may find something wrong with a block; it has no result if it is done wrongly itself. -/
abbrev Work := ExceptT Failure Option

def byteAt (bytes : Bytes) (place : Nat) : Work UInt8 := ExceptT.lift bytes[place]?

def ensure (condition : Prop) [Decidable condition] : Work Unit :=
  if condition then pure () else ExceptT.lift none

def bytesFrom (bytes : Bytes) : (place count : Nat) → Work (List UInt8)
  | _, 0 => pure []
  | place, count + 1 => do return (← byteAt bytes place) :: (← bytesFrom bytes (place + 1) count)

def slice? (bytes : Bytes) (place width : Nat) : Option Bytes :=
  if place + width ≤ bytes.size then some (bytes.extract place (place + width)) else none

def readNumber (input : Bytes) (place width : Nat) (missing : Corruption) : Work Nat :=
  match slice? input place width with
  | some raw => do return ByteOrder.big.decode (← bytesFrom raw 0 width)
  | none => throw (.corrupt missing)

def readWord (input : Bytes) (place : Nat) : Work Nat :=
  readNumber input place 4 (.wordMissing place)

def put (length : Nat) (out : Bytes) (byte : UInt8) : Work Bytes := do
  ensure (out.size < length)
  return out.push byte

/-- Repeats bytes that lie a distance back, one at a time, until the output is full. -/
def copyOn (length distance : Nat) : (count : Nat) → Bytes → Work Bytes
  | 0, out => pure out
  | count + 1, out =>
    if out.size = length then pure out
    else do
      ensure (distance ≤ out.size)
      let byte ← byteAt out (out.size - distance)
      copyOn length distance count (← put length out byte)

/-- The layout bits of a word that are still to come, the next one on top, and the place of the next
word. -/
structure BitReader where
  bits : UInt32
  remaining : Nat
  layoutAt : Nat
  deriving DecidableEq, Repr

namespace BitReader

def refill (input : Bytes) (reader : BitReader) : Work BitReader :=
  if reader.remaining = 0 then do
    let bits ← readWord input reader.layoutAt
    return ⟨.ofNat bits, 32, reader.layoutAt + 4⟩
  else pure reader

def top (reader : BitReader) : Bool := reader.bits &&& 0x80000000 ≠ 0

def shift (reader : BitReader) : BitReader :=
  { reader with bits := reader.bits <<< 1, remaining := reader.remaining - 1 }

def read (input : Bytes) (reader : BitReader) : Work (Bool × BitReader) := do
  let reader ← reader.refill input
  return (reader.top, reader.shift)

end BitReader

/-- What a decoder knows: the places that its streams have come to, and its output. -/
structure Decoder where
  reader : BitReader
  copiesAt : Nat
  literalsAt : Nat
  out : Bytes
  deriving DecidableEq, Repr

namespace Decoder

def takeLiteral (input : Bytes) (length : Nat) (decoder : Decoder) : Work Decoder :=
  match input[decoder.literalsAt]? with
  | some byte => do
    let out ← put length decoder.out byte
    return { decoder with out, literalsAt := decoder.literalsAt + 1 }
  | none => throw (.corrupt .literalMissing)

def takeCopy (input : Bytes) (length : Nat) (decoder : Decoder) : Work Decoder := do
  let pair ← readNumber input decoder.copiesAt 2 .copyMissing
  let decoder := { decoder with copiesAt := decoder.copiesAt + 2 }
  let count := (pair >>> 12) + 3
  let distance := (pair &&& 0xFFF) + 1
  if decoder.out.size < distance then
    throw (.corrupt (.distanceTooLong distance decoder.out.size))
  let out ← copyOn length distance count decoder.out
  return { decoder with out }

def round (input : Bytes) (length : Nat) (decoder : Decoder) : Work Decoder := do
  let (literal, reader) ← decoder.reader.read input
  let decoder := { decoder with reader }
  if literal then decoder.takeLiteral input length else decoder.takeCopy input length

def loop (input : Bytes) (length : Nat) : (rounds : Nat) → Decoder → Work Bytes
  | 0, _ => ExceptT.lift none
  | rounds + 1, decoder =>
    if decoder.out.size < length then do
      loop input length rounds (← decoder.round input length)
    else pure decoder.out

end Decoder

/-- Decodes a block in so many rounds, unless it declares more bytes than the limit. -/
def decode (rounds : Nat) (input : Bytes) (limit : Nat) : Work Bytes := do
  if input.size < headerSize then throw (.corrupt .missingHeader)
  if (← bytesFrom input 0 4) ≠ mark then throw (.corrupt .missingHeader)
  let length ← readWord input 4
  if limit < length then throw (.tooLong length limit)
  let copiesAt ← readWord input 8
  let literalsAt ← readWord input 12
  Decoder.loop input length rounds
    { reader := ⟨0, 0, headerSize⟩, copiesAt, literalsAt, out := #[] }

variable {input out : Bytes} {header : Header} {literals copies number length distance : Nat}
  {reader : BitReader} {decoder : Decoder}

theorem throw_bind {α β : Type} (failure : Failure) (next : α → Work β) :
    (throw failure >>= next) = throw failure :=
  rfl

theorem byteAt_eq {bytes : Bytes} {place : Nat} (inside : place < bytes.size) :
    byteAt bytes place = pure bytes[place] := by
  rw [byteAt, Array.getElem?_eq_getElem inside]
  rfl

theorem ensure_eq {condition : Prop} [Decidable condition] (holds : condition) :
    ensure condition = pure () :=
  if_pos holds

theorem bytesFrom_eq {bytes : Bytes} {place count : Nat} (inside : place + count ≤ bytes.size) :
    bytesFrom bytes place count = pure (bytes.extract place (place + count)).toList := by
  induction count generalizing place with
  | zero => simp [bytesFrom]
  | succ count ih =>
    have here : place < bytes.size := by omega
    have split : (bytes.extract place (place + (count + 1))).toList =
        bytes[place] :: (bytes.extract (place + 1) (place + 1 + count)).toList := by
      simp only [Array.toList_extract, List.extract_eq_take_drop]
      rw [List.drop_eq_getElem_cons (by simpa using here)]
      simp [show place + (count + 1) - place = count + 1 by omega]
    rw [bytesFrom, byteAt_eq here, ih (by omega), split]
    rfl

theorem readNumber_eq (input : Bytes) (place width : Nat) (missing : Corruption) :
    readNumber input place width missing = match number? input place width with
      | some number => pure number
      | none => throw (.corrupt missing) := by
  unfold readNumber slice? number?
  by_cases fits : place + width ≤ input.size
  · have size : (input.extract place (place + width)).size = width := by
      rw [Array.size_extract]
      omega
    have whole : (input.extract place (place + width)).extract 0 width =
        input.extract place (place + width) := Array.extract_eq_self_of_le (Nat.le_of_eq size)
    simp only [if_pos fits]
    rw [bytesFrom_eq (by omega), Nat.zero_add, whole]
    rfl
  · simp only [if_neg fits]

theorem readWord_eq (input : Bytes) (place : Nat) :
    readWord input place = match word input place with
      | .ok number => pure number
      | .error corruption => throw (.corrupt corruption) := by
  rw [readWord, readNumber_eq, word]
  cases number? input place 4 <;> rfl

theorem put_eq (room : out.size < length) (byte : UInt8) :
    put length out byte = pure (out.push byte) := by
  rw [put, ensure_eq room]
  rfl

theorem copyOn_eq (count : Nat) (positive : 0 < distance) (inside : distance ≤ out.size)
    (within : out.size ≤ length) :
    copyOn length distance count out = pure (copyBack length distance positive count out inside) := by
  induction count generalizing out with
  | zero => rfl
  | succ count ih =>
    rw [copyOn, copyBack]
    by_cases full : out.size = length
    · rw [if_pos full, if_neg (by omega)]
    · have room : out.size < length := by omega
      have there : out.size - distance < out.size := by omega
      rw [if_neg full, if_pos room, ensure_eq inside, pure_bind, byteAt_eq there, pure_bind,
        put_eq room, pure_bind]
      apply ih
      rw [Array.size_push]
      omega

/-- The top bit of a word that has been shifted is the one that has come to the top. -/
theorem topBit_shifted (word : Nat) {amount : Nat} (inside : amount < 32) :
    decide (UInt32.ofNat (word * 2 ^ amount) &&& 0x80000000 ≠ 0) = word.testBit (31 - amount) := by
  have top : (UInt32.ofNat (word * 2 ^ amount) &&& 0x80000000).toNat =
      (word.testBit (31 - amount)).toNat * 2 ^ 31 := by
    rw [UInt32.toNat_and, UInt32.toNat_ofNat', show (0x80000000 : UInt32).toNat = 2 ^ 31 from rfl,
      Nat.and_two_pow, Nat.testBit_mod_two_pow, Nat.testBit_mul_two_pow]
    simp [show amount ≤ 31 by omega]
  rw [Bool.eq_iff_iff, decide_eq_true_iff, ne_eq, ← UInt32.toNat_inj, top]
  cases word.testBit (31 - amount) <;> simp

theorem ofNat_shiftLeft_one (number : Nat) : UInt32.ofNat number <<< 1 = .ofNat (number * 2) := by
  apply UInt32.toNat_inj.mp
  rw [UInt32.toNat_shiftLeft, UInt32.toNat_ofNat', UInt32.toNat_ofNat', Nat.shiftLeft_eq]
  exact Nat.mod_mul_mod number 2 _

namespace BitReader

/-- The reader holds what is left of the word with the layout bit of a token, that bit on top. -/
structure Loaded (input : Bytes) (number : Nat) (reader : BitReader) : Prop where
  bits : ∃ word, Mio0.word input (headerSize + number / 32 * 4) = .ok word ∧
    reader.bits = .ofNat (word * 2 ^ (number % 32))
  remaining : reader.remaining = 32 - number % 32
  layoutAt : reader.layoutAt = headerSize + (number / 32 + 1) * 4

/-- The reader is loaded, or it is used up just when a new word begins. -/
def Ready (input : Bytes) (number : Nat) (reader : BitReader) : Prop :=
  if number % 32 = 0 then reader.remaining = 0 ∧ reader.layoutAt = headerSize + number / 32 * 4
  else reader.Loaded input number

theorem Loaded.layoutBit_eq (loaded : reader.Loaded input number) :
    layoutBit input number = .ok reader.top := by
  obtain ⟨word, found, bits⟩ := loaded.bits
  have shifted := topBit_shifted word (Nat.mod_lt number (by decide : 32 > 0))
  rw [layoutBit, found, top, bits, shifted]
  rfl

theorem Loaded.ready_shift (loaded : reader.Loaded input number) :
    reader.shift.Ready input (number + 1) := by
  obtain ⟨word, found, bits⟩ := loaded.bits
  have remaining := loaded.remaining
  have layoutAt := loaded.layoutAt
  unfold Ready
  by_cases last : (number + 1) % 32 = 0
  · rw [if_pos last]
    constructor
    · show reader.remaining - 1 = 0
      omega
    · show reader.layoutAt = _
      omega
  · rw [if_neg last]
    have same : (number + 1) / 32 = number / 32 := by omega
    have next : (number + 1) % 32 = number % 32 + 1 := by omega
    refine ⟨⟨word, ?_, ?_⟩, ?_, ?_⟩
    · rw [same, found]
    · rw [next, pow_succ, ← mul_assoc, ← ofNat_shiftLeft_one, ← bits]
      rfl
    · show reader.remaining - 1 = _
      omega
    · show reader.layoutAt = _
      omega

theorem read_eq (ready : reader.Ready input number) :
    match layoutBit input number with
    | .error corruption => reader.read input = throw (.corrupt corruption)
    | .ok bit => ∃ next : BitReader, reader.read input = pure (bit, next) ∧
      next.Ready input (number + 1) := by
  unfold Ready at ready
  split at ready
  next first =>
    obtain ⟨remaining, layoutAt⟩ := ready
    rw [read, refill, if_pos remaining, readWord_eq, layoutAt]
    cases found : word input (headerSize + number / 32 * 4) with
    | error =>
      rw [layoutBit, found]
      rfl
    | ok word =>
      let loaded : BitReader := ⟨.ofNat word, 32, headerSize + number / 32 * 4 + 4⟩
      have holds : loaded.Loaded input number := by
        refine ⟨⟨word, found, ?_⟩, ?_, ?_⟩
        · rw [first, pow_zero, mul_one]
        · rw [first]
        · show headerSize + number / 32 * 4 + 4 = _
          omega
      rw [holds.layoutBit_eq]
      exact ⟨loaded.shift, rfl, holds.ready_shift⟩
  next inside =>
    have remaining := ready.remaining
    rw [ready.layoutBit_eq, read, refill, if_neg (by omega)]
    exact ⟨reader.shift, rfl, ready.ready_shift⟩

end BitReader

namespace Decoder

/-- The decoder has come past so many layout bits, literals and copies of a block. -/
structure Stands (input : Bytes) (header : Header) (number literals copies : Nat) (out : Bytes)
    (decoder : Decoder) : Prop where
  ready : decoder.reader.Ready input number
  copiesAt : decoder.copiesAt = header.copies + 2 * copies
  literalsAt : decoder.literalsAt = header.literals + literals
  out : decoder.out = out

theorem takeLiteral_eq (stands : decoder.Stands input header number literals copies out)
    (more : out.size < length) :
    match input[header.literals + literals]? with
    | some byte => ∃ next, decoder.takeLiteral input length = pure next ∧
      next.Stands input header number (literals + 1) copies (out.push byte)
    | none => decoder.takeLiteral input length = throw (.corrupt .literalMissing) := by
  obtain ⟨ready, copiesAt, literalsAt, rfl⟩ := stands
  rw [takeLiteral, literalsAt]
  cases input[header.literals + literals]? with
  | none => rfl
  | some byte =>
    simp only [put_eq more]
    exact ⟨_, rfl, ready, copiesAt, rfl, rfl⟩

theorem takeCopy_eq (stands : decoder.Stands input header number literals copies out)
    (more : out.size < length) :
    match number? input (header.copies + 2 * copies) 2 with
    | some pair =>
      let distance := pair % 4096 + 1
      let count := pair / 4096 + 3
      if reach : 0 < distance ∧ distance ≤ out.size ∧ 0 < count then
        ∃ next, decoder.takeCopy input length = pure next ∧
          next.Stands input header number literals (copies + 1)
            (copyBack length distance reach.1 count out reach.2.1)
      else decoder.takeCopy input length = throw (.corrupt (.distanceTooLong distance out.size))
    | none => decoder.takeCopy input length = throw (.corrupt .copyMissing) := by
  obtain ⟨ready, copiesAt, literalsAt, rfl⟩ := stands
  rw [takeCopy, readNumber_eq, copiesAt]
  cases number? input (header.copies + 2 * copies) 2 with
  | none => rfl
  | some pair =>
    have low : pair &&& 0xFFF = pair % 4096 := Nat.and_two_pow_sub_one_eq_mod pair 12
    have high : pair >>> 12 = pair / 4096 := Nat.shiftRight_eq_div_pow pair 12
    simp only [pure_bind, low, high]
    by_cases far : decoder.out.size < pair % 4096 + 1
    · rw [dif_neg (by omega), if_pos far, throw_bind]
    · have reach : 0 < pair % 4096 + 1 ∧ pair % 4096 + 1 ≤ decoder.out.size ∧
          0 < pair / 4096 + 3 := by omega
      have copied := copyOn_eq (pair / 4096 + 3) reach.1 reach.2.1 (Nat.le_of_lt more)
      rw [dif_pos reach, if_neg far, copied]
      exact ⟨_, rfl, ready, rfl, literalsAt, rfl⟩

theorem round_eq
    (stands : decoder.Stands input header (literals + copies) literals copies out)
    (more : out.size < header.length) :
    match token input header literals copies with
    | .error corruption => decoder.round input header.length = throw (.corrupt corruption)
    | .ok (.literal byte) => ∃ next, decoder.round input header.length = pure next ∧
      next.Stands input header (literals + 1 + copies) (literals + 1) copies (out.push byte)
    | .ok (.copy distance count) =>
      if reach : 0 < distance ∧ distance ≤ out.size ∧ 0 < count then
        ∃ next, decoder.round input header.length = pure next ∧
          next.Stands input header (literals + (copies + 1)) literals (copies + 1)
            (copyBack header.length distance reach.1 count out reach.2.1)
      else decoder.round input header.length =
        throw (.corrupt (.distanceTooLong distance out.size)) := by
  have read := BitReader.read_eq stands.ready
  cases selected : layoutBit input (literals + copies) with
  | error corruption =>
    rw [selected] at read
    rw [token, round, read, selected]
    rfl
  | ok literal =>
    rw [selected] at read
    obtain ⟨reader, read, ready⟩ := read
    have stands : Stands input header (literals + copies + 1) literals copies out
        { decoder with reader } := { stands with ready }
    rw [round, read, token, selected]
    cases literal with
    | true =>
      have taken := takeLiteral_eq stands more
      rw [Nat.add_right_comm] at taken
      simp only [pure_bind, ok_bind, if_true]
      cases there : input[header.literals + literals]? <;> rw [there] at taken <;> exact taken
    | false =>
      have taken := takeCopy_eq stands more
      simp only [pure_bind, ok_bind, Bool.false_eq_true, if_false]
      cases there : number? input (header.copies + 2 * copies) 2 <;> rw [there] at taken <;> exact taken

/-- Every round makes the output longer, so that a round for each byte and one more are enough. -/
theorem loop_eq {rounds : Nat}
    (stands : decoder.Stands input header (literals + copies) literals copies out)
    (enough : header.length - out.size < rounds) :
    (loop input header.length rounds decoder).run =
      some ((expandFrom input header literals copies out).mapError .corrupt) := by
  induction rounds generalizing decoder literals copies out with
  | zero => omega
  | succ rounds ih =>
    rw [loop, expandFrom, stands.out]
    by_cases more : out.size < header.length
    · rw [if_pos more, dif_pos more]
      have taken := round_eq stands more
      cases found : token input header literals copies with
      | error =>
        rw [found] at taken
        rw [taken]
        rfl
      | ok next =>
        rw [found] at taken
        cases next with
        | literal byte =>
          obtain ⟨next, taken, stands⟩ := taken
          rw [taken, pure_bind]
          apply ih stands
          rw [Array.size_push]
          omega
        | copy distance count =>
          by_cases reach : 0 < distance ∧ distance ≤ out.size ∧ 0 < count
          · simp only [dif_pos reach] at taken ⊢
            obtain ⟨next, taken, stands⟩ := taken
            rw [taken, pure_bind]
            apply ih stands
            rw [size_copyBack]
            omega
          · simp only [dif_neg reach] at taken ⊢
            rw [taken]
            rfl
    · rw [if_neg more, dif_neg more]
      rfl

end Decoder

theorem exists_word (input : Bytes) (place : Nat) (inside : place + 4 ≤ input.size) :
    ∃ number, word input place = .ok number := by
  rw [word, number?, if_pos inside]
  exact ⟨_, rfl⟩

/-- The decoder does nothing wrong, comes to an end in time and answers what expansion does. -/
theorem decode_eq (input : Bytes) (limit : Nat) :
    (decode (limit + 1) input limit).run = some (expand input limit) := by
  by_cases short : input.size < headerSize
  · have header : readHeader input = .error .missingHeader := if_pos (.inl short)
    rw [decode, if_pos short, expand, header]
    rfl
  · have long : 16 ≤ input.size := Nat.not_lt.mp short
    rw [decode, if_neg short, bytesFrom_eq (by omega), pure_bind, Nat.zero_add]
    by_cases marked : (input.extract 0 4).toList = mark
    · obtain ⟨length, hasLength⟩ := exists_word input 4 (by omega)
      obtain ⟨copies, hasCopies⟩ := exists_word input 8 (by omega)
      obtain ⟨literals, hasLiterals⟩ := exists_word input 12 (by omega)
      have header : readHeader input = .ok ⟨length, copies, literals⟩ := readHeader_eq_ok.mpr
        ⟨marked, word_eq_ok.mp hasLength, word_eq_ok.mp hasCopies, word_eq_ok.mp hasLiterals⟩
      simp only [marked, readWord_eq, hasLength, hasCopies, hasLiterals, ne_eq, not_true_eq_false,
        if_false, pure_bind, expand, header]
      by_cases tooLong : limit < length
      · rw [if_pos tooLong, if_pos tooLong]
        rfl
      · rw [if_neg tooLong, if_neg tooLong]
        have begun : Decoder.Stands input ⟨length, copies, literals⟩ (0 + 0) 0 0
            (Array.emptyWithCapacity 0) ⟨⟨0, 0, headerSize⟩, copies, literals, #[]⟩ :=
          ⟨⟨rfl, rfl⟩, rfl, rfl, rfl⟩
        rw [Decoder.loop_eq begun (Nat.lt_succ_of_le (Nat.not_lt.mp tooLong))]
        cases expandFrom input ⟨length, copies, literals⟩ 0 0 (Array.emptyWithCapacity 0) <;> rfl
    · have header : readHeader input = .error .missingHeader := if_pos (.inr marked)
      rw [if_pos marked, expand, header]
      rfl

theorem exists_header_of_expand {bytes : Bytes} {limit : Nat} (expands : expand input limit = .ok bytes) :
    ∃ header, readHeader input = .ok header ∧ bytes.size = header.length ∧
      header.length ≤ limit := by
  have within := size_of_expand expands
  unfold expand at expands
  split at expands
  next => cases expands
  next header read =>
    split at expands
    next => cases expands
    next =>
      split at expands
      next => cases expands
      next expanded put =>
        cases expands
        have size := size_of_expandFrom (Nat.zero_le _) put
        exact ⟨header, read, size, size ▸ within⟩

-- A copy that reaches back before the first byte is found out before anything is read there.
example :
    (decode 9 #[0x4D, 0x49, 0x4F, 0x30, 0, 0, 0, 8, 0, 0, 0, 0x14, 0, 0, 0, 0x16, 0x80, 0, 0, 0,
      0x00, 0x02, 7] 8).run = some (.error (.corrupt (.distanceTooLong 3 1))) := by
  decide +kernel

end Mio0

namespace Memory

variable {memory : Memory}

/-- What becomes of a load of a block: it changes nothing if the segment, the range or the block itself
is bad, and else adds the expanded block in one pooled buffer, which is charged and mapped. -/
inductive Unpacked (memory : Memory) (segment : Int) (start stop : Nat) :
    EStateM.Result MemoryError Memory (Option BufferId) → Prop where
  | badSegment {error : MemoryError} (found : segmentIndex segment = .error error) :
    Unpacked memory segment start stop (.error error memory)
  | badRange {index : Fin segmentCount} {error : MemoryError}
    (found : segmentIndex segment = .ok index) (read : memory.readImage start stop = .error error) :
    Unpacked memory segment start stop (.error error memory)
  | badBlock {index : Fin segmentCount} {block : Bytes} {failure : Mio0.Failure}
    (found : segmentIndex segment = .ok index) (read : memory.readImage start stop = .ok block)
    (expands : Mio0.expand block memory.available = .error failure) :
    Unpacked memory segment start stop (.error (.ofExpansion failure) memory)
  | loaded {index : Fin segmentCount} {block bytes : Bytes} {header : Mio0.Header}
    (found : segmentIndex segment = .ok index) (read : memory.readImage start stop = .ok block)
    (expands : Mio0.expand block memory.available = .ok bytes)
    (declared : Mio0.readHeader block = .ok header) (whole : bytes.size = header.length)
    (fits : memory.used + header.length ≤ memory.capacity) :
    Unpacked memory segment start stop (.ok (some memory.slots.size) { memory with
      used := memory.used + header.length
      slots := memory.slots.push (some ⟨bytes, true⟩)
      segments := memory.segments.set index (some ⟨memory.slots.size, 0⟩) index.isLt })

theorem unpacked_perform (accounted : memory.Accounted) (segment : Int) (start stop : Nat) :
    memory.Unpacked segment start stop
      ((Operation.loadSegment segment start stop .mio0).perform memory) := by
  rw [Operation.perform_eq, Operation.outcome, loadSegment]
  cases found : segmentIndex segment with
  | error => exact .badSegment found
  | ok index =>
    rw [ok_bind]
    cases read : memory.readImage start stop with
    | error => exact .badRange found read
    | ok block =>
      rw [ok_bind, unpack]
      cases expands : Mio0.expand block memory.available with
      | error => exact .badBlock found read expands
      | ok bytes =>
        obtain ⟨header, declared, whole, within⟩ := Mio0.exists_header_of_expand expands
        have room : memory.available = memory.capacity - memory.used := rfl
        have used := accounted.capacity
        have loaded := Unpacked.loaded found read expands declared whole (by omega)
        rw [← whole] at loaded
        exact loaded

/-- No block can do harm. Decoding one never goes wrong and comes to an end in one round more than the
limit has bytes, with an error or with exactly the bytes it declares; and in every memory that
calls can lead to, a load of a block changes nothing or adds just those bytes, within the capacity. -/
theorem blocks_harmless (image : Bytes) (capacity : Nat) (operations : List Operation) :
    (∀ input limit, ∃ result, (Mio0.decode (limit + 1) input limit).run = some result ∧
      result = Mio0.expand input limit ∧
      ∀ bytes, result = .ok bytes → ∃ header, Mio0.readHeader input = .ok header ∧
        bytes.size = header.length ∧ header.length ≤ limit) ∧
    let memory := (ofImage image capacity).calls operations
    ∀ segment start stop, memory.Unpacked segment start stop
      ((Operation.loadSegment segment start stop .mio0).perform memory) := by
  constructor
  · intro input limit
    refine ⟨_, Mio0.decode_eq input limit, rfl, ?_⟩
    intro bytes
    exact Mio0.exists_header_of_expand
  · intro memory segment start stop
    exact unpacked_perform (accounted_and_mapped image capacity operations).1 segment start stop

end Memory

end StageScript
