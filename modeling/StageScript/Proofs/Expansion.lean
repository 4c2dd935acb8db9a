import StageScript.Memory.Mio0
import StageScript.Proofs.Encoding

/-!
Which blocks expand, and to what. A sequence of tokens stands for a byte string when each literal
is the byte that comes next and each copy reaches back to bytes that repeat; copies may overlap
the bytes they produce, and the last one may run past the end. A block carries a sequence of
tokens when its header leads to streams that spell it, whatever else there is in the block.
Expansion succeeds on exactly the blocks that carry tokens for some byte string within the limit,
and gives that byte string.
-/

namespace StageScript.Mio0

/-- The tokens produce the bytes from a place on, given those before it. -/
inductive Produces (bytes : Bytes) : (place : Nat) → List Token → Prop where
  | done : Produces bytes bytes.size []
  | literal {place : Nat} {byte : UInt8} {rest : List Token} (next : bytes[place]? = some byte)
      (behind : Produces bytes (place + 1) rest) : Produces bytes place (.literal byte :: rest)
  | copy {place distance count : Nat} {rest : List Token} (more : place < bytes.size)
      (near : 1 ≤ distance ∧ distance ≤ 4096) (reaches : distance ≤ place)
      (short : 3 ≤ count ∧ count ≤ 18)
      (repeats : ∀ index < min bytes.size (place + count), place ≤ index →
        bytes[index]? = bytes[index - distance]?)
      (behind : Produces bytes (min bytes.size (place + count)) rest) :
      Produces bytes place (.copy distance count :: rest)

/-- The number stands at the place in so many bytes, most significant first. -/
def Stores (input : Bytes) (place width number : Nat) : Prop :=
  (input.extract place (place + width)).toList = ByteOrder.big.encode width number

def Token.isLiteral : Token → Bool
  | .literal _ => true
  | .copy _ _ => false

def Token.byte? : Token → Option UInt8
  | .literal byte => some byte
  | .copy _ _ => none

def Token.pair? : Token → Option Nat
  | .literal _ => none
  | .copy distance count => some ((count - 3) * 4096 + (distance - 1))

/-- The streams that a header leads to hold the tokens that follow after so many literals and
copies. -/
structure Holds (input : Bytes) (header : Header) (literals copies : Nat) (tokens : List Token) :
    Prop where
  layout (number : Nat) (bit : Bool) (selected : (tokens.map Token.isLiteral)[number]? = some bit) :
    ∃ bits < limit32, Stores input (headerSize + (literals + copies + number) / 32 * 4) 4 bits ∧
      bits.testBit (31 - (literals + copies + number) % 32) = bit
  bytes (number : Nat) (byte : UInt8)
      (spelt : (tokens.filterMap Token.byte?)[number]? = some byte) :
    input[header.literals + (literals + number)]? = some byte
  pairs (number : Nat) (pair : Nat)
      (spelt : (tokens.filterMap Token.pair?)[number]? = some pair) :
    Stores input (header.copies + 2 * (copies + number)) 2 pair

/-- The block has this header, and its streams hold the tokens from their beginning on. -/
structure Carries (input : Bytes) (header : Header) (tokens : List Token) : Prop where
  marked : (input.extract 0 4).toList = mark
  length : header.length < limit32 ∧ Stores input 4 4 header.length
  copies : header.copies < limit32 ∧ Stores input 8 4 header.copies
  literals : header.literals < limit32 ∧ Stores input 12 4 header.literals
  streams : Holds input header 0 0 tokens

variable {input out bytes : Bytes} {header : Header} {literals copies : Nat}
variable {tokens rest : List Token}

theorem Stores.fits {place width number : Nat} (stored : Stores input place width number)
    (positive : 0 < width) : place + width ≤ input.size := by
  have lengths := congrArg List.length stored
  rw [ByteOrder.length_encode, Array.length_toList, Array.size_extract] at lengths
  omega

theorem number?_eq_some {place width number : Nat} (positive : 0 < width) :
    number? input place width = some number ↔
      number < countOfBytes width ∧ Stores input place width number := by
  unfold number? Stores
  constructor
  · intro found
    split at found
    next fits =>
      have width' : (input.extract place (place + width)).toList.length = width := by
        rw [Array.length_toList, Array.size_extract]
        omega
      have small := ByteOrder.big.decode_lt (input.extract place (place + width)).toList
      have back := ByteOrder.big.encode_decode (input.extract place (place + width)).toList
      rw [width'] at small back
      cases found
      exact ⟨small, back.symm⟩
    next => cases found
  · rintro ⟨small, stored⟩
    rw [if_pos (Stores.fits stored positive), stored, ByteOrder.decode_encode, Nat.mod_eq_of_lt small]

theorem word_eq_ok {place number : Nat} :
    word input place = .ok number ↔ number < limit32 ∧ Stores input place 4 number := by
  have stored : number? input place 4 = some number ↔ _ := number?_eq_some (by omega)
  rw [show limit32 = countOfBytes 4 from rfl, ← stored]
  unfold word
  split
  next found => simp [found]
  next missing => simp [missing]

theorem readHeader_eq_ok :
    readHeader input = .ok header ↔
      (input.extract 0 4).toList = mark ∧
      (header.length < limit32 ∧ Stores input 4 4 header.length) ∧
      (header.copies < limit32 ∧ Stores input 8 4 header.copies) ∧
      (header.literals < limit32 ∧ Stores input 12 4 header.literals) := by
  simp only [← word_eq_ok]
  unfold readHeader
  constructor
  · intro read
    split at read
    next => cases read
    next present =>
      rw [not_or, not_not] at present
      simp only [bind_eq_ok] at read
      obtain ⟨length, hasLength, copies, hasCopies, literals, hasLiterals, same⟩ := read
      cases same
      exact ⟨present.2, hasLength, hasCopies, hasLiterals⟩
  · rintro ⟨marked, hasLength, hasCopies, hasLiterals⟩
    have fits : headerSize ≤ input.size := (word_eq_ok.mp hasLiterals).2.fits (by omega)
    rw [if_neg (not_or.mpr ⟨Nat.not_lt.mpr fits, not_not.mpr marked⟩)]
    simp only [bind_eq_ok]
    exact ⟨_, hasLength, _, hasCopies, _, hasLiterals, rfl⟩

theorem layoutBit_eq_ok {number : Nat} {bit : Bool} :
    layoutBit input number = .ok bit ↔
      ∃ bits < limit32, Stores input (headerSize + number / 32 * 4) 4 bits ∧
        bits.testBit (31 - number % 32) = bit := by
  unfold layoutBit
  simp only [bind_eq_ok, word_eq_ok, pure, Except.pure, Except.ok.injEq, and_assoc]

theorem token_eq_literal {byte : UInt8} :
    token input header literals copies = .ok (.literal byte) ↔
      layoutBit input (literals + copies) = .ok true ∧
        input[header.literals + literals]? = some byte := by
  unfold token
  rw [bind_eq_ok]
  constructor
  · rintro ⟨_ | _, selected, found⟩
    · simp only [Bool.false_eq_true, if_false] at found
      split at found <;> cases found
    · simp only [if_true] at found
      split at found
      next byte' present =>
        cases found
        exact ⟨selected, present⟩
      next => cases found
  · rintro ⟨selected, present⟩
    refine ⟨true, selected, ?_⟩
    simp only [if_true, present]
    rfl

theorem token_eq_copy {distance count : Nat} :
    token input header literals copies = .ok (.copy distance count) ↔
      layoutBit input (literals + copies) = .ok false ∧
        (1 ≤ distance ∧ distance ≤ 4096) ∧ (3 ≤ count ∧ count ≤ 18) ∧
        Stores input (header.copies + 2 * copies) 2 ((count - 3) * 4096 + (distance - 1)) := by
  have stored {pair : Nat} :
      number? input (header.copies + 2 * copies) 2 = some pair ↔ pair < 65536 ∧ _ :=
    number?_eq_some (by omega)
  unfold token
  rw [bind_eq_ok]
  constructor
  · rintro ⟨_ | _, selected, found⟩
    · simp only [Bool.false_eq_true, if_false] at found
      split at found
      next pair present =>
        cases found
        obtain ⟨small, present⟩ := stored.mp present
        have whole : (pair / 4096 + 3 - 3) * 4096 + (pair % 4096 + 1 - 1) = pair := by omega
        rw [whole]
        exact ⟨selected, by omega, by omega, present⟩
      next => cases found
    · simp only [if_true] at found
      split at found <;> cases found
  · rintro ⟨selected, near, short, present⟩
    refine ⟨false, selected, ?_⟩
    have low : ((count - 3) * 4096 + (distance - 1)) % 4096 + 1 = distance := by omega
    have high : ((count - 3) * 4096 + (distance - 1)) / 4096 + 3 = count := by omega
    simp only [Bool.false_eq_true, if_false, stored.mpr ⟨by omega, present⟩, low, high]
    rfl

theorem holds_nil : Holds input header literals copies [] where
  layout number bit selected := by simp at selected
  bytes number byte spelt := by simp at spelt
  pairs number pair spelt := by simp at spelt

theorem holds_literal {byte : UInt8} :
    Holds input header literals copies (.literal byte :: rest) ↔
      token input header literals copies = .ok (.literal byte) ∧
        Holds input header (literals + 1) copies rest := by
  rw [token_eq_literal, layoutBit_eq_ok]
  constructor
  · intro holds
    refine ⟨⟨?_, ?_⟩, ?_, ?_, ?_⟩
    · exact holds.layout 0 true rfl
    · exact holds.bytes 0 byte rfl
    · intro number bit selected
      have next := holds.layout (number + 1) bit selected
      rwa [show literals + copies + (number + 1) = literals + 1 + copies + number by omega] at next
    · intro number byte spelt
      have next := holds.bytes (number + 1) byte spelt
      rwa [show literals + (number + 1) = literals + 1 + number by omega] at next
    · exact holds.pairs
  · rintro ⟨⟨selects, present⟩, behind⟩
    refine ⟨?_, ?_, behind.pairs⟩
    · rintro (_ | number) bit selected
      · cases selected
        exact selects
      · have next := behind.layout number bit selected
        rwa [show literals + 1 + copies + number = literals + copies + (number + 1) by omega] at next
    · rintro (_ | number) byte' spelt
      · cases spelt
        exact present
      · have next := behind.bytes number byte' spelt
        rwa [show literals + 1 + number = literals + (number + 1) by omega] at next

theorem holds_copy {distance count : Nat} (near : 1 ≤ distance ∧ distance ≤ 4096)
    (short : 3 ≤ count ∧ count ≤ 18) :
    Holds input header literals copies (.copy distance count :: rest) ↔
      token input header literals copies = .ok (.copy distance count) ∧
        Holds input header literals (copies + 1) rest := by
  rw [token_eq_copy, layoutBit_eq_ok]
  constructor
  · intro holds
    refine ⟨⟨?_, near, short, ?_⟩, ?_, ?_, ?_⟩
    · exact holds.layout 0 false rfl
    · exact holds.pairs 0 _ rfl
    · intro number bit selected
      have next := holds.layout (number + 1) bit selected
      rwa [show literals + copies + (number + 1) = literals + (copies + 1) + number by omega] at next
    · exact holds.bytes
    · intro number pair spelt
      have next := holds.pairs (number + 1) pair spelt
      rwa [show copies + (number + 1) = copies + 1 + number by omega] at next
  · rintro ⟨⟨selects, -, -, present⟩, behind⟩
    refine ⟨?_, behind.bytes, ?_⟩
    · rintro (_ | number) bit selected
      · cases selected
        exact selects
      · have next := behind.layout number bit selected
        rwa [show literals + (copies + 1) + number = literals + copies + (number + 1) by omega] at next
    · rintro (_ | number) pair spelt
      · cases spelt
        exact present
      · have next := behind.pairs number pair spelt
        rwa [show copies + 1 + number = copies + (number + 1) by omega] at next

def Begins (out bytes : Bytes) : Prop :=
  ∀ (place : Nat) (inside : place < out.size), bytes[place]? = some out[place]

theorem begins_push {byte : UInt8} :
    Begins (out.push byte) bytes ↔ Begins out bytes ∧ bytes[out.size]? = some byte := by
  constructor
  · intro begins
    refine ⟨?_, ?_⟩
    · intro place inside
      rw [begins place (by rw [Array.size_push]; omega), Array.getElem_push_lt inside]
    · rw [begins out.size (by rw [Array.size_push]; omega), Array.getElem_push_eq]
  · rintro ⟨begins, next⟩ place inside
    rw [Array.size_push] at inside
    by_cases old : place < out.size
    · rw [begins place old, Array.getElem_push_lt old]
    · obtain rfl : place = out.size := by omega
      rw [next, Array.getElem_push_eq]

theorem Begins.eq (begins : Begins out bytes) (whole : bytes.size = out.size) : out = bytes := by
  apply Array.ext whole.symm
  intro place inside inside'
  have same := begins place inside
  rw [Array.getElem?_eq_getElem inside', Option.some.injEq] at same
  exact same.symm

theorem begins_copyBack {length distance count : Nat} (positive : 0 < distance)
    (inside : distance ≤ out.size) :
    Begins (copyBack length distance positive count out inside) bytes ↔
      Begins out bytes ∧ ∀ index < min length (out.size + count), out.size ≤ index →
        bytes[index]? = bytes[index - distance]? := by
  induction count generalizing out with
  | zero =>
    have none : ∀ index < min length (out.size + 0), ¬ out.size ≤ index := by omega
    simp only [copyBack]
    exact ⟨fun begins => ⟨begins, fun index below behind => absurd behind (none index below)⟩,
      And.left⟩
  | succ count ih =>
    simp only [copyBack]
    split
    next more =>
      rw [ih, begins_push, Array.size_push, and_assoc]
      apply and_congr_right
      intro begins
      rw [← begins (out.size - distance) (by omega)]
      constructor
      · rintro ⟨next, others⟩ index below behind
        by_cases first : index = out.size
        · rw [first, next]
        · exact others index (by omega) (by omega)
      · intro all
        refine ⟨all out.size (by omega) (Nat.le_refl _), ?_⟩
        intro index below behind
        exact all index (by omega) (by omega)
    next full =>
      have none : ∀ index < min length (out.size + (count + 1)), ¬ out.size ≤ index := by omega
      exact ⟨fun begins => ⟨begins, fun index below behind => absurd behind (none index below)⟩,
        And.left⟩

theorem produces_of_expandFrom (inside : out.size ≤ header.length)
    (expands : expandFrom input header literals copies out = .ok bytes) :
    Begins out bytes ∧ bytes.size = header.length ∧
      ∃ tokens, Holds input header literals copies tokens ∧ Produces bytes out.size tokens := by
  fun_induction expandFrom input header literals copies out with
  | case1 => cases expands
  | case2 literals copies out more byte found ih =>
    rw [Array.size_push] at ih
    obtain ⟨begins, size, rest, held, behind⟩ := ih (by omega) expands
    obtain ⟨begins, next⟩ := begins_push.mp begins
    exact ⟨begins, size, _, holds_literal.mpr ⟨found, held⟩, .literal next behind⟩
  | case3 literals copies out more distance count found reach ih =>
    rw [size_copyBack] at ih
    obtain ⟨begins, size, rest, held, behind⟩ := ih (by omega) expands
    obtain ⟨begins, repeats⟩ := (begins_copyBack reach.1 reach.2.1).mp begins
    obtain ⟨-, near, short, -⟩ := token_eq_copy.mp found
    have reached : max out.size (min header.length (out.size + count)) =
        min bytes.size (out.size + count) := by omega
    rw [reached] at behind
    rw [← size] at repeats
    exact ⟨begins, size, _, (holds_copy near short).mpr ⟨found, held⟩,
      .copy (by omega) near reach.2.1 short repeats behind⟩
  | case4 => cases expands
  | case5 literals copies out full =>
    have same : out = bytes := Except.ok.inj expands
    subst same
    refine ⟨?_, by omega, [], holds_nil, .done⟩
    intro place inside
    exact Array.getElem?_eq_getElem inside

theorem expandFrom_of_produces (produces : Produces bytes out.size tokens)
    (held : Holds input header literals copies tokens) (size : header.length = bytes.size)
    (begins : Begins out bytes) :
    expandFrom input header literals copies out = .ok bytes := by
  generalize place : out.size = reached at produces
  induction produces generalizing out literals copies with
  | done =>
    rw [expandFrom, dif_neg (by omega), begins.eq place.symm]
  | @literal _ byte rest next behind ih =>
    obtain ⟨found, held⟩ := holds_literal.mp held
    have more : out.size < header.length := by
      obtain ⟨inside, -⟩ := Array.getElem?_eq_some_iff.mp next
      omega
    rw [expandFrom, dif_pos more, found]
    subst place
    exact ih held (begins_push.mpr ⟨begins, next⟩) (Array.size_push byte)
  | @copy _ distance count rest more near reaches short repeats behind ih =>
    obtain ⟨found, held⟩ := (holds_copy near short).mp held
    rw [expandFrom, dif_pos (by omega), found]
    subst place
    have reach : 0 < distance ∧ distance ≤ out.size ∧ 0 < count := by omega
    simp only [dif_pos reach]
    refine ih held ((begins_copyBack reach.1 reach.2.1).mpr ⟨begins, ?_⟩) ?_
    · rwa [size]
    · rw [size_copyBack]
      omega

/-- Expansion is the inverse of every way to compress: it gives a byte string exactly for the
blocks that carry tokens which produce it, its length standing in the header. -/
theorem expand_eq_ok_iff {limit : Nat} :
    expand input limit = .ok bytes ↔
      bytes.size ≤ limit ∧ ∃ header tokens, header.length = bytes.size ∧
        Carries input header tokens ∧ Produces bytes 0 tokens := by
  constructor
  · intro expands
    unfold expand at expands
    split at expands
    next => cases expands
    next header read =>
      split at expands
      next => cases expands
      next fits =>
        split at expands
        next => cases expands
        next out put =>
          cases expands
          obtain ⟨-, size, tokens, held, produces⟩ := produces_of_expandFrom (Nat.zero_le _) put
          obtain ⟨marked, length, copies, literals⟩ := readHeader_eq_ok.mp read
          exact ⟨by omega, header, tokens, size.symm,
            ⟨marked, length, copies, literals, held⟩, produces⟩
  · rintro ⟨fits, header, tokens, size, carries, produces⟩
    have read := readHeader_eq_ok.mpr
      ⟨carries.marked, carries.length, carries.copies, carries.literals⟩
    have empty : Begins (Array.emptyWithCapacity 0) bytes := fun place inside =>
      absurd inside (Nat.not_lt_zero place)
    have put : expandFrom input header 0 0 (Array.emptyWithCapacity 0) = .ok bytes :=
      expandFrom_of_produces produces carries.streams size empty
    simp only [expand, read, put, if_neg (show ¬ limit < header.length by omega)]

/-- Two literals and a copy that repeats them past the end; the other layout bits and the last
byte of the block say nothing. -/
example :
    expand #[0x4D, 0x49, 0x4F, 0x30, 0, 0, 0, 5, 0, 0, 0, 0x14, 0, 0, 0, 0x16, 0xDF, 0, 0, 0xFF,
      0x20, 1, 7, 9, 0xEE] 5 = .ok #[7, 9, 7, 9, 7] := by
  decide +kernel

end StageScript.Mio0
